import Mathlib.Logic.Function.Basic
import VeriPay.Lib.DateTime
import VeriPay.Common.Enums

/-!
The append-only analyst feedback log. A submission whose idempotency key is known
answers the record it made the first time and appends nothing.
-/

namespace VeriPay.FeedbackLoop

open Lib Common

structure FeedbackSubmission where
  idempotencyKey : NonEmptyStr
  transactionId : NonEmptyStr
  analystId : NonEmptyStr
  label : ReviewLabel
  reasonCodes : List String := []
  decisionAction : NonEmptyStr
  createdAt : Option DateTime := none

structure FeedbackRecord where
  eventId : String
  idempotencyKey : NonEmptyStr
  transactionId : NonEmptyStr
  analystId : NonEmptyStr
  label : ReviewLabel
  reasonCodes : List String
  decisionAction : NonEmptyStr
  createdAt : DateTime
  deriving DecidableEq

structure InMemoryFeedbackRepository where
  records : List FeedbackRecord := []
  byKey : String → Option FeedbackRecord := fun _ => none

namespace InMemoryFeedbackRepository

def recordOf (repository : InMemoryFeedbackRepository) (now : DateTime)
    (submission : FeedbackSubmission) : FeedbackRecord where
  eventId := "feedback_" ++ toString (repository.records.length + 1)
  idempotencyKey := submission.idempotencyKey
  transactionId := submission.transactionId
  analystId := submission.analystId
  label := submission.label
  reasonCodes := submission.reasonCodes
  decisionAction := submission.decisionAction
  createdAt := submission.createdAt.getD now

def append (repository : InMemoryFeedbackRepository) (now : DateTime)
    (submission : FeedbackSubmission) : FeedbackRecord × InMemoryFeedbackRepository :=
  match repository.byKey submission.idempotencyKey.val with
  | some existing => (existing, repository)
  | none =>
    let record := repository.recordOf now submission
    (record,
      { records := repository.records ++ [record]
        byKey := Function.update repository.byKey record.idempotencyKey.val (some record) })

def list (repository : InMemoryFeedbackRepository) (transactionId : Option String) :
    List FeedbackRecord :=
  match transactionId with
  | none => repository.records
  | some id => repository.records.filter (fun record => record.transactionId.val = id)

/-- The index holds the record of every logged key and of no other. -/
def Indexed (repository : InMemoryFeedbackRepository) : Prop :=
  ∀ key, repository.byKey key =
    repository.records.find? (fun record => record.idempotencyKey.val = key)

theorem indexed_empty : ({} : InMemoryFeedbackRepository).Indexed := fun _ => rfl

theorem append_known {repository : InMemoryFeedbackRepository} (h : repository.Indexed)
    (now : DateTime) {submission : FeedbackSubmission} {record : FeedbackRecord}
    (hmem : record ∈ repository.records)
    (hkey : record.idempotencyKey = submission.idempotencyKey) :
    (repository.append now submission).2 = repository := by
  have hsome : (repository.records.find? fun existing =>
      existing.idempotencyKey.val = submission.idempotencyKey.val).isSome = true := by
    rw [List.find?_isSome]
    exact ⟨record, hmem, by rw [hkey]; exact decide_eq_true rfl⟩
  obtain ⟨existing, hexisting⟩ := Option.isSome_iff_exists.mp hsome
  rw [append, h, hexisting]

theorem append_new {repository : InMemoryFeedbackRepository} (h : repository.Indexed)
    (now : DateTime) {submission : FeedbackSubmission}
    (hnew : ∀ record ∈ repository.records,
      record.idempotencyKey ≠ submission.idempotencyKey) :
    (repository.append now submission).2.records =
      repository.records ++ [repository.recordOf now submission] := by
  have hnone : (repository.records.find? fun existing =>
      existing.idempotencyKey.val = submission.idempotencyKey.val) = none := by
    rw [List.find?_eq_none]
    intro record hrecord hkey
    exact hnew record hrecord (Subtype.ext (of_decide_eq_true hkey))
  rw [append, h, hnone]

theorem indexed_append {repository : InMemoryFeedbackRepository} (h : repository.Indexed)
    (now : DateTime) (submission : FeedbackSubmission) :
    (repository.append now submission).2.Indexed := by
  cases hknown : repository.byKey submission.idempotencyKey.val with
  | some existing =>
    rw [append, hknown]
    exact h
  | none =>
    rw [append, hknown]
    intro key
    rw [List.find?_append, ← h key]
    by_cases hkey : submission.idempotencyKey.val = key
    · subst hkey
      rw [hknown]
      simp [recordOf]
    · simp [recordOf, hkey, Ne.symm hkey]

end InMemoryFeedbackRepository

def exportFeedback (repository : InMemoryFeedbackRepository) (transactionId : Option String)
    (label : Option ReviewLabel) : List FeedbackRecord :=
  match label with
  | none => repository.list transactionId
  | some label => (repository.list transactionId).filter (fun record => record.label = label)

end VeriPay.FeedbackLoop
