import Mathlib.Data.List.Nodup
import VeriPay.FeedbackLoop.Service
import VeriPay.Lib.DecimalText
import VeriPay.Lib.Machine

/-!
The feedback log is append-only. A call appends one record under a new key or answers the
record of a known one, and the number an event id carries is the record's place in the log.
-/

namespace VeriPay.FeedbackLoop

open Lib Common

/-- A call, with the time the service would read. -/
structure AppendCall where
  now : DateTime
  submission : FeedbackSubmission

def feedbackMachine : Machine InMemoryFeedbackRepository AppendCall FeedbackRecord where
  step repository call := repository.append call.now call.submission

/-- `f"feedback_{len(self.records) + 1}"`. -/
def eventIdAt (place : ℕ) : String := "feedback_" ++ toString (place + 1)

theorem eventIdAt_injective : Function.Injective eventIdAt := by
  intro place other h
  have hnumber := toString_nat_injective ((String.append_right_inj _).mp h)
  omega

namespace InMemoryFeedbackRepository

variable {repository : InMemoryFeedbackRepository}

/-- The log numbers its records, has each key once, and is indexed by key. -/
structure Logged (repository : InMemoryFeedbackRepository) : Prop where
  eventIds : repository.records.map FeedbackRecord.eventId =
    (List.range repository.records.length).map eventIdAt
  keys : (repository.records.map FeedbackRecord.idempotencyKey).Nodup
  indexed : repository.Indexed

theorem logged_empty : Logged {} where
  eventIds := rfl
  keys := List.nodup_nil
  indexed := indexed_empty

/-- An index entry is a record of the log with that key, and the other way around. -/
theorem Logged.byKey_eq_some_iff (h : repository.Logged) {key : String}
    {record : FeedbackRecord} :
    repository.byKey key = some record ↔
      record ∈ repository.records ∧ record.idempotencyKey.val = key := by
  rw [h.indexed]
  constructor
  · intro hfound
    have hkey := List.find?_some hfound
    exact ⟨List.mem_of_find?_eq_some hfound, of_decide_eq_true hkey⟩
  · rintro ⟨hmem, hkey⟩
    have hsome : (repository.records.find? fun other => other.idempotencyKey.val = key).isSome =
        true := List.find?_isSome.mpr ⟨record, hmem, decide_eq_true hkey⟩
    obtain ⟨other, hother⟩ := Option.isSome_iff_exists.mp hsome
    have hotherKey := List.find?_some hother
    rw [decide_eq_true_eq] at hotherKey
    have hsame := List.inj_on_of_nodup_map h.keys (List.mem_of_find?_eq_some hother) hmem
      (Subtype.ext (hotherKey.trans hkey.symm))
    rw [hother, hsame]

/-- A known key is answered with its record and changes nothing. -/
theorem append_of_known (h : repository.Logged) (now : DateTime)
    {submission : FeedbackSubmission} {record : FeedbackRecord}
    (hmem : record ∈ repository.records)
    (hkey : record.idempotencyKey = submission.idempotencyKey) :
    repository.append now submission = (record, repository) := by
  have hfound : repository.byKey submission.idempotencyKey.val = some record :=
    h.byKey_eq_some_iff.mpr ⟨hmem, congrArg Subtype.val hkey⟩
  rw [append, hfound]

theorem append_cases (h : repository.Logged) (now : DateTime) (submission : FeedbackSubmission) :
    (repository.append now submission).2 = repository ∨
      submission.idempotencyKey ∉ repository.records.map FeedbackRecord.idempotencyKey ∧
        (repository.append now submission).2.records =
          repository.records ++ [repository.recordOf now submission] := by
  by_cases hknown : submission.idempotencyKey ∈
      repository.records.map FeedbackRecord.idempotencyKey
  · obtain ⟨record, hmem, hkey⟩ := List.mem_map.mp hknown
    exact Or.inl (congrArg Prod.snd (append_of_known h now hmem hkey))
  · refine Or.inr ⟨hknown, append_new h.indexed now ?_⟩
    intro record hrecord hkey
    exact hknown (List.mem_map.mpr ⟨record, hrecord, hkey⟩)

theorem records_prefix_append (h : repository.Logged) (now : DateTime)
    (submission : FeedbackSubmission) :
    repository.records <+: (repository.append now submission).2.records := by
  rcases append_cases h now submission with hsame | ⟨-, hrecords⟩
  · exact ⟨[], by rw [hsame, List.append_nil]⟩
  · rw [hrecords]
    exact List.prefix_append _ _

theorem Logged.append (h : repository.Logged) (now : DateTime) (submission : FeedbackSubmission) :
    (repository.append now submission).2.Logged := by
  have hindexed := indexed_append h.indexed now submission
  rcases append_cases h now submission with hsame | ⟨hnew, hrecords⟩
  · rwa [hsame]
  · refine ⟨?_, ?_, hindexed⟩
    · rw [hrecords, List.map_append, h.eventIds, List.length_append, List.length_singleton,
        List.range_succ, List.map_append]
      rfl
    · rw [hrecords, List.map_append, List.map_singleton]
      refine h.keys.append (List.nodup_singleton _) ?_
      intro key hkey hother
      rw [List.mem_singleton.mp hother] at hkey
      exact hnew hkey

theorem Logged.eventIds_nodup (h : repository.Logged) :
    (repository.records.map FeedbackRecord.eventId).Nodup := by
  rw [h.eventIds]
  exact List.nodup_range.map eventIdAt_injective

end InMemoryFeedbackRepository

open InMemoryFeedbackRepository

/-- The record passes the filters of an export. -/
def Matches (transactionId : Option String) (label : Option ReviewLabel)
    (record : FeedbackRecord) : Prop :=
  (transactionId = none ∨ transactionId = some record.transactionId.val) ∧
    (label = none ∨ label = some record.label)

instance (transactionId : Option String) (label : Option ReviewLabel) (record : FeedbackRecord) :
    Decidable (Matches transactionId label record) := inferInstanceAs (Decidable (_ ∧ _))

/-- The two filters of an export are one. -/
theorem exportFeedback_eq_filter (repository : InMemoryFeedbackRepository)
    (transactionId : Option String) (label : Option ReviewLabel) :
    exportFeedback repository transactionId label =
      repository.records.filter fun record => Matches transactionId label record := by
  have hlist : repository.list transactionId = repository.records.filter fun record =>
      transactionId = none ∨ transactionId = some record.transactionId.val := by
    cases transactionId with
    | none => simp [list]
    | some id => simp [list, eq_comm]
  cases label with
  | none => simp [exportFeedback, hlist, Matches]
  | some wanted =>
    rw [exportFeedback, hlist, List.filter_filter]
    refine List.filter_congr ?_
    intro record _
    simp [Matches, eq_comm, and_comm]

/-- What a run of appends may do with the log. -/
structure AppendOnly (calls : List AppendCall) : Prop where
  grows : ∀ pre post, calls = pre ++ post →
    (feedbackMachine.run {} pre).records <+: (feedbackMachine.run {} calls).records
  eventIds : ((feedbackMachine.run {} calls).records.map FeedbackRecord.eventId).Nodup
  keys : ((feedbackMachine.run {} calls).records.map FeedbackRecord.idempotencyKey).Nodup
  byKey : ∀ key record, (feedbackMachine.run {} calls).byKey key = some record ↔
    record ∈ (feedbackMachine.run {} calls).records ∧ record.idempotencyKey.val = key
  known : ∀ e ∈ feedbackMachine.trace {} calls, ∀ record ∈ e.before.records,
    record.idempotencyKey = e.call.submission.idempotencyKey →
      e.answer = record ∧ e.after = e.before
  /-- An export has the matching records, in the order of the log and without repetition. -/
  exported : ∀ transactionId label,
    exportFeedback (feedbackMachine.run {} calls) transactionId label =
        (feedbackMachine.run {} calls).records.filter
          (fun record => Matches transactionId label record) ∧
      (exportFeedback (feedbackMachine.run {} calls) transactionId label).Nodup

theorem run_logged (calls : List AppendCall) : (feedbackMachine.run {} calls).Logged := by
  refine feedbackMachine.run_history_invariant
    (P := fun _ repository => repository.Logged) logged_empty calls ?_
  intro pre call post _ h
  exact h.append call.now call.submission

theorem run_records_prefix (pre post : List AppendCall) :
    (feedbackMachine.run {} pre).records <+: (feedbackMachine.run {} (pre ++ post)).records := by
  induction post using List.reverseRecOn with
  | nil => exact ⟨[], by rw [List.append_nil, List.append_nil]⟩
  | append_singleton post call ih =>
    rw [← List.append_assoc, Machine.run_concat]
    exact ih.trans (records_prefix_append (run_logged _) call.now call.submission)

/-- Every run of appends is append-only. -/
theorem run_appendOnly (calls : List AppendCall) : AppendOnly calls where
  grows := by
    rintro pre post rfl
    exact run_records_prefix pre post
  eventIds := (run_logged calls).eventIds_nodup
  keys := (run_logged calls).keys
  byKey := fun _ _ => (run_logged calls).byKey_eq_some_iff
  known := by
    intro e he record hrecord hkey
    obtain ⟨pre, call, post, -, rfl⟩ := (feedbackMachine.mem_trace_iff _ _ _).mp he
    have hknown := append_of_known (run_logged pre) call.now hrecord hkey
    exact ⟨congrArg Prod.fst hknown, congrArg Prod.snd hknown⟩
  exported := by
    intro transactionId label
    refine ⟨exportFeedback_eq_filter _ _ _, ?_⟩
    rw [exportFeedback_eq_filter]
    exact ((run_logged calls).eventIds_nodup.of_map _).filter _

end VeriPay.FeedbackLoop
