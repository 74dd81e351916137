import VeriPay.Common.Enums
import VeriPay.Lib.DateTime
import VeriPay.Lib.Effect
import VeriPay.Lib.PyDict

/-!
The dispute and chargeback lifecycle: cases by id, an index of their idempotency
keys, the evidence submitted to them, and the transitions a case may take.
-/

namespace VeriPay.DisputeEngine

open Lib Common

/-- A validated case; its currency is in upper case. -/
structure DisputeCase where
  disputeId : NonEmptyStr
  transactionId : NonEmptyStr
  merchantId : Option String := none
  amountMinor : ℕ
  currency : String
  status : DisputeStatus
  reason : DisputeReason
  idempotencyKey : NonEmptyStr
  openedAt : DateTime
  updatedAt : DateTime
  deriving DecidableEq

structure DisputeTransitionRequest where
  status : DisputeStatus
  actor : NonEmptyStr

structure EvidenceSubmission where
  evidenceId : NonEmptyStr
  disputeId : NonEmptyStr
  evidenceType : NonEmptyStr
  providerReference : NonEmptyStr
  submittedBy : NonEmptyStr
  submittedAt : DateTime
  deriving DecidableEq

structure InMemoryDisputeRepository where
  cases : PyDict String DisputeCase := ∅
  byIdempotencyKey : PyDict String String := ∅
  evidence : PyDict String EvidenceSubmission := ∅

namespace InMemoryDisputeRepository

/-- The repository with a case added under its id and its key. -/
def opened (repository : InMemoryDisputeRepository) (case : DisputeCase) :
    InMemoryDisputeRepository :=
  { repository with
    cases := repository.cases.set case.disputeId.val case
    byIdempotencyKey :=
      repository.byIdempotencyKey.set case.idempotencyKey.val case.disputeId.val }

def saved (repository : InMemoryDisputeRepository) (case : DisputeCase) :
    InMemoryDisputeRepository :=
  { repository with cases := repository.cases.set case.disputeId.val case }

def filed (repository : InMemoryDisputeRepository) (evidence : EvidenceSubmission) :
    InMemoryDisputeRepository :=
  { repository with evidence := repository.evidence.set evidence.evidenceId.val evidence }

section Lookup

variable (repository : InMemoryDisputeRepository) (case : DisputeCase)
  (submission : EvidenceSubmission)

theorem cases_opened (id : String) : (repository.opened case).cases.get? id =
    if id = case.disputeId.val then some case else repository.cases.get? id :=
  PyDict.get?_set ..

theorem keys_opened (key : String) : (repository.opened case).byIdempotencyKey.get? key =
    if key = case.idempotencyKey.val then some case.disputeId.val
    else repository.byIdempotencyKey.get? key :=
  PyDict.get?_set ..

theorem cases_saved (id : String) : (repository.saved case).cases.get? id =
    if id = case.disputeId.val then some case else repository.cases.get? id :=
  PyDict.get?_set ..

theorem evidence_filed (id : String) : (repository.filed submission).evidence.get? id =
    if id = submission.evidenceId.val then some submission else repository.evidence.get? id :=
  PyDict.get?_set ..

end Lookup

def create (case : DisputeCase) : Effect InMemoryDisputeRepository DisputeCase := do
  let repository ← get
  match repository.byIdempotencyKey.get? case.idempotencyKey.val with
  | some existingId => repository.cases.item existingId
  | none =>
    if (repository.cases.get? case.disputeId.val).isSome then
      throw (.valueError "Dispute ID already exists")
    else if case.status ≠ .opened then
      throw (.valueError "New disputes must start in OPENED status")
    else
      modify (opened · case)
      return case

def save (case : DisputeCase) : Effect InMemoryDisputeRepository DisputeCase := do
  modify (saved · case)
  return case

def addEvidence (evidence : EvidenceSubmission) :
    Effect InMemoryDisputeRepository EvidenceSubmission := do
  match (← get).evidence.get? evidence.evidenceId.val with
  | some existing => return existing
  | none =>
    modify (filed · evidence)
    return evidence

end InMemoryDisputeRepository

/-- `_ALLOWED_TRANSITIONS`. -/
def allowedTransitions : DisputeStatus → List DisputeStatus
  | .opened => [.represented, .accepted, .expired]
  | .represented => [.accepted, .reversed, .expired]
  | .accepted => [.reversed, .expired]
  | .reversed => []
  | .expired => []

namespace DisputeService

open InMemoryDisputeRepository

def create (case : DisputeCase) : Effect InMemoryDisputeRepository DisputeCase :=
  InMemoryDisputeRepository.create case

/-- The case in its new status. -/
def moved (case : DisputeCase) (status : DisputeStatus) (updatedAt : DateTime) : DisputeCase :=
  { case with status, updatedAt }

def transition (disputeId : String) (request : DisputeTransitionRequest) (now : Py DateTime) :
    Effect InMemoryDisputeRepository DisputeCase := do
  match (← get).cases.get? disputeId with
  | none => throw (.keyError "Dispute not found")
  | some case =>
    if request.status = case.status then return case
    else if request.status ∉ allowedTransitions case.status then
      throw (.valueError ("Invalid transition from " ++ case.status.value ++ " to " ++
        request.status.value))
    else
      let updatedAt ← now
      save (moved case request.status updatedAt)

def addEvidence (disputeId : String) (evidence : EvidenceSubmission) :
    Effect InMemoryDisputeRepository EvidenceSubmission := do
  match (← get).cases.get? disputeId with
  | none => throw (.keyError "Dispute not found")
  | some _ =>
    if evidence.disputeId.val ≠ disputeId then
      throw (.valueError "Dispute ID does not match path")
    else InMemoryDisputeRepository.addEvidence evidence

end DisputeService

section Outcomes

variable (repository : InMemoryDisputeRepository)

/-- A creation answers the case of its key, is refused, or opens a new case. -/
theorem create_cases (case : DisputeCase) :
    (∃ existingId, repository.byIdempotencyKey.get? case.idempotencyKey.val = some existingId ∧
      Effect.exec (DisputeService.create case) repository =
        (repository.cases.item existingId, repository)) ∨
    (∃ message, Effect.exec (DisputeService.create case) repository =
      (.error (.valueError message), repository)) ∨
    (repository.byIdempotencyKey.get? case.idempotencyKey.val = none ∧
      repository.cases.get? case.disputeId.val = none ∧ case.status = .opened ∧
      Effect.exec (DisputeService.create case) repository =
        (.ok case, repository.opened case)) := by
  rw [DisputeService.create, InMemoryDisputeRepository.create,
    Effect.exec_bind_ok (Effect.exec_get _)]
  cases hkey : repository.byIdempotencyKey.get? case.idempotencyKey.val with
  | some existingId => exact Or.inl ⟨existingId, rfl, rfl⟩
  | none =>
    refine Or.inr ?_
    dsimp only
    by_cases hid : (repository.cases.get? case.disputeId.val).isSome = true
    · rw [if_pos hid]
      exact Or.inl ⟨_, rfl⟩
    · rw [if_neg hid]
      by_cases hstatus : case.status = .opened
      · rw [if_neg (not_not.mpr hstatus)]
        exact Or.inr ⟨rfl, Option.not_isSome_iff_eq_none.mp hid, hstatus, rfl⟩
      · rw [if_pos hstatus]
        exact Or.inl ⟨_, rfl⟩

/-- A transition answers without a change, or takes its case along an allowed edge. -/
theorem transition_cases (disputeId : String) (request : DisputeTransitionRequest)
    (now : Py DateTime) :
    (∃ answer, Effect.exec (DisputeService.transition disputeId request now) repository =
      (answer, repository)) ∨
    (∃ case updatedAt, repository.cases.get? disputeId = some case ∧
      request.status ∈ allowedTransitions case.status ∧
      Effect.exec (DisputeService.transition disputeId request now) repository =
        (.ok (DisputeService.moved case request.status updatedAt),
          repository.saved (DisputeService.moved case request.status updatedAt))) := by
  rw [DisputeService.transition, Effect.exec_bind_ok (Effect.exec_get _)]
  cases hcase : repository.cases.get? disputeId with
  | none => exact Or.inl ⟨_, rfl⟩
  | some case =>
    dsimp only
    by_cases hsame : request.status = case.status
    · rw [if_pos hsame]
      exact Or.inl ⟨_, rfl⟩
    · rw [if_neg hsame]
      by_cases hallowed : request.status ∈ allowedTransitions case.status
      · rw [if_neg (not_not.mpr hallowed)]
        cases now with
        | error e => exact Or.inl ⟨_, rfl⟩
        | ok updatedAt => exact Or.inr ⟨case, updatedAt, rfl, hallowed, rfl⟩
      · rw [if_pos hallowed]
        exact Or.inl ⟨_, rfl⟩

/-- Evidence is answered without a change, or filed under an id that is new. -/
theorem addEvidence_cases (disputeId : String) (evidence : EvidenceSubmission) :
    (∃ answer, Effect.exec (DisputeService.addEvidence disputeId evidence) repository =
      (answer, repository)) ∨
    (repository.evidence.get? evidence.evidenceId.val = none ∧
      evidence.disputeId.val = disputeId ∧ (repository.cases.get? disputeId).isSome = true ∧
      Effect.exec (DisputeService.addEvidence disputeId evidence) repository =
        (.ok evidence, repository.filed evidence)) := by
  rw [DisputeService.addEvidence, Effect.exec_bind_ok (Effect.exec_get _)]
  cases hcase : repository.cases.get? disputeId with
  | none => exact Or.inl ⟨_, rfl⟩
  | some case =>
    dsimp only
    by_cases hpath : evidence.disputeId.val = disputeId
    · rw [if_neg (not_not.mpr hpath), InMemoryDisputeRepository.addEvidence,
        Effect.exec_bind_ok (Effect.exec_get _)]
      cases hknown : repository.evidence.get? evidence.evidenceId.val with
      | some existing => exact Or.inl ⟨_, rfl⟩
      | none => exact Or.inr ⟨rfl, hpath, rfl, rfl⟩
    · rw [if_pos hpath]
      exact Or.inl ⟨_, rfl⟩

end Outcomes

end VeriPay.DisputeEngine
