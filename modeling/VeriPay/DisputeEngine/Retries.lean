import VeriPay.DisputeEngine.Lifecycle

/-!
Requests that are delivered again. An accepted request leaves a mark that no later call
removes: a known key, known evidence, or a status at or past the one asked for. The
transitions never lead back, so a stale transition finds no edge to take.
-/

namespace VeriPay.DisputeEngine

open Lib Common InMemoryDisputeRepository

/-- One request delivered twice; the clock is read anew. -/
inductive DisputeCall.Redelivers : DisputeCall → DisputeCall → Prop
  | create (case : DisputeCase) : Redelivers (.create case) (.create case)
  | transition (disputeId : String) (request : DisputeTransitionRequest) (now later : Py DateTime) :
      Redelivers (.transition disputeId request now) (.transition disputeId request later)
  | addEvidence (disputeId : String) (evidence : EvidenceSubmission) :
      Redelivers (.addEvidence disputeId evidence) (.addEvidence disputeId evidence)

/-- The call returned. -/
def DisputeCall.Accepted (call : DisputeCall) (repository : InMemoryDisputeRepository) : Prop :=
  (disputeMachine.event repository call).answer.error? = none

/-- The mark of an accepted request. -/
def DisputeCall.Recorded (repository : InMemoryDisputeRepository) : DisputeCall → Prop
  | .create case => ∃ id, repository.byIdempotencyKey.get? case.idempotencyKey.val = some id
  | .transition disputeId request _ => ∃ case, repository.cases.get? disputeId = some case ∧
      Relation.ReflTransGen Follows request.status case.status
  | .addEvidence _ evidence =>
      ∃ known, repository.evidence.get? evidence.evidenceId.val = some known

/-- How far along its life a status is. -/
def rank : DisputeStatus → ℕ
  | .opened => 0
  | .represented => 1
  | .accepted => 2
  | .reversed => 3
  | .expired => 3

theorem rank_lt_of_follows {before after : DisputeStatus} (h : Follows before after) :
    rank before < rank after := by
  revert h
  unfold Follows
  cases before <;> cases after <;> decide

theorem rank_le_of_path {before after : DisputeStatus}
    (h : Relation.ReflTransGen Follows before after) : rank before ≤ rank after := by
  induction h with
  | refl => exact le_rfl
  | tail _ hstep ih => exact ih.trans (rank_lt_of_follows hstep).le

/-- No path returns to the status it left. -/
theorem not_follows_back {status current : DisputeStatus}
    (hpath : Relation.ReflTransGen Follows status current) : ¬ Follows current status := by
  intro hback
  have hforth := rank_le_of_path hpath
  have hlt := rank_lt_of_follows hback
  omega

variable {repository : InMemoryDisputeRepository}

theorem create_recorded (case : DisputeCase)
    (h : DisputeCall.Accepted (.create case) repository) :
    DisputeCall.Recorded (disputeMachine.next repository (.create case)) (.create case) := by
  change (DisputeAnswer.case (Effect.exec (DisputeService.create case) repository).1).error? =
    none at h
  show ∃ id, (Effect.exec (DisputeService.create case) repository).2.byIdempotencyKey.get?
    case.idempotencyKey.val = some id
  rcases create_cases repository case with hcase | hcase | hcase
  · obtain ⟨existingId, hkey, hexec⟩ := hcase
    rw [hexec]
    exact ⟨existingId, hkey⟩
  · obtain ⟨message, hexec⟩ := hcase
    rw [hexec] at h
    cases h
  · obtain ⟨-, -, -, hexec⟩ := hcase
    rw [hexec]
    exact ⟨case.disputeId.val, by rw [keys_opened, if_pos rfl]⟩

/-- A transition that returns finds its case with the status asked for, or moves it there. -/
theorem transition_returns {disputeId : String} {request : DisputeTransitionRequest}
    {now : Py DateTime} {answer : DisputeCase}
    (h : (Effect.exec (DisputeService.transition disputeId request now) repository).1 =
      .ok answer) :
    ∃ case, repository.cases.get? disputeId = some case ∧
      ((case.status = request.status ∧
          Effect.exec (DisputeService.transition disputeId request now) repository =
            (.ok case, repository)) ∨
        ∃ updatedAt, Effect.exec (DisputeService.transition disputeId request now) repository =
          (.ok (DisputeService.moved case request.status updatedAt),
            repository.saved (DisputeService.moved case request.status updatedAt))) := by
  rw [DisputeService.transition, Effect.exec_bind_ok (Effect.exec_get _)] at h ⊢
  cases hcase : repository.cases.get? disputeId with
  | none =>
    rw [hcase] at h
    cases h
  | some case =>
    rw [hcase] at h
    dsimp only at h ⊢
    refine ⟨case, rfl, ?_⟩
    by_cases hsame : request.status = case.status
    · rw [if_pos hsame]
      exact Or.inl ⟨hsame.symm, rfl⟩
    · rw [if_neg hsame] at h ⊢
      by_cases hallowed : request.status ∈ allowedTransitions case.status
      · rw [if_neg (not_not.mpr hallowed)] at h ⊢
        cases now with
        | error e => cases h
        | ok updatedAt => exact Or.inr ⟨updatedAt, rfl⟩
      · rw [if_pos hallowed] at h
        cases h

theorem transition_recorded (hindexed : Indexed repository) (disputeId : String)
    (request : DisputeTransitionRequest) (now : Py DateTime)
    (h : DisputeCall.Accepted (.transition disputeId request now) repository) :
    DisputeCall.Recorded (disputeMachine.next repository (.transition disputeId request now))
      (.transition disputeId request now) := by
  change (DisputeAnswer.case
    (Effect.exec (DisputeService.transition disputeId request now) repository).1).error? =
      none at h
  show ∃ case, (Effect.exec (DisputeService.transition disputeId request now)
    repository).2.cases.get? disputeId = some case ∧
      Relation.ReflTransGen Follows request.status case.status
  cases hanswer : (Effect.exec (DisputeService.transition disputeId request now) repository).1 with
  | error e =>
    rw [hanswer] at h
    cases h
  | ok answer =>
    obtain ⟨case, hcase, hend⟩ := transition_returns hanswer
    rcases hend with ⟨hstatus, hexec⟩ | ⟨updatedAt, hexec⟩
    · rw [hexec]
      exact ⟨case, hcase, by rw [hstatus]⟩
    · rw [hexec]
      refine ⟨DisputeService.moved case request.status updatedAt, ?_, .refl⟩
      rw [cases_saved]
      exact if_pos (hindexed.case_id disputeId case hcase).symm

/-- Evidence that is answered is known from then on. -/
theorem addEvidence_recorded (disputeId : String) (evidence : EvidenceSubmission)
    (h : DisputeCall.Accepted (.addEvidence disputeId evidence) repository) :
    DisputeCall.Recorded (disputeMachine.next repository (.addEvidence disputeId evidence))
      (.addEvidence disputeId evidence) := by
  change (DisputeAnswer.evidence
    (Effect.exec (DisputeService.addEvidence disputeId evidence) repository).1).error? = none at h
  show ∃ known, (Effect.exec (DisputeService.addEvidence disputeId evidence)
    repository).2.evidence.get? evidence.evidenceId.val = some known
  rw [DisputeService.addEvidence, Effect.exec_bind_ok (Effect.exec_get _)] at h ⊢
  cases hcase : repository.cases.get? disputeId with
  | none =>
    rw [hcase] at h
    cases h
  | some case =>
    rw [hcase] at h
    dsimp only at h ⊢
    by_cases hpath : evidence.disputeId.val = disputeId
    · rw [if_neg (not_not.mpr hpath), InMemoryDisputeRepository.addEvidence,
        Effect.exec_bind_ok (Effect.exec_get _)]
      cases hknown : repository.evidence.get? evidence.evidenceId.val with
      | some existing => exact ⟨existing, hknown⟩
      | none =>
        refine ⟨evidence, ?_⟩
        exact (evidence_filed repository evidence _).trans (if_pos rfl)
    · rw [if_pos hpath] at h
      cases h

theorem recorded_of_accepted (hindexed : Indexed repository) (call : DisputeCall)
    (h : call.Accepted repository) : call.Recorded (disputeMachine.next repository call) := by
  cases call with
  | create case => exact create_recorded case h
  | transition disputeId request now => exact transition_recorded hindexed disputeId request now h
  | addEvidence disputeId evidence => exact addEvidence_recorded disputeId evidence h

/-- What is recorded stays recorded. -/
theorem DisputeCall.Recorded.kept {after : InMemoryDisputeRepository} {call : DisputeCall}
    (h : call.Recorded repository) (hkept : Kept repository after) : call.Recorded after := by
  cases call with
  | create case =>
    obtain ⟨id, hkey⟩ := h
    exact ⟨id, hkept.keys _ _ hkey⟩
  | transition disputeId request now =>
    obtain ⟨case, hcase, hpath⟩ := h
    obtain ⟨status, updatedAt, hmoved, hlater⟩ := hkept.cases disputeId case hcase
    exact ⟨_, hmoved, hpath.trans hlater⟩
  | addEvidence disputeId evidence =>
    obtain ⟨known, hknown⟩ := h
    exact ⟨known, hkept.evidence _ _ hknown⟩

/-- A recorded request changes nothing when it comes again. -/
theorem DisputeCall.Recorded.next_eq {call again : DisputeCall} (h : call.Recorded repository)
    (hagain : call.Redelivers again) : disputeMachine.next repository again = repository := by
  cases hagain with
  | create case =>
    obtain ⟨id, hkey⟩ := h
    show (Effect.exec (DisputeService.create case) repository).2 = repository
    rcases create_cases repository case with hcase | hcase | hcase
    · obtain ⟨existingId, -, hexec⟩ := hcase
      rw [hexec]
    · obtain ⟨message, hexec⟩ := hcase
      rw [hexec]
    · rw [hcase.1] at hkey
      cases hkey
  | transition disputeId request now later =>
    obtain ⟨case, hcase, hpath⟩ := h
    show (Effect.exec (DisputeService.transition disputeId request later) repository).2 =
      repository
    rcases transition_cases repository disputeId request later with hend | hend
    · obtain ⟨answer, hexec⟩ := hend
      rw [hexec]
    · obtain ⟨found, updatedAt, hfound, hallowed, -⟩ := hend
      rw [hcase] at hfound
      cases hfound
      exact absurd hallowed (not_follows_back hpath)
  | addEvidence disputeId evidence =>
    obtain ⟨known, hknown⟩ := h
    show (Effect.exec (DisputeService.addEvidence disputeId evidence) repository).2 = repository
    rcases addEvidence_cases repository disputeId evidence with hend | hend
    · obtain ⟨answer, hexec⟩ := hend
      rw [hexec]
    · rw [hend.1] at hknown
      cases hknown

/-- An accepted request, delivered again after any later calls, leaves the repository as it
finds it. -/
theorem redelivery_unchanged (earlier later : List DisputeCall) (call again : DisputeCall)
    (haccepted : call.Accepted (disputeMachine.run {} earlier))
    (hagain : call.Redelivers again) :
    disputeMachine.run {} (earlier ++ call :: later ++ [again]) =
      disputeMachine.run {} (earlier ++ call :: later) := by
  have hrecorded := recorded_of_accepted (run_indexed earlier) call haccepted
  have hkept := run_kept (earlier ++ [call]) later
  rw [List.append_assoc, List.singleton_append, Machine.run_concat] at hkept
  rw [Machine.run_concat]
  exact (hrecorded.kept hkept).next_eq hagain

def openedCase : DisputeCase where
  disputeId := ⟨"dispute_1", by decide⟩
  transactionId := ⟨"tx_1", by decide⟩
  amountMinor := 4200
  currency := "USD"
  status := .opened
  reason := .fraud
  idempotencyKey := ⟨"key_1", by decide⟩
  openedAt := DateTime.minValue
  updatedAt := DateTime.minValue

/-- A request to move the case, and the time it is stamped with. -/
def moveTo (status : DisputeStatus) (day : ℤ) : DisputeCall :=
  .transition "dispute_1" { status, actor := ⟨"analyst", by decide⟩ }
    (.ok (DateTime.atHour true day 0))

/-- The case has moved on when its first transition is delivered again a day later. -/
theorem redelivery_unchanged_stale :
    disputeMachine.run {} ([.create openedCase] ++ moveTo .represented 1 :: [moveTo .reversed 2] ++
        [moveTo .represented 3]) =
      disputeMachine.run {} ([.create openedCase] ++ moveTo .represented 1 ::
        [moveTo .reversed 2]) :=
  redelivery_unchanged _ _ _ _ (by rfl) (.transition _ _ _ _)

end VeriPay.DisputeEngine
