import VeriPay.DisputeEngine.Retries

/-!
The evidence of a dispute. The service checks that a submission is for the dispute it is sent
to, but the repository answers a known evidence id with the submission it has under it, of
whichever dispute.
-/

namespace VeriPay.DisputeEngine

open Lib Common InMemoryDisputeRepository

/-- `evidence_for(dispute_id)`. -/
def InMemoryDisputeRepository.evidenceFor (repository : InMemoryDisputeRepository)
    (disputeId : String) : List EvidenceSubmission :=
  repository.evidence.values.filter fun item => item.disputeId.val = disputeId

variable {repository after : InMemoryDisputeRepository} {disputeId : String}
  {evidence returned : EvidenceSubmission}

theorem mem_evidenceFor_of_get? {id : String} (h : repository.evidence.get? id = some evidence) :
    evidence ∈ repository.evidenceFor evidence.disputeId.val :=
  List.mem_filter.mpr ⟨PyDict.mem_values_of_get? h, decide_eq_true rfl⟩

/-- What a returning call answers, and that the answer is then on file under the id. -/
theorem addEvidence_returns
    (h : Effect.exec (DisputeService.addEvidence disputeId evidence) repository =
      (.ok returned, after)) :
    evidence.disputeId.val = disputeId ∧
      returned = (repository.evidence.get? evidence.evidenceId.val).getD evidence ∧
      after.evidence.get? evidence.evidenceId.val = some returned := by
  rw [DisputeService.addEvidence, Effect.exec_bind_ok (Effect.exec_get _)] at h
  cases hcase : repository.cases.get? disputeId with
  | none =>
    rw [hcase] at h
    cases h
  | some case =>
    simp only [hcase] at h
    by_cases hpath : evidence.disputeId.val = disputeId
    · rw [if_neg (not_not_intro hpath), InMemoryDisputeRepository.addEvidence,
        Effect.exec_bind_ok (Effect.exec_get _)] at h
      cases hknown : repository.evidence.get? evidence.evidenceId.val with
      | some existing =>
        simp only [hknown] at h
        cases h
        exact ⟨hpath, rfl, hknown⟩
      | none =>
        simp only [hknown] at h
        cases h
        exact ⟨hpath, rfl, PyDict.get?_set_self _ _ _⟩
    · rw [if_pos hpath] at h
      cases h

/-- The submission a call answers with is of the dispute, and on file for it under the
evidence id of the request. -/
def Belongs (repository : InMemoryDisputeRepository) (disputeId : String)
    (evidence returned : EvidenceSubmission) : Prop :=
  returned.disputeId.val = disputeId ∧
    ∃ submission ∈ repository.evidenceFor disputeId, submission.evidenceId = evidence.evidenceId

/-- Nothing is on file for another dispute under the evidence id. -/
def Unshared (repository : InMemoryDisputeRepository) (disputeId : String)
    (evidence : EvidenceSubmission) : Prop :=
  ∀ known, repository.evidence.get? evidence.evidenceId.val = some known →
    known.disputeId.val = disputeId

theorem belongs_iff_unshared (hindexed : Indexed after)
    (h : Effect.exec (DisputeService.addEvidence disputeId evidence) repository =
      (.ok returned, after)) :
    Belongs after disputeId evidence returned ↔ Unshared repository disputeId evidence := by
  obtain ⟨hpath, hreturned, hfiled⟩ := addEvidence_returns h
  constructor
  · rintro ⟨hown, -⟩ known hknown
    rw [hknown, Option.getD_some] at hreturned
    rwa [← hreturned]
  · intro hunshared
    have hown : returned.disputeId.val = disputeId := by
      rw [hreturned]
      cases hknown : repository.evidence.get? evidence.evidenceId.val with
      | none => exact hpath
      | some known => exact hunshared known hknown
    refine ⟨hown, returned, ?_, Subtype.ext (hindexed.evidence_id _ _ hfiled)⟩
    rw [← hown]
    exact mem_evidenceFor_of_get? hfiled

abbrev DisputeEvent := Machine.Event InMemoryDisputeRepository DisputeCall DisputeAnswer

/-- In any run, accepted evidence belongs to its dispute iff its id is not on file for another
one. -/
theorem evidence_belongs_iff (calls : List DisputeCall) {event : DisputeEvent}
    (hevent : event ∈ disputeMachine.trace {} calls)
    (hcall : event.call = .addEvidence disputeId evidence)
    (hanswer : event.answer = .evidence (.ok returned)) :
    Belongs event.after disputeId evidence returned ↔
      Unshared event.before disputeId evidence := by
  obtain ⟨pre, call, post, -, rfl⟩ := (Machine.mem_trace_iff _ _ _ _).mp hevent
  obtain rfl : call = .addEvidence disputeId evidence := hcall
  have hindexed := run_indexed (pre ++ [.addEvidence disputeId evidence])
  rw [Machine.run_concat] at hindexed
  exact belongs_iff_unshared hindexed (Prod.ext (DisputeAnswer.evidence.inj hanswer) rfl)

def otherCase : DisputeCase :=
  { openedCase with disputeId := ⟨"dispute_2", by decide⟩, idempotencyKey := ⟨"key_2", by decide⟩ }

/-- A receipt for a dispute. -/
def receipt (disputeId : NonEmptyStr) : EvidenceSubmission where
  evidenceId := ⟨"receipt", by decide⟩
  disputeId
  evidenceType := ⟨"TRANSACTION_LOG", by decide⟩
  providerReference := ⟨"reference", by decide⟩
  submittedBy := ⟨"merchant-desk", by decide⟩
  submittedAt := DateTime.minValue

/-- The first receipt belongs to its dispute. -/
theorem evidence_belongs_receipt :
    Belongs (disputeMachine.run {} [.create openedCase,
        .addEvidence "dispute_1" (receipt openedCase.disputeId)])
      "dispute_1" (receipt openedCase.disputeId) (receipt openedCase.disputeId) := by
  have hmem : disputeMachine.event (disputeMachine.run {} [.create openedCase])
      (.addEvidence "dispute_1" (receipt openedCase.disputeId)) ∈
        disputeMachine.trace {} [.create openedCase,
          .addEvidence "dispute_1" (receipt openedCase.disputeId)] :=
    List.mem_cons_of_mem _ List.mem_cons_self
  refine (evidence_belongs_iff _ hmem rfl rfl).mpr ?_
  intro known hknown
  cases hknown

/-- The same id for a second dispute is answered with the receipt of the first, and the second
has no evidence at all. -/
theorem evidence_of_other_dispute :
    (disputeMachine.step
        (disputeMachine.run {} [.create openedCase, .create otherCase,
          .addEvidence "dispute_1" (receipt openedCase.disputeId)])
        (.addEvidence "dispute_2" (receipt otherCase.disputeId))).1 =
          .evidence (.ok (receipt openedCase.disputeId)) ∧
      (disputeMachine.run {} [.create openedCase, .create otherCase,
        .addEvidence "dispute_1" (receipt openedCase.disputeId),
        .addEvidence "dispute_2" (receipt otherCase.disputeId)]).evidenceFor "dispute_2" = [] :=
  ⟨by rfl, by rfl⟩

end VeriPay.DisputeEngine
