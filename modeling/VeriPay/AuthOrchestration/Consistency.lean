import VeriPay.AuthOrchestration.Calls

/-!
Tier, outcome and flags. Each exit of a completion assigns the outcome and both flags by
itself; whichever is taken, they agree with each other and with the tier, and the answer
repeats what is stored.
-/

namespace VeriPay.AuthOrchestration

open Lib Common

/-- What the outcome and the flags say about each other at a tier. -/
structure FlagsAgree (riskTier : RiskTier) (outcome : VerificationOutcome)
    (temporaryLock escalationRequired : Bool) : Prop where
  escalation_iff : escalationRequired = true ↔ outcome = .escalated
  escalated_high : outcome = .escalated → riskTier = .high
  high_escalates : riskTier = .high → outcome ≠ .denied ∧ outcome ≠ .timedOut
  lock_iff : temporaryLock = true ↔
    riskTier = .moderate ∧ (outcome = .denied ∨ outcome = .timedOut)

/-- A failed verification escalates at `HIGH`, and locks at `MODERATE`. -/
theorem FlagsAgree.failed (riskTier : RiskTier) {outcome : VerificationOutcome}
    (houtcome : outcome = .denied ∨ outcome = .timedOut) :
    FlagsAgree riskTier (if riskTier = .high then .escalated else outcome)
      (riskTier = .moderate) (riskTier = .high) := by
  rcases houtcome with rfl | rfl
  · cases riskTier <;> constructor <;> decide
  · cases riskTier <;> constructor <;> decide

/-- A pending or approved session raises neither flag. -/
theorem FlagsAgree.quiet (riskTier : RiskTier) {outcome : VerificationOutcome}
    (houtcome : outcome = .pending ∨ outcome = .approved) :
    FlagsAgree riskTier outcome false false := by
  rcases houtcome with rfl | rfl
  · cases riskTier <;> constructor <;> decide
  · cases riskTier <;> constructor <;> decide

namespace VerificationSession

variable (session : VerificationSession)

def Consistent : Prop :=
  FlagsAgree session.riskTier session.outcome session.temporaryLock session.escalationRequired

theorem timedOut_consistent : session.timedOut.Consistent :=
  FlagsAgree.failed session.riskTier (Or.inr rfl)

theorem rejected_consistent : session.rejected.Consistent :=
  FlagsAgree.failed session.riskTier (Or.inl rfl)

theorem settled_approved_consistent : (session.settled .approved).Consistent := by
  have hquiet : FlagsAgree session.riskTier .approved false false :=
    FlagsAgree.quiet session.riskTier (Or.inr rfl)
  unfold Consistent settled
  simpa using hquiet

/-- The outcome chosen for a client that denies is never `APPROVED`, so the tier alone
raises the flags. -/
theorem settled_denied_consistent :
    (session.settled (if session.riskTier = .high then .escalated else .denied)).Consistent := by
  have hfailed : FlagsAgree session.riskTier
      (if session.riskTier = .high then .escalated else .denied) (session.riskTier = .moderate)
      (session.riskTier = .high) :=
    FlagsAgree.failed session.riskTier (Or.inl rfl)
  have hnot : (if session.riskTier = .high then VerificationOutcome.escalated else .denied) ≠
      .approved := by
    split_ifs <;> decide
  unfold Consistent settled
  simpa [hnot] using hfailed

end VerificationSession

def VerificationResult.Consistent (result : VerificationResult) : Prop :=
  FlagsAgree result.riskTier result.outcome result.temporaryLock result.escalationRequired

/-- Every field the result shares with a session is the session's. -/
def VerificationResult.Repeats (result : VerificationResult) (session : VerificationSession) :
    Prop :=
  result = session.result result.reasonCode result.completedAt

namespace VerificationService

variable (service : VerificationService)

/-- Every exit of a completion leaves the session consistent. -/
theorem settlement_consistent {env : CompletionEnv} {session : VerificationSession}
    {request : VerificationCompletionRequest} {exit : VerificationSession × String}
    (h : service.settlement env session request = .ok exit) : exit.1.Consistent := by
  obtain ⟨late, -, h⟩ := Py.bind_eq_ok.mp h
  cases late with
  | true =>
    cases h
    exact session.timedOut_consistent
  | false =>
    obtain ⟨workflowError, -, h⟩ := Py.bind_eq_ok.mp h
    cases workflowError with
    | some reason =>
      cases h
      exact session.rejected_consistent
    | none =>
      change (if request.outcome = .denied then _ else _) = _ at h
      by_cases hdenied : request.outcome = .denied
      · rw [if_pos hdenied] at h
        cases h
        exact session.settled_denied_consistent
      · rw [if_neg hdenied] at h
        cases h
        exact session.settled_approved_consistent

theorem buildSession_consistent {env : CreationEnv} {request : VerificationSessionRequest}
    {built : VerificationSession × Token} (h : service.buildSession env request = .ok built) :
    built.1.Consistent := by
  obtain ⟨claims, -, h⟩ := Py.bind_eq_ok.mp h
  obtain ⟨token, -, h⟩ := Py.bind_eq_ok.mp h
  obtain ⟨parsed, -, h⟩ := Py.bind_eq_ok.mp h
  cases h
  exact FlagsAgree.quiet _ (Or.inl rfl)

/-- Every stored session is consistent. -/
def AllConsistent (repository : InMemoryVerificationRepository) : Prop :=
  ∀ sessionId session, repository.get sessionId = some session → session.Consistent

theorem AllConsistent.save {repository : InMemoryVerificationRepository}
    (h : AllConsistent repository) {session : VerificationSession}
    (hsession : session.Consistent) : AllConsistent (repository.save session) := by
  intro sessionId stored hstored
  by_cases hid : sessionId = session.sessionId.val
  · rw [hid, InMemoryVerificationRepository.get_save_self] at hstored
    cases hstored
    exact hsession
  · rw [InMemoryVerificationRepository.get_save_of_ne _ _ hid] at hstored
    exact h sessionId stored hstored

theorem next_allConsistent {repository : InMemoryVerificationRepository}
    (h : AllConsistent repository) (call : Call) :
    AllConsistent (service.machine.next repository call) := by
  rcases service.next_cases repository call with hsame | hcreated | hsettled
  · rw [hsame]
    exact h
  · obtain ⟨env, request, built, -, hbuild, hsave⟩ := hcreated
    rw [hsave]
    exact h.save (service.buildSession_consistent hbuild)
  · obtain ⟨settled, ⟨env, sessionId, request, session, reason, -, -, -, hsettle⟩, hsave⟩ :=
      hsettled
    rw [hsave]
    exact h.save (service.settlement_consistent hsettle)

theorem after_allConsistent (calls : List Call) : AllConsistent (service.after calls) := by
  apply service.machine.run_history_invariant (P := fun _ repository => AllConsistent repository)
  · intro sessionId session hstored
    cases hstored
  · intro pre call post _ hpre
    exact service.next_allConsistent hpre call

/-- A completion that returns repeats the session it stores. -/
theorem completeSession_repeats {env : CompletionEnv} {sessionId : String}
    {request : VerificationCompletionRequest} {repository : InMemoryVerificationRepository}
    {result : VerificationResult}
    (h : (Effect.exec (service.completeSession env sessionId request) repository).1 =
      .ok result) :
    ∃ session,
      (Effect.exec (service.completeSession env sessionId request) repository).2.get
        result.sessionId.val = some session ∧ session.Consistent ∧ result.Repeats session := by
  obtain ⟨session, exit, hget, hpresents, hsettle, -⟩ := service.completeSession_returns h
  rw [service.exec_completeSession_of_settlement hget hpresents hsettle] at h ⊢
  cases h
  exact ⟨exit.1, InMemoryVerificationRepository.get_save_self ..,
    service.settlement_consistent hsettle, rfl⟩

/-- In every state a run reaches, tier, outcome and flags of every session agree, and those
of every result returned on the way, which repeats the stored session. -/
theorem run_consistent (calls : List Call) :
    AllConsistent (service.after calls) ∧
      ∀ e ∈ service.machine.trace .empty calls, ∀ result, e.answer = .completed (.ok result) →
        result.Consistent ∧ ∃ session, e.after.get result.sessionId.val = some session ∧
          result.Repeats session := by
  refine ⟨service.after_allConsistent calls, fun e he result hresult => ?_⟩
  obtain ⟨pre, call, post, -, rfl⟩ := (service.machine.mem_trace_iff _ _ _).mp he
  cases call with
  | create env request => cases hresult
  | complete env sessionId request =>
    obtain ⟨session, hstored, hconsistent, hrepeats⟩ :=
      service.completeSession_repeats (Answer.completed.inj hresult)
    refine ⟨?_, session, hstored, hrepeats⟩
    rw [hrepeats]
    exact hconsistent
  | expire env sessionId =>
    obtain ⟨error, hexec⟩ := service.exec_expireSession env sessionId
      (service.machine.run .empty pre)
    have hanswer := Answer.completed.inj hresult
    rw [hexec] at hanswer
    cases hanswer

end VerificationService

end VeriPay.AuthOrchestration
