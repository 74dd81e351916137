import VeriPay.AuthOrchestration.Approval

/-!
The timeout fallback. A session expires with its token, and the signer's own
expiry check comes first: a completion of an expired session is refused before
the branch that would move it to its fallback, and `expire_session` has no token
to present.
-/

namespace VeriPay.AuthOrchestration

open Lib Common

/-- The session at its tier's timeout fallback. -/
def VerificationSession.timeoutFallback (session : VerificationSession) : VerificationSession :=
  match session.riskTier with
  | .noRisk =>
    { session with outcome := .timedOut, temporaryLock := false, escalationRequired := false }
  | .low =>
    { session with outcome := .timedOut, temporaryLock := false, escalationRequired := false }
  | .moderate =>
    { session with outcome := .timedOut, temporaryLock := true, escalationRequired := false }
  | .high =>
    { session with outcome := .escalated, temporaryLock := false, escalationRequired := true }

namespace VerificationService

variable (service : VerificationService)

/-- A method that returns and leaves the session at its fallback. -/
def FallsBack (method : Effect InMemoryVerificationRepository VerificationResult)
    (repository : InMemoryVerificationRepository) (session : VerificationSession) : Prop :=
  ∃ result, Effect.exec method repository = (.ok result, repository.save session.timeoutFallback)

/-- The session's own token is refused as expired from the session's expiry on. -/
theorem completionChecks_expired {calls : List Call} {env : CompletionEnv}
    {session : VerificationSession} {request : VerificationCompletionRequest}
    (hpending : session.outcome = .pending)
    (hlate : session.expiresAt.le env.now.orUtc = .ok true)
    (hown : service.OwnToken calls session request.token.val) :
    service.completionChecks env session request =
      .error (.valueError "Verification token is expired") := by
  obtain ⟨hdigest, claims, hparse, hexpires⟩ := hown.spec
  have hverify := service.signer.verify_expired env.now.orUtc hparse (hexpires ▸ hlate)
  rw [completionChecks, if_neg (not_not_intro hpending), if_neg (not_not_intro hdigest.symm),
    hverify]
  rfl

theorem exec_completeSession_expired {calls : List Call} {env : CompletionEnv}
    {sessionId : String} {repository : InMemoryVerificationRepository}
    {session : VerificationSession} {request : VerificationCompletionRequest}
    (hget : repository.get sessionId = some session) (hpending : session.outcome = .pending)
    (hlate : session.expiresAt.le env.now.orUtc = .ok true)
    (hown : service.OwnToken calls session request.token.val) :
    Effect.exec (service.completeSession env sessionId request) repository =
      (.error (.valueError "Verification token is expired"), repository) := by
  rw [completeSession, Effect.exec_bind_ok (Effect.exec_get _), hget]
  simp only
  rw [service.completionChecks_expired hpending hlate hown,
    Effect.exec_bind_error (Effect.exec_lift _ _)]

/-- After no run does an expired pending session fall back: both operations
raise and leave it pending. -/
theorem never_fallsBack (calls : List Call) (env : CompletionEnv) (sessionId : String)
    (session : VerificationSession) (request : VerificationCompletionRequest)
    (hstored : (service.after calls).get sessionId = some session)
    (hpending : session.outcome = .pending)
    (hclock : env.recheck = env.now)
    (hexpired : expired env session = .ok true)
    (hown : service.OwnToken calls session request.token.val) :
    ¬ FallsBack (service.completeSession env sessionId request) (service.after calls) session ∧
      ¬ FallsBack (service.expireSession env sessionId) (service.after calls) session ∧
      (∀ call ∈ [Call.complete env sessionId request, Call.expire env sessionId],
        (service.after (calls ++ [call])).get sessionId = some session) := by
  have hlate : session.expiresAt.le env.now.orUtc = .ok true := by
    rw [← hclock]
    exact hexpired
  have hcomplete := service.exec_completeSession_expired hstored hpending hlate hown
  obtain ⟨e, hexpire⟩ := service.exec_expireSession env sessionId (service.after calls)
  refine ⟨?_, ?_, ?_⟩
  · intro h
    obtain ⟨result, hresult⟩ := h
    rw [hcomplete] at hresult
    cases hresult
  · intro h
    obtain ⟨result, hresult⟩ := h
    rw [hexpire] at hresult
    cases hresult
  · intro call hcall
    have hnext : service.machine.next (service.after calls) call = service.after calls := by
      simp only [List.mem_cons, List.not_mem_nil, or_false] at hcall
      rcases hcall with rfl | rfl
      · rw [next_complete, hcomplete]
      · exact service.next_expire _ env sessionId
    rw [after, Machine.run_concat]
    change (service.machine.next (service.after calls) call).get sessionId = some session
    rw [hnext]
    exact hstored

end VerificationService

/-- A completion thirty seconds after the creation, under a constant clock. -/
def highTimeout : CompletionEnv :=
  { highCompletion with now := highClaims.expiresAt, recheck := highClaims.expiresAt }

theorem highSession_stored :
    (highService.after [.create highCreation highRequest]).get
      "verify_00000000000000000000000000000001" = some highSession := by
  rw [after_highCreation]
  exact InMemoryVerificationRepository.get_save_self _ highSession

theorem highSession_ownToken :
    highService.OwnToken [.create highCreation highRequest] highSession highToken :=
  ⟨highCreation, highRequest, highSession, List.mem_cons_self, highService_buildSession, .refl _⟩

/-- Neither operation moves the expired `HIGH` session to analyst escalation. -/
theorem not_fallsBack_highTimeout :
    ¬ ∀ calls env sessionId session request,
      (highService.after calls).get sessionId = some session → session.outcome = .pending →
      env.recheck = env.now → VerificationService.expired env session = .ok true →
      highService.OwnToken calls session request.token.val →
        VerificationService.FallsBack (highService.completeSession env sessionId request)
          (highService.after calls) session ∧
        VerificationService.FallsBack (highService.expireSession env sessionId)
          (highService.after calls) session := by
  intro hfallsBack
  obtain ⟨⟨result, hresult⟩, _⟩ := hfallsBack _ highTimeout _ highSession highPending
    highSession_stored rfl rfl (by rfl) highSession_ownToken
  rw [highService.exec_completeSession_expired highSession_stored rfl (by rfl)
    highSession_ownToken] at hresult
  cases hresult

theorem never_fallsBack_highTimeout :
    (highService.after ([.create highCreation highRequest] ++
      [.complete highTimeout "verify_00000000000000000000000000000001" highPending])).get
        "verify_00000000000000000000000000000001" = some highSession :=
  (highService.never_fallsBack _ highTimeout _ highSession highPending highSession_stored rfl rfl
    (by rfl) highSession_ownToken).2.2 _ List.mem_cons_self

end VeriPay.AuthOrchestration
