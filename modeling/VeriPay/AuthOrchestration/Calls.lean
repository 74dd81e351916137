import VeriPay.AuthOrchestration.Service

/-!
The service as a machine that answers one call at a time, and what each call can
do: a creation files one new session, a completion that returns settles the
pending session whose token it presents, and everything else leaves the
repository alone.
-/

namespace VeriPay.AuthOrchestration

open Lib Common

namespace VerificationSession

/-- The same session up to the three fields a completion assigns. -/
def Continues (later earlier : VerificationSession) : Prop :=
  later = { earlier with
    outcome := later.outcome
    temporaryLock := later.temporaryLock
    escalationRequired := later.escalationRequired }

theorem Continues.refl (session : VerificationSession) : session.Continues session := rfl

theorem Continues.trans {a b c : VerificationSession} (hab : a.Continues b)
    (hbc : b.Continues c) : a.Continues c := by
  unfold Continues at hab hbc ⊢
  rw [hbc] at hab
  exact hab

theorem timedOut_continues (session : VerificationSession) :
    session.timedOut.Continues session := rfl

theorem rejected_continues (session : VerificationSession) :
    session.rejected.Continues session := rfl

theorem settled_continues (session : VerificationSession) (outcome : VerificationOutcome) :
    (session.settled outcome).Continues session := rfl

theorem Continues.sessionId_eq {later earlier : VerificationSession}
    (h : later.Continues earlier) : later.sessionId = earlier.sessionId := by
  rw [h]

theorem Continues.tokenDigest_eq {later earlier : VerificationSession}
    (h : later.Continues earlier) : later.tokenDigest = earlier.tokenDigest := by
  rw [h]

theorem Continues.expiresAt_eq {later earlier : VerificationSession}
    (h : later.Continues earlier) : later.expiresAt = earlier.expiresAt := by
  rw [h]

end VerificationSession

namespace VerificationService

variable (service : VerificationService)

theorem reraise_eq_ok {α : Type} {x : Py α} {a : α} : reraise x = .ok a ↔ x = .ok a := by
  cases x with
  | ok b => exact Iff.rfl
  | error e =>
    simp only [reraise, reduceCtorEq, iff_false]
    split_ifs <;> simp

/-- The request presents a pending session's own valid token. -/
def Presents (env : CompletionEnv) (session : VerificationSession)
    (request : VerificationCompletionRequest) : Prop :=
  session.outcome = .pending ∧ service.sha256Hex request.token.val = session.tokenDigest ∧
    ∃ claims, service.signer.verify request.token.val env.now.orUtc = .ok claims ∧
      claimsMismatch claims session = false

theorem completionChecks_ok_iff (env : CompletionEnv) (session : VerificationSession)
    (request : VerificationCompletionRequest) :
    service.completionChecks env session request = .ok () ↔
      service.Presents env session request := by
  unfold completionChecks Presents
  by_cases hpending : session.outcome = .pending
  · rw [if_neg (not_not_intro hpending)]
    by_cases hdigest : service.sha256Hex request.token.val = session.tokenDigest
    · rw [if_neg (not_not_intro hdigest), Py.bind_eq_ok]
      simp only [reraise_eq_ok]
      constructor
      · intro h
        obtain ⟨claims, hverify, hmatch⟩ := h
        refine ⟨hpending, hdigest, claims, hverify, ?_⟩
        by_contra hmismatch
        rw [if_pos (by simpa using hmismatch)] at hmatch
        cases hmatch
      · intro h
        obtain ⟨_, _, claims, hverify, hmatch⟩ := h
        refine ⟨claims, hverify, ?_⟩
        rw [if_neg (by simp [hmatch])]
        rfl
    · rw [if_pos hdigest]
      constructor
      · intro h
        cases h
      · intro h
        obtain ⟨_, h, _⟩ := h
        exact absurd h hdigest
  · rw [if_pos hpending]
    constructor
    · intro h
      cases h
    · intro h
      obtain ⟨h, _⟩ := h
      exact absurd h hpending

/-- A settled session keeps all but the three fields and is no longer pending. -/
theorem settlement_spec {env : CompletionEnv} {session : VerificationSession}
    {request : VerificationCompletionRequest} {exit : VerificationSession × String}
    (h : service.settlement env session request = .ok exit) :
    exit.1.Continues session ∧ exit.1.outcome ≠ .pending := by
  obtain ⟨late, _, h⟩ := Py.bind_eq_ok.mp h
  cases late with
  | true =>
    cases h
    refine ⟨session.timedOut_continues, ?_⟩
    simp only [VerificationSession.timedOut]
    split_ifs <;> decide
  | false =>
    obtain ⟨workflowError, _, h⟩ := Py.bind_eq_ok.mp h
    cases workflowError with
    | some reason =>
      cases h
      refine ⟨session.rejected_continues, ?_⟩
      simp only [VerificationSession.rejected]
      split_ifs <;> decide
    | none =>
      simp only at h
      split_ifs at h
      · cases h
        refine ⟨session.settled_continues _, ?_⟩
        simp only [VerificationSession.settled]
        decide
      · cases h
        refine ⟨session.settled_continues _, ?_⟩
        simp only [VerificationSession.settled]
        decide
      · cases h
        exact ⟨session.settled_continues _, by simp [VerificationSession.settled]⟩

theorem buildSession_of {env : CreationEnv} {request : VerificationSessionRequest}
    {claims parsed : VerificationTokenClaims} {token : Token}
    (hclaims : service.newClaims env request = .ok claims)
    (htoken : service.signer.issue claims request.ttlSeconds.val = .ok token)
    (hparsed : service.signer.verify token env.now.orUtc = .ok parsed) :
    service.buildSession env request = .ok (
      { sessionId := sessionIdOf env.sessionUuid
        transactionId := request.transactionId
        deviceId := request.deviceId
        amountMinor := request.amountMinor
        currency := claims.currency
        riskTier := request.riskTier
        processingPath := request.processingPath
        friction := (policyForTier request.riskTier).friction
        workflow := (policyForTier request.riskTier).workflow
        timeoutSeconds := (policyForTier request.riskTier).timeoutSeconds
        expiresAt := parsed.expiresAt
        tokenId := tokenIdOf env.tokenUuid
        tokenDigest := service.sha256Hex token
        createdAt := env.now.orUtc }, token) := by
  rw [buildSession, hclaims, Py.ok_bind, htoken, Py.ok_bind, hparsed, Py.ok_bind]
  rfl

/-- A built session is pending and carries the digest and the expiry of the
token built with it. -/
theorem buildSession_spec {env : CreationEnv} {request : VerificationSessionRequest}
    {built : VerificationSession × Token} (h : service.buildSession env request = .ok built) :
    built.1.sessionId = sessionIdOf env.sessionUuid ∧ built.1.outcome = .pending ∧
      built.1.tokenDigest = service.sha256Hex built.2 ∧
      ∃ claims parsed, service.newClaims env request = .ok claims ∧
        service.signer.issue claims request.ttlSeconds.val = .ok built.2 ∧
        service.signer.verify built.2 env.now.orUtc = .ok parsed ∧
        built.1.expiresAt = parsed.expiresAt := by
  obtain ⟨claims, hclaims, h⟩ := Py.bind_eq_ok.mp h
  obtain ⟨token, htoken, h⟩ := Py.bind_eq_ok.mp h
  obtain ⟨parsed, hparsed, h⟩ := Py.bind_eq_ok.mp h
  cases h
  exact ⟨rfl, rfl, rfl, claims, parsed, hclaims, htoken, hparsed, rfl⟩

theorem exec_createSession_error {env : CreationEnv} {request : VerificationSessionRequest}
    {e : PyErr} (h : service.buildSession env request = .error e)
    (repository : InMemoryVerificationRepository) :
    Effect.exec (service.createSession env request) repository = (.error e, repository) := by
  rw [createSession, h]
  rfl

/-- A built session is stored, and returned with its token unless the push
provider raises. -/
theorem exec_createSession_ok {env : CreationEnv} {request : VerificationSessionRequest}
    {built : VerificationSession × Token} (h : service.buildSession env request = .ok built)
    (repository : InMemoryVerificationRepository) :
    Effect.exec (service.createSession env request) repository =
      (if request.riskTier ≠ .noRisk then (env.dispatch built.1).map (fun _ => built)
        else .ok built, repository.save built.1) := by
  rw [createSession, h, Effect.exec_bind_ok (Effect.exec_lift _ _),
    Effect.exec_bind_ok (Effect.exec_modify _ _), Effect.exec_ite]
  split_ifs
  · cases hdispatch : env.dispatch built.1 with
    | ok _ => rfl
    | error _ => rfl
  · rfl

theorem exec_completeSession_of_settlement {env : CompletionEnv} {sessionId : String}
    {request : VerificationCompletionRequest} {repository : InMemoryVerificationRepository}
    {session : VerificationSession} {exit : VerificationSession × String}
    (hget : repository.get sessionId = some session)
    (hpresents : service.Presents env session request)
    (hsettle : service.settlement env session request = .ok exit) :
    Effect.exec (service.completeSession env sessionId request) repository =
      (.ok (exit.1.result exit.2 env.now.orUtc), repository.save exit.1) := by
  rw [completeSession, Effect.exec_bind_ok (Effect.exec_get _), hget]
  simp only
  rw [(service.completionChecks_ok_iff env session request).mpr hpresents,
    Effect.exec_bind_ok (Effect.exec_lift _ _), hsettle,
    Effect.exec_bind_ok (Effect.exec_lift _ _), Effect.exec_bind_ok (Effect.exec_modify _ _)]
  rfl

/-- A completion that returns presented the session's token and settled it. -/
theorem completeSession_returns {env : CompletionEnv} {sessionId : String}
    {request : VerificationCompletionRequest} {repository : InMemoryVerificationRepository}
    {result : VerificationResult}
    (h : (Effect.exec (service.completeSession env sessionId request) repository).1 =
      .ok result) :
    ∃ session exit, repository.get sessionId = some session ∧
      service.Presents env session request ∧
      service.settlement env session request = .ok exit ∧
      (Effect.exec (service.completeSession env sessionId request) repository).2 =
        repository.save exit.1 := by
  cases hget : repository.get sessionId with
  | none =>
    rw [completeSession, Effect.exec_bind_ok (Effect.exec_get _), hget] at h
    cases h
  | some session =>
    rw [completeSession, Effect.exec_bind_ok (Effect.exec_get _), hget] at h
    simp only at h
    obtain ⟨_, hchecks, h⟩ := Effect.exec_bind_fst_ok h
    have hpresents := (service.completionChecks_ok_iff env session request).mp hchecks
    obtain ⟨exit, hsettle, -⟩ := Effect.exec_bind_fst_ok h
    rw [Effect.exec_lift] at hsettle
    refine ⟨session, exit, rfl, hpresents, hsettle, ?_⟩
    rw [service.exec_completeSession_of_settlement hget hpresents hsettle]

/-- Every check comes before the first assignment. -/
theorem completeSession_clean (env : CompletionEnv) (sessionId : String)
    (request : VerificationCompletionRequest) :
    Effect.Clean (service.completeSession env sessionId request) := by
  apply Effect.Clean.bind Effect.ReadOnly.get
  intro repository
  cases repository.get sessionId with
  | none => exact (Effect.ReadOnly.throw _).clean
  | some session =>
    apply Effect.Clean.bind (Effect.ReadOnly.lift _)
    intro _
    apply Effect.Clean.bind (Effect.ReadOnly.lift _)
    intro exit
    exact Effect.Clean.modify_pure _ _

/-- `expire_session` has no token to present: it raises on every input. -/
theorem exec_expireSession (env : CompletionEnv) (sessionId : String)
    (repository : InMemoryVerificationRepository) :
    ∃ e, Effect.exec (service.expireSession env sessionId) repository = (.error e, repository) := by
  rw [expireSession, Effect.exec_bind_ok (Effect.exec_get _)]
  cases repository.get sessionId with
  | none => exact ⟨_, rfl⟩
  | some session => exact ⟨_, rfl⟩

inductive Call
  | create (env : CreationEnv) (request : VerificationSessionRequest)
  | complete (env : CompletionEnv) (sessionId : String)
      (request : VerificationCompletionRequest)
  | expire (env : CompletionEnv) (sessionId : String)

inductive Answer
  | created (answer : Py (VerificationSession × Token))
  | completed (answer : Py VerificationResult)

def step (repository : InMemoryVerificationRepository) :
    Call → Answer × InMemoryVerificationRepository
  | .create env request =>
    let answer := Effect.exec (service.createSession env request) repository
    (.created answer.1, answer.2)
  | .complete env sessionId request =>
    let answer := Effect.exec (service.completeSession env sessionId request) repository
    (.completed answer.1, answer.2)
  | .expire env sessionId =>
    let answer := Effect.exec (service.expireSession env sessionId) repository
    (.completed answer.1, answer.2)

def machine : Machine InMemoryVerificationRepository Call Answer where
  step := service.step

/-- The repository after the calls, from the empty one. -/
def after (calls : List Call) : InMemoryVerificationRepository :=
  service.machine.run .empty calls

theorem next_create (repository : InMemoryVerificationRepository) (env : CreationEnv)
    (request : VerificationSessionRequest) :
    service.machine.next repository (.create env request) =
      (Effect.exec (service.createSession env request) repository).2 := rfl

theorem next_complete (repository : InMemoryVerificationRepository) (env : CompletionEnv)
    (sessionId : String) (request : VerificationCompletionRequest) :
    service.machine.next repository (.complete env sessionId request) =
      (Effect.exec (service.completeSession env sessionId request) repository).2 := rfl

theorem next_expire (repository : InMemoryVerificationRepository) (env : CompletionEnv)
    (sessionId : String) :
    service.machine.next repository (.expire env sessionId) = repository := by
  obtain ⟨e, he⟩ := service.exec_expireSession env sessionId repository
  change (Effect.exec (service.expireSession env sessionId) repository).2 = repository
  rw [he]

/-- The session the call settles, as it leaves it. -/
def settledBy (repository : InMemoryVerificationRepository) (call : Call)
    (settled : VerificationSession) : Prop :=
  ∃ env sessionId request session reason, call = .complete env sessionId request ∧
    repository.get sessionId = some session ∧ service.Presents env session request ∧
    service.settlement env session request = .ok (settled, reason)

/-- What a call does to the repository. -/
theorem next_cases (repository : InMemoryVerificationRepository) (call : Call) :
    service.machine.next repository call = repository ∨
    (∃ env request built, call = .create env request ∧
      service.buildSession env request = .ok built ∧
      service.machine.next repository call = repository.save built.1) ∨
    (∃ settled, service.settledBy repository call settled ∧
      service.machine.next repository call = repository.save settled) := by
  cases call with
  | create env request =>
    cases hbuild : service.buildSession env request with
    | error e =>
      left
      rw [next_create, service.exec_createSession_error hbuild]
    | ok built =>
      right
      left
      refine ⟨env, request, built, rfl, hbuild, ?_⟩
      rw [next_create, service.exec_createSession_ok hbuild]
  | complete env sessionId request =>
    rw [next_complete]
    cases hanswer : (Effect.exec (service.completeSession env sessionId request) repository).1 with
    | error e => exact Or.inl (service.completeSession_clean env sessionId request _ _ hanswer)
    | ok result =>
      obtain ⟨session, exit, hget, hpresents, hsettle, hsave⟩ :=
        service.completeSession_returns hanswer
      right
      right
      exact ⟨exit.1, ⟨env, sessionId, request, session, exit.2, rfl, hget, hpresents, hsettle⟩,
        hsave⟩
  | expire env sessionId =>
    exact Or.inl (service.next_expire repository env sessionId)

/-- The token issued together with the session, by a creation among the calls. -/
def OwnToken (calls : List Call) (session : VerificationSession) (token : Token) : Prop :=
  ∃ env request created, .create env request ∈ calls ∧
    service.buildSession env request = .ok (created, token) ∧ session.Continues created

theorem OwnToken.mono {calls later : List Call} {session : VerificationSession} {token : Token}
    (h : service.OwnToken calls session token) (hsub : calls ⊆ later) :
    service.OwnToken later session token := by
  obtain ⟨env, request, created, hmem, hbuild, hcontinues⟩ := h
  exact ⟨env, request, created, hsub hmem, hbuild, hcontinues⟩

theorem OwnToken.continues {calls : List Call} {later earlier : VerificationSession}
    {token : Token} (h : service.OwnToken calls earlier token)
    (hcontinues : later.Continues earlier) : service.OwnToken calls later token := by
  obtain ⟨env, request, created, hmem, hbuild, hearlier⟩ := h
  exact ⟨env, request, created, hmem, hbuild, hcontinues.trans hearlier⟩

/-- Every stored session goes back to the creation that issued its token. -/
theorem exists_ownToken (calls : List Call) {sessionId : String} {session : VerificationSession}
    (h : (service.after calls).get sessionId = some session) :
    ∃ token, service.OwnToken calls session token := by
  revert sessionId session
  apply service.machine.run_history_invariant
    (P := fun made repository => ∀ {sessionId session},
      repository.get sessionId = some session → ∃ token, service.OwnToken made session token)
  · intro sessionId session h
    cases h
  · intro pre call post _ ih sessionId session h
    have hsub : pre ⊆ pre ++ [call] := List.subset_append_left pre [call]
    rcases service.next_cases (service.machine.run .empty pre) call with
      hsame | ⟨env, request, built, rfl, hbuild, hsave⟩ |
      ⟨settled, ⟨env, id, request, stored, reason, rfl, hget, _, hsettle⟩, hsave⟩
    · rw [hsame] at h
      obtain ⟨token, hown⟩ := ih h
      exact ⟨token, hown.mono service hsub⟩
    · rw [hsave] at h
      by_cases hid : sessionId = built.1.sessionId.val
      · rw [hid, InMemoryVerificationRepository.get_save_self] at h
        rw [← Option.some.inj h]
        exact ⟨built.2, env, request, built.1, by simp, hbuild, .refl _⟩
      · rw [InMemoryVerificationRepository.get_save_of_ne _ _ hid] at h
        obtain ⟨token, hown⟩ := ih h
        exact ⟨token, hown.mono service hsub⟩
    · rw [hsave] at h
      by_cases hid : sessionId = settled.sessionId.val
      · rw [hid, InMemoryVerificationRepository.get_save_self] at h
        obtain ⟨token, hown⟩ := ih hget
        rw [← Option.some.inj h]
        exact ⟨token, (hown.continues service (service.settlement_spec hsettle).1).mono service
          hsub⟩
      · rw [InMemoryVerificationRepository.get_save_of_ne _ _ hid] at h
        obtain ⟨token, hown⟩ := ih h
        exact ⟨token, hown.mono service hsub⟩

/-- The digest and the expiry a session stores are those of its own token. -/
theorem OwnToken.spec {calls : List Call} {session : VerificationSession} {token : Token}
    (h : service.OwnToken calls session token) :
    session.tokenDigest = service.sha256Hex token ∧
      ∃ claims, service.signer.parse token = .ok claims ∧
        session.expiresAt = claims.expiresAt := by
  obtain ⟨env, request, created, _, hbuild, hcontinues⟩ := h
  obtain ⟨_, _, hdigest, _, parsed, _, _, hverify, hexpires⟩ := service.buildSession_spec hbuild
  refine ⟨hcontinues.tokenDigest_eq.trans hdigest, parsed, ?_, ?_⟩
  · exact ((service.signer.verify_eq_ok_iff _ _ _).mp hverify).1
  · exact hcontinues.expiresAt_eq.trans hexpires

end VerificationService

end VeriPay.AuthOrchestration
