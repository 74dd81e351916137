import Mathlib.Logic.Equiv.Basic
import VeriPay.AuthOrchestration.Calls

/-!
Who can approve a session. The workflow check lets every outcome other than
`APPROVED` and `DENIED` through without evidence, and the last exit of a
completion approves whatever is not `DENIED`: approvals are earned in exactly
the runs where no request with such an outcome gets that far.
-/

namespace VeriPay.AuthOrchestration.VerificationService

open Lib Common

variable (service : VerificationService)

/-- The verifier accepted the assertion for this device and transaction. -/
def BiometricAccepted (env : CompletionEnv) (session : VerificationSession)
    (request : VerificationCompletionRequest) : Prop :=
  ∃ assertion, request.biometricAssertion = some assertion ∧ assertion ≠ "" ∧
    env.biometricVerify assertion session.deviceId.val session.transactionId.val = .ok true

/-- The evidence the session's tier demands. -/
def Evidence (env : CompletionEnv) (session : VerificationSession)
    (request : VerificationCompletionRequest) : Prop :=
  match session.riskTier with
  | .noRisk => True
  | .low => True
  | .moderate => BiometricAccepted env session request
  | .high =>
    request.exactAmountMinor = some session.amountMinor ∧
      (∃ currency, request.exactCurrency = some currency ∧
        service.upper currency.val = session.currency.val) ∧
      BiometricAccepted env session request ∧ request.confirmationSwipe = true

/-- The stored outcome of the session is `APPROVED`. -/
def Approved (repository : InMemoryVerificationRepository) (sessionId : String) : Prop :=
  ∃ session, repository.get sessionId = some session ∧ session.outcome = .approved

/-- The call completes the session with outcome `APPROVED` and its evidence. -/
def Earns (repository : InMemoryVerificationRepository) (call : Call) (sessionId : String) :
    Prop :=
  ∃ env request session, call = .complete env sessionId request ∧
    repository.get sessionId = some session ∧ request.outcome = .approved ∧
    service.Evidence env session request

/-- In the run, a session's outcome becomes `APPROVED` only by an earning call. -/
def ApprovalsEarned (calls : List Call) : Prop :=
  ∀ e ∈ service.machine.trace .empty calls, ∀ sessionId,
    ¬ Approved e.before sessionId → Approved e.after sessionId →
      service.Earns e.before e.call sessionId

/-- A pending session's valid token presented in time, with an outcome that is
neither `APPROVED` nor `DENIED`. -/
def SlipsThrough (repository : InMemoryVerificationRepository) (call : Call) : Prop :=
  ∃ env sessionId request session, call = .complete env sessionId request ∧
    repository.get sessionId = some session ∧ service.Presents env session request ∧
    expired env session = .ok false ∧
    request.outcome ≠ .approved ∧ request.outcome ≠ .denied

theorem biometricError_none {env : CompletionEnv} {session : VerificationSession}
    {request : VerificationCompletionRequest}
    (h : biometricError env session request = .ok none) :
    BiometricAccepted env session request := by
  unfold biometricError at h
  cases hassertion : request.biometricAssertion with
  | none =>
    rw [hassertion] at h
    cases h
  | some assertion =>
    rw [hassertion] at h
    simp only at h
    split_ifs at h with hempty
    · cases h
    · obtain ⟨accepted, haccepted, h⟩ := Py.bind_eq_ok.mp h
      cases accepted with
      | true => exact ⟨assertion, hassertion, hempty, haccepted⟩
      | false => cases h

theorem currency_ne_empty (session : VerificationSession) : session.currency.val ≠ "" := by
  intro hempty
  have hlength := session.currency.property
  rw [hempty] at hlength
  cases hlength

/-- An `APPROVED` request passes the workflow check only with its evidence. -/
theorem validateWorkflow_none {env : CompletionEnv} {session : VerificationSession}
    {request : VerificationCompletionRequest} (houtcome : request.outcome = .approved)
    (h : service.validateWorkflow env session request = .ok none) :
    service.Evidence env session request := by
  unfold validateWorkflow at h
  rw [if_neg (by simp [houtcome]), if_neg (by simp [houtcome])] at h
  unfold Evidence
  cases htier : session.riskTier with
  | noRisk => trivial
  | low => trivial
  | moderate =>
    rw [htier] at h
    exact biometricError_none h
  | high =>
    rw [htier] at h
    simp only at h
    by_cases hamount : request.exactAmountMinor = some session.amountMinor
    · rw [if_neg (not_not_intro hamount)] at h
      by_cases hcurrency : service.upper ((request.exactCurrency.map Subtype.val).getD "") =
          session.currency.val
      · rw [if_neg (not_not_intro hcurrency)] at h
        obtain ⟨error, herror, h⟩ := Py.bind_eq_ok.mp h
        cases error with
        | some reason => cases h
        | none =>
          simp only at h
          split_ifs at h with hswipe
          · refine ⟨hamount, ?_, biometricError_none herror, hswipe⟩
            cases hexact : request.exactCurrency with
            | none =>
              -- an omitted currency reads as the empty text, which no session has
              rw [hexact] at hcurrency
              exact absurd (hcurrency.symm.trans service.upper_empty) (currency_ne_empty session)
            | some currency =>
              rw [hexact] at hcurrency
              exact ⟨currency, rfl, hcurrency⟩
          · cases h
      · rw [if_pos hcurrency] at h
        cases h
    · rw [if_pos hamount] at h
      cases h

/-- A settlement approves only in time, past the workflow check, and when the
client did not deny. -/
theorem settlement_approved {env : CompletionEnv} {session settled : VerificationSession}
    {request : VerificationCompletionRequest} {reason : String}
    (h : service.settlement env session request = .ok (settled, reason))
    (happroved : settled.outcome = .approved) :
    expired env session = .ok false ∧
      service.validateWorkflow env session request = .ok none ∧ request.outcome ≠ .denied := by
  obtain ⟨late, hlate, h⟩ := Py.bind_eq_ok.mp h
  cases late with
  | true =>
    cases h
    simp only [VerificationSession.timedOut] at happroved
    split_ifs at happroved
  | false =>
    obtain ⟨workflowError, hworkflow, h⟩ := Py.bind_eq_ok.mp h
    cases workflowError with
    | some error =>
      cases h
      simp only [VerificationSession.rejected] at happroved
      split_ifs at happroved
    | none =>
      refine ⟨hlate, hworkflow, ?_⟩
      intro hdenied
      simp only [hdenied, if_true] at h
      cases h
      simp only [VerificationSession.settled] at happroved
      split_ifs at happroved

/-- A request that slips through settles its session as approved. -/
theorem settlement_slips {env : CompletionEnv} {session : VerificationSession}
    {request : VerificationCompletionRequest} (hlate : expired env session = .ok false)
    (happroved : request.outcome ≠ .approved) (hdenied : request.outcome ≠ .denied) :
    service.settlement env session request =
      .ok (session.settled .approved, "VERIFICATION_APPROVED") := by
  have hworkflow : service.validateWorkflow env session request = .ok none := by
    rw [validateWorkflow, if_pos ⟨happroved, hdenied⟩]
    rfl
  simp only [settlement, hlate, hworkflow, Py.ok_bind, if_neg hdenied]
  rfl

/-- What a call approves, it approves as a completion of a session that was not
approved, on the client's word `APPROVED` or by slipping through. -/
theorem approved_next {repository : InMemoryVerificationRepository} {call : Call}
    {sessionId : String} (hbefore : ¬ Approved repository sessionId)
    (hafter : Approved (service.machine.next repository call) sessionId) :
    service.Earns repository call sessionId ∨ service.SlipsThrough repository call := by
  obtain ⟨stored, hstored, happroved⟩ := hafter
  rcases service.next_cases repository call with hsame | ⟨env, request, built, rfl, hbuild, hsave⟩ |
    ⟨settled, ⟨env, id, request, session, reason, rfl, hget, hpresents, hsettle⟩, hsave⟩
  · rw [hsame] at hstored
    exact absurd ⟨stored, hstored, happroved⟩ hbefore
  · rw [hsave] at hstored
    by_cases hid : sessionId = built.1.sessionId.val
    · rw [hid, InMemoryVerificationRepository.get_save_self] at hstored
      rw [← Option.some.inj hstored, (service.buildSession_spec hbuild).2.1] at happroved
      cases happroved
    · rw [InMemoryVerificationRepository.get_save_of_ne _ _ hid] at hstored
      exact absurd ⟨stored, hstored, happroved⟩ hbefore
  · rw [hsave] at hstored
    have hfiled : settled.sessionId.val = id := by
      rw [(service.settlement_spec hsettle).1.sessionId_eq]
      exact repository.filed hget
    by_cases hid : sessionId = settled.sessionId.val
    · rw [hid, InMemoryVerificationRepository.get_save_self] at hstored
      rw [← Option.some.inj hstored] at happroved
      obtain ⟨hlate, hworkflow, hdenied⟩ := service.settlement_approved hsettle happroved
      by_cases houtcome : request.outcome = .approved
      · left
        rw [hid, hfiled]
        exact ⟨env, request, session, rfl, hget, houtcome,
          service.validateWorkflow_none houtcome hworkflow⟩
      · right
        exact ⟨env, id, request, session, rfl, hget, hpresents, hlate, houtcome, hdenied⟩
    · rw [InMemoryVerificationRepository.get_save_of_ne _ _ hid] at hstored
      exact absurd ⟨stored, hstored, happroved⟩ hbefore

/-- A call that slips through approves a session nobody asked to approve. -/
theorem not_earned_of_slipsThrough {repository : InMemoryVerificationRepository} {call : Call}
    (h : service.SlipsThrough repository call) :
    ∃ sessionId, ¬ Approved repository sessionId ∧
      Approved (service.machine.next repository call) sessionId ∧
      ¬ service.Earns repository call sessionId := by
  obtain ⟨env, sessionId, request, session, rfl, hget, hpresents, hlate, happroved, hdenied⟩ := h
  have hsettle := service.settlement_slips hlate happroved hdenied
  refine ⟨sessionId, ?_, ?_, ?_⟩
  · intro h
    obtain ⟨stored, hstored, houtcome⟩ := h
    rw [hget] at hstored
    rw [← Option.some.inj hstored, hpresents.1] at houtcome
    cases houtcome
  · rw [next_complete, service.exec_completeSession_of_settlement hget hpresents hsettle]
    refine ⟨session.settled .approved, ?_, rfl⟩
    rw [← repository.filed hget]
    exact repository.get_save_self (session.settled .approved)
  · intro h
    obtain ⟨env', request', session', heq, _, houtcome, _⟩ := h
    cases heq
    exact happroved houtcome

theorem not_approvalsEarned_of_slipsThrough {pre post : List Call} {call : Call}
    (h : service.SlipsThrough (service.after pre) call) :
    ¬ service.ApprovalsEarned (pre ++ call :: post) := by
  intro hearned
  obtain ⟨sessionId, hbefore, hafter, hnot⟩ := service.not_earned_of_slipsThrough h
  have hevent := (service.machine.mem_trace_iff .empty (pre ++ call :: post) _).mpr
    ⟨pre, call, post, rfl, rfl⟩
  exact hnot (hearned _ hevent sessionId hbefore hafter)

/-- The approvals of a run are all earned exactly when no request slips through. -/
theorem approvalsEarned_iff (calls : List Call) :
    service.ApprovalsEarned calls ↔
      ∀ e ∈ service.machine.trace .empty calls, ¬ service.SlipsThrough e.before e.call := by
  constructor
  · intro hearned e he hslips
    obtain ⟨pre, call, post, rfl, rfl⟩ := (service.machine.mem_trace_iff _ _ e).mp he
    exact service.not_approvalsEarned_of_slipsThrough hslips hearned
  · intro hslips e he sessionId hbefore hafter
    have hnot := hslips e he
    obtain ⟨pre, call, post, _, rfl⟩ := (service.machine.mem_trace_iff _ _ e).mp he
    exact (service.approved_next hbefore hafter).resolve_right hnot

end VeriPay.AuthOrchestration.VerificationService

namespace VeriPay.AuthOrchestration

open Lib Lib.Base64 Common

/-! A session at tier `HIGH` under the local signing key. The codec and the
digest give the real bytes for this session and something else elsewhere. -/

def asciiBytes (text : String) : List Byte :=
  text.toList.map (fun c => Fin.ofNat 256 c.toNat)

def highNow : DateTime := { wall := 63923688000000000, utcOffset := some 0 }

def highClaims : VerificationTokenClaims where
  sessionId := sessionIdOf "00000000000000000000000000000001"
  transactionId := ⟨"tx-1", by decide⟩
  deviceId := ⟨"dev-1", by decide⟩
  nonce := ⟨"nonce-1", by decide⟩
  amountMinor := 12345
  currency := ⟨"EUR", by decide⟩
  riskTier := tierText .high
  issuedAt := highNow
  expiresAt := { wall := 63923688030000000, utcOffset := some 0 }
  tokenId := tokenIdOf "00000000000000000000000000000002"

def highBody : List Byte := asciiBytes
  ("\x7b\"amount_minor\":12345,\"currency\":\"EUR\",\"device_id\":\"dev-1\"," ++
    "\"expires_at\":\"2026-08-30T12:00:30Z\",\"issued_at\":\"2026-08-30T12:00:00Z\"," ++
    "\"nonce\":\"nonce-1\",\"risk_tier\":\"HIGH\"," ++
    "\"session_id\":\"verify_00000000000000000000000000000001\"," ++
    "\"token_id\":\"token_00000000000000000000000000000002\"," ++
    "\"transaction_id\":\"tx-1\"\x7d")

def highMac : List Byte :=
  [8, 231, 15, 184, 168, 143, 251, 213, 18, 136, 91, 60, 83, 76, 11, 186, 59, 71, 24, 218, 154,
    135, 116, 150, 241, 179, 214, 188, 215, 181, 201, 167]

def localSecret : List Byte := asciiBytes "local-veripay-signing-key"

def highCodec : TokenCodec where
  hmacSha256 := fun secret body => if secret = localSecret ∧ body = highBody then highMac else []
  dumps := fun claims => if claims = highClaims then highBody else []
  loads := fun body =>
    if body = highBody then .ok highClaims else .error (.valueError "Expecting value")

def highSigner : HmacVerificationTokenSigner where
  codec := highCodec
  secret := localSecret
  secret_length := by
    simp only [localSecret, asciiBytes, List.length_map, String.length_toList]
    decide

def highToken : Token := highSigner.tokenOf highBody

def highDigest : String := "3984c4b95f39a22f55b64a7074c118890c6f786f02928237779d3bc022dc3b84"

/-- Injective, and right on `highToken`. -/
def highService : VerificationService where
  signer := highSigner
  sha256Hex := fun token => String.ofList (Equiv.swap highToken highDigest.toList token)
  upper := fun text => String.ofList (text.toList.map Char.toUpper)
  upper_empty := by decide

def highCreation : CreationEnv where
  now := highNow
  sessionUuid := "00000000000000000000000000000001"
  tokenUuid := "00000000000000000000000000000002"
  nonce := "nonce-1"
  dispatch := fun _ => .ok ()

def highRequest : VerificationSessionRequest :=
  VerificationSessionPayload.deriveFields
    { transactionId := ⟨"tx-1", by decide⟩
      deviceId := ⟨"dev-1", by decide⟩
      amountMinor := 12345
      currency := ⟨"EUR", by decide⟩
      riskScore := ⟨80, by decide⟩
      riskTier := some .high }

def highSession : VerificationSession where
  sessionId := highClaims.sessionId
  transactionId := highClaims.transactionId
  deviceId := highClaims.deviceId
  amountMinor := 12345
  currency := highClaims.currency
  riskTier := .high
  processingPath := .fast
  friction := .multiFactor
  workflow := .exactAmountBiometricSwipe
  timeoutSeconds := 30
  expiresAt := highClaims.expiresAt
  tokenId := highClaims.tokenId
  tokenDigest := highDigest
  createdAt := highNow

theorem highService_digest : highService.sha256Hex highToken = highDigest := by
  simp only [highService, Equiv.swap_apply_left, String.ofList_toList]

theorem highSigner_parse : highSigner.parse highToken = .ok highClaims := by
  rw [highToken, HmacVerificationTokenSigner.parse_tokenOf]
  simp [highSigner, highCodec]

theorem highSigner_verify {now : DateTime} (h : highClaims.expiresAt.le now.orUtc = .ok false) :
    highSigner.verify highToken now = .ok highClaims :=
  (highSigner.verify_eq_ok_iff highToken now highClaims).mpr ⟨highSigner_parse, h⟩

theorem highService_newClaims :
    highService.newClaims highCreation highRequest =
      .ok { highClaims with expiresAt := highNow } := by
  have hupper : highService.upper highRequest.currency.val = "EUR" := by decide
  simp only [VerificationService.newClaims, hupper]
  rfl

theorem highService_issue :
    highService.signer.issue { highClaims with expiresAt := highNow } highRequest.ttlSeconds.val =
      .ok highToken := by
  rw [HmacVerificationTokenSigner.issue_eq_ok_iff]
  refine ⟨by decide, highClaims, by rfl, ?_⟩
  simp [highToken, highSigner, highCodec, highService]

theorem highService_buildSession :
    highService.buildSession highCreation highRequest = .ok (highSession, highToken) := by
  have hverify : highService.signer.verify highToken highCreation.now.orUtc = .ok highClaims :=
    highSigner_verify (by rfl)
  rw [highService.buildSession_of highService_newClaims highService_issue hverify,
    highService_digest]
  rfl

theorem highToken_ne_nil : highToken ≠ [] := by
  simp [highToken, HmacVerificationTokenSigner.tokenOf]

/-- Five seconds after the creation, with the local assertion verifier. -/
def highCompletion : CompletionEnv where
  now := { wall := 63923688005000000, utcOffset := some 0 }
  recheck := { wall := 63923688005000000, utcOffset := some 0 }
  biometricVerify := fun assertion _ _ => .ok (assertion = "valid-biometric-assertion")

theorem after_highCreation :
    highService.after [.create highCreation highRequest] =
      InMemoryVerificationRepository.empty.save highSession := by
  rw [VerificationService.after, Machine.run_cons, Machine.run_nil,
    VerificationService.next_create, highService.exec_createSession_ok highService_buildSession]

theorem highSession_presents (env : CompletionEnv) (request : VerificationCompletionRequest)
    (htoken : request.token.val = highToken)
    (hnow : highClaims.expiresAt.le env.now.orUtc = .ok false) :
    highService.Presents env highSession request := by
  refine ⟨rfl, ?_, highClaims, ?_, by decide⟩
  · rw [htoken, highService_digest]
    rfl
  · rw [htoken]
    exact highSigner_verify hnow

def highPending : VerificationCompletionRequest where
  token := ⟨highToken, highToken_ne_nil⟩
  outcome := .pending

/-- The token alone, with outcome `PENDING`, approves a `HIGH` session. -/
theorem not_approvalsEarned_pending :
    ¬ highService.ApprovalsEarned
      [.create highCreation highRequest,
        .complete highCompletion "verify_00000000000000000000000000000001" highPending] := by
  have hget : (InMemoryVerificationRepository.empty.save highSession).get
      "verify_00000000000000000000000000000001" = some highSession :=
    InMemoryVerificationRepository.get_save_self _ highSession
  have hslips : highService.SlipsThrough (InMemoryVerificationRepository.empty.save highSession)
      (.complete highCompletion "verify_00000000000000000000000000000001" highPending) :=
    ⟨highCompletion, _, highPending, highSession, rfl, hget,
      highSession_presents highCompletion highPending rfl (by rfl), by rfl, by decide, by decide⟩
  rw [← after_highCreation] at hslips
  exact highService.not_approvalsEarned_of_slipsThrough hslips

end VeriPay.AuthOrchestration
