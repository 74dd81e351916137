import VeriPay.Lib.Effect
import VeriPay.Lib.Machine
import VeriPay.Common.RiskPolicy
import VeriPay.Common.Security

/-!
Tier-driven mobile verification orchestration. What a call reads from outside
(clock, uuids, nonce, push provider, biometric verifier) is its environment, so
that every behaviour of these is some sequence of environments. The digest and
`str.upper` are parameters of the service.
-/

namespace VeriPay.AuthOrchestration

open Lib Common

structure VerificationSessionPayload where
  transactionId : NonEmptyStr
  deviceId : NonEmptyStr
  amountMinor : ℕ
  currency : Str3
  riskScore : RiskScore
  riskTier : Option RiskTier := none
  paymentRail : PaymentRail := .card
  processingPath : Option ProcessingPath := none
  ttlSeconds : {n : ℕ // 10 ≤ n ∧ n ≤ 30} := ⟨30, by decide⟩

/-- A validated request, with the tier and the path filled in. -/
structure VerificationSessionRequest where
  transactionId : NonEmptyStr
  deviceId : NonEmptyStr
  amountMinor : ℕ
  currency : Str3
  riskScore : RiskScore
  riskTier : RiskTier
  paymentRail : PaymentRail
  processingPath : ProcessingPath
  ttlSeconds : {n : ℕ // 10 ≤ n ∧ n ≤ 30}

def VerificationSessionPayload.deriveFields (payload : VerificationSessionPayload) :
    VerificationSessionRequest where
  transactionId := payload.transactionId
  deviceId := payload.deviceId
  amountMinor := payload.amountMinor
  currency := payload.currency
  riskScore := payload.riskScore
  riskTier := payload.riskTier.getD (classifyScore (payload.riskScore.val : ℚ))
  paymentRail := payload.paymentRail
  processingPath := payload.processingPath.getD (processingPathForRail payload.paymentRail)
  ttlSeconds := payload.ttlSeconds

structure VerificationCompletionRequest where
  token : {t : Token // t ≠ []}
  outcome : VerificationOutcome
  exactAmountMinor : Option ℕ := none
  exactCurrency : Option Str3 := none
  biometricAssertion : Option String := none
  confirmationSwipe : Bool := false
  denialReason : Option String := none

structure VerificationSession where
  sessionId : NonEmptyStr
  transactionId : NonEmptyStr
  deviceId : NonEmptyStr
  amountMinor : ℕ
  currency : Str3
  riskTier : RiskTier
  processingPath : ProcessingPath
  friction : FrictionType
  workflow : VerificationWorkflow
  timeoutSeconds : ℕ
  expiresAt : DateTime
  tokenId : NonEmptyStr
  tokenDigest : String
  outcome : VerificationOutcome := .pending
  temporaryLock : Bool := false
  escalationRequired : Bool := false
  createdAt : DateTime
  deriving DecidableEq

structure VerificationResult where
  sessionId : NonEmptyStr
  transactionId : NonEmptyStr
  outcome : VerificationOutcome
  riskTier : RiskTier
  temporaryLock : Bool
  escalationRequired : Bool
  reasonCode : String
  completedAt : DateTime
  deriving DecidableEq

/-- Sessions filed under their own id, so that assigning to a stored session and
saving it are one update. -/
@[ext] structure InMemoryVerificationRepository where
  sessions : String → Option VerificationSession
  filed : ∀ {id session}, sessions id = some session → session.sessionId.val = id

namespace InMemoryVerificationRepository

def empty : InMemoryVerificationRepository where
  sessions := fun _ => none
  filed := fun h => by cases h

def get (repository : InMemoryVerificationRepository) (sessionId : String) :
    Option VerificationSession :=
  repository.sessions sessionId

def save (repository : InMemoryVerificationRepository) (session : VerificationSession) :
    InMemoryVerificationRepository where
  sessions := Function.update repository.sessions session.sessionId.val (some session)
  filed := by
    intro id stored h
    by_cases hid : id = session.sessionId.val
    · subst hid
      rw [Function.update_self] at h
      rw [← Option.some.inj h]
    · rw [Function.update_of_ne hid] at h
      exact repository.filed h

@[simp] theorem get_empty (id : String) : empty.get id = none := rfl

theorem get_save_self (repository : InMemoryVerificationRepository)
    (session : VerificationSession) :
    (repository.save session).get session.sessionId.val = some session :=
  Function.update_self ..

theorem get_save_of_ne (repository : InMemoryVerificationRepository)
    (session : VerificationSession) {id : String} (h : id ≠ session.sessionId.val) :
    (repository.save session).get id = repository.get id :=
  Function.update_of_ne h ..

end InMemoryVerificationRepository

structure VerificationService where
  signer : HmacVerificationTokenSigner
  /-- `hashlib.sha256(token.encode()).hexdigest()`. -/
  sha256Hex : Token → String
  /-- `str.upper`. -/
  upper : String → String
  upper_empty : upper "" = ""

/-- What one `create_session` call draws and calls. -/
structure CreationEnv where
  now : DateTime
  sessionUuid : String
  tokenUuid : String
  nonce : String
  dispatch : VerificationSession → Py Unit

/-- What one `complete_session` call reads: the clock is read a second time by
`_expired`. -/
structure CompletionEnv where
  now : DateTime
  recheck : DateTime
  biometricVerify : String → String → String → Py Bool

theorem append_ne_empty {head : String} (h : head ≠ "") (tail : String) : head ++ tail ≠ "" := by
  intro heq
  exact h (String.append_eq_empty_iff.mp heq).1

def sessionIdOf (uuid : String) : NonEmptyStr :=
  ⟨"verify_" ++ uuid, append_ne_empty (by decide) uuid⟩

def tokenIdOf (uuid : String) : NonEmptyStr :=
  ⟨"token_" ++ uuid, append_ne_empty (by decide) uuid⟩

def tierText (tier : RiskTier) : NonEmptyStr := ⟨tier.value, by cases tier <;> decide⟩

namespace VerificationService

variable (service : VerificationService)

/-- The claims of a new session; the model checks the nonce and the currency. -/
def newClaims (env : CreationEnv) (request : VerificationSessionRequest) :
    Py VerificationTokenClaims := do
  let nonce ← NonEmptyStr.validate "nonce" env.nonce
  let currency ← Str3.validate "currency" (service.upper request.currency.val)
  return {
    sessionId := sessionIdOf env.sessionUuid
    transactionId := request.transactionId
    deviceId := request.deviceId
    nonce
    amountMinor := request.amountMinor
    currency
    riskTier := tierText request.riskTier
    issuedAt := env.now.orUtc
    expiresAt := env.now.orUtc
    tokenId := tokenIdOf env.tokenUuid }

/-- `create_session` up to the save. The currency is the one the claims carry. -/
def buildSession (env : CreationEnv) (request : VerificationSessionRequest) :
    Py (VerificationSession × Token) := do
  let policy := policyForTier request.riskTier
  let claims ← service.newClaims env request
  let token ← service.signer.issue claims request.ttlSeconds.val
  let parsedClaims ← service.signer.verify token env.now.orUtc
  return (
    { sessionId := sessionIdOf env.sessionUuid
      transactionId := request.transactionId
      deviceId := request.deviceId
      amountMinor := request.amountMinor
      currency := claims.currency
      riskTier := request.riskTier
      processingPath := request.processingPath
      friction := policy.friction
      workflow := policy.workflow
      timeoutSeconds := policy.timeoutSeconds
      expiresAt := parsedClaims.expiresAt
      tokenId := tokenIdOf env.tokenUuid
      tokenDigest := service.sha256Hex token
      createdAt := env.now.orUtc }, token)

def createSession (env : CreationEnv) (request : VerificationSessionRequest) :
    Effect InMemoryVerificationRepository (VerificationSession × Token) := do
  let built ← liftM (service.buildSession env request)
  modify (·.save built.1)
  -- a provider that raises does so after the session is stored
  if request.riskTier ≠ .noRisk then
    liftM (env.dispatch built.1)
    return built
  else
    return built

def expired (env : CompletionEnv) (session : VerificationSession) : Py Bool :=
  session.expiresAt.le env.recheck.orUtc

/-- The assertion check of the two tiers that demand one. -/
def biometricError (env : CompletionEnv) (session : VerificationSession)
    (request : VerificationCompletionRequest) : Py (Option String) :=
  match request.biometricAssertion with
  | none => return some "BIOMETRIC_ASSERTION_REQUIRED"
  | some assertion =>
    if assertion = "" then return some "BIOMETRIC_ASSERTION_REQUIRED"
    else do
      let accepted ←
        env.biometricVerify assertion session.deviceId.val session.transactionId.val
      if accepted then return none else return some "BIOMETRIC_ASSERTION_REJECTED"

def validateWorkflow (env : CompletionEnv) (session : VerificationSession)
    (request : VerificationCompletionRequest) : Py (Option String) :=
  if request.outcome ≠ .approved ∧ request.outcome ≠ .denied then return none
  else if request.outcome = .denied then return none
  else
    match session.riskTier with
    | .noRisk => return none
    | .low => return none
    | .moderate => biometricError env session request
    | .high =>
      if request.exactAmountMinor ≠ some session.amountMinor then
        return some "EXACT_AMOUNT_MISMATCH"
      else if service.upper ((request.exactCurrency.map Subtype.val).getD "")
          ≠ session.currency.val then
        return some "EXACT_CURRENCY_MISMATCH"
      else do
        let error ← biometricError env session request
        match error with
        | some reason => return some reason
        | none =>
          if request.confirmationSwipe then return none
          else return some "CONFIRMATION_SWIPE_REQUIRED"

end VerificationService

namespace VerificationSession

/-- The assignments of the timeout exit. -/
def timedOut (session : VerificationSession) : VerificationSession :=
  { session with
    outcome := if session.riskTier = .high then .escalated else .timedOut
    temporaryLock := session.riskTier = .moderate
    escalationRequired := session.riskTier = .high }

/-- The assignments of the exit on a workflow error. -/
def rejected (session : VerificationSession) : VerificationSession :=
  { session with
    outcome := if session.riskTier = .high then .escalated else .denied
    temporaryLock := session.riskTier = .moderate
    escalationRequired := session.riskTier = .high }

/-- The assignments of the last exit, with the outcome chosen there. -/
def settled (session : VerificationSession) (outcome : VerificationOutcome) :
    VerificationSession :=
  { session with
    outcome
    temporaryLock := session.riskTier = .moderate ∧ outcome ≠ .approved
    escalationRequired := session.riskTier = .high ∧ outcome ≠ .approved }

def result (session : VerificationSession) (reasonCode : String) (completedAt : DateTime) :
    VerificationResult where
  sessionId := session.sessionId
  transactionId := session.transactionId
  outcome := session.outcome
  riskTier := session.riskTier
  temporaryLock := session.temporaryLock
  escalationRequired := session.escalationRequired
  reasonCode
  completedAt

end VerificationSession

/-- `text or default`. -/
def textOr (text : Option String) (default : String) : String :=
  if text.getD "" = "" then default else text.getD ""

/-- `except ValueError as exc: raise ValueError(str(exc)) from exc`. -/
def reraise {α : Type} : Py α → Py α
  | .error e => if e.isValueError then .error (.valueError e.message) else .error e
  | .ok a => .ok a

namespace VerificationService

variable (service : VerificationService)

/-- What the checked request makes of the session, and the reason code: the
timeout exit, the exit on a workflow error, or the client's outcome. -/
def settlement (env : CompletionEnv) (session : VerificationSession)
    (request : VerificationCompletionRequest) : Py (VerificationSession × String) := do
  let late ← expired env session
  if late then return (session.timedOut, "VERIFICATION_TIMEOUT")
  else
    let workflowError ← service.validateWorkflow env session request
    match workflowError with
    | some reason => return (session.rejected, reason)
    | none =>
      if request.outcome = .denied then
        return (session.settled (if session.riskTier = .high then .escalated else .denied),
          textOr request.denialReason "USER_DENIED")
      else return (session.settled .approved, "VERIFICATION_APPROVED")

/-- The claims name another session, transaction, device or token. -/
def claimsMismatch (claims : VerificationTokenClaims) (session : VerificationSession) : Bool :=
  claims.sessionId ≠ session.sessionId ∨ claims.transactionId ≠ session.transactionId ∨
    claims.deviceId ≠ session.deviceId ∨ claims.tokenId ≠ session.tokenId

/-- The checks a request passes before it settles the session. -/
def completionChecks (env : CompletionEnv) (session : VerificationSession)
    (request : VerificationCompletionRequest) : Py Unit :=
  if session.outcome ≠ .pending then
    throw (.valueError "Verification session is already completed")
  else if service.sha256Hex request.token.val ≠ session.tokenDigest then
    throw (.valueError "Verification token binding failed")
  else do
    let claims ← reraise (service.signer.verify request.token.val env.now.orUtc)
    if claimsMismatch claims session then
      throw (.valueError "Verification token claims do not match session")
    else return ()

def completeSession (env : CompletionEnv) (sessionId : String)
    (request : VerificationCompletionRequest) :
    Effect InMemoryVerificationRepository VerificationResult := do
  let repository ← get
  match repository.get sessionId with
  | none => throw (.keyError "Verification session not found")
  | some session =>
    liftM (service.completionChecks env session request)
    let exit ← liftM (service.settlement env session request)
    modify (·.save exit.1)
    return exit.1.result exit.2 env.now.orUtc

def tokenForExpiration (_session : VerificationSession) : Py {t : Token // t ≠ []} :=
  throw (.valueError
    "Expiration requires the original token; tokens are never recoverable from storage")

def expireSession (env : CompletionEnv) (sessionId : String) :
    Effect InMemoryVerificationRepository VerificationResult := do
  let repository ← get
  match repository.get sessionId with
  | none => throw (.keyError "Verification session not found")
  | some session =>
    let token ← liftM (tokenForExpiration session)
    service.completeSession env sessionId { token, outcome := .timedOut }

end VerificationService

end VeriPay.AuthOrchestration
