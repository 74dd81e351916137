import VeriPay.Common.Enums
import VeriPay.Lib.DateTime
import VeriPay.Lib.Effect
import VeriPay.Lib.Machine
import VeriPay.Lib.PyDict

/-!
The challenges of the device integrity service. A clock reading, a nonce and what the
attestation provider answers are inputs of a call; the calls that reach the provider are
kept beside the repository.
-/

namespace VeriPay.DeviceIntegrity

open Lib Common

inductive AttestationStatus
  | verified | rejected | unavailable
  deriving DecidableEq, Repr

structure DeviceChallengeRequest where
  deviceId : NonEmptyStr
  platform : DevicePlatform
  ttlSeconds : ℤ := 90
  ttlSeconds_range : 1 ≤ ttlSeconds ∧ ttlSeconds ≤ 300 := by decide

structure DeviceChallenge where
  challengeId : String
  deviceId : String
  platform : DevicePlatform
  nonce : String
  expiresAt : DateTime
  deriving DecidableEq

structure AttestationRequest where
  challengeId : NonEmptyStr
  nonce : NonEmptyStr
  deviceId : NonEmptyStr
  platform : DevicePlatform
  attestationToken : NonEmptyStr

/-- What a provider says of a token. -/
structure Verdict where
  status : AttestationStatus
  trustState : DeviceTrustState
  reasonCode : String
  deriving DecidableEq

structure AttestationResult extends Verdict where
  challengeId : String
  deviceId : String
  platform : DevicePlatform
  deriving DecidableEq

/-- A provider raises, or gives a triple that the result model accepts or refuses. -/
inductive ProviderAnswer
  | raised (error : PyErr)
  | triple (checked : Py Verdict)

abbrev AttestationProvider := DevicePlatform → String → ProviderAnswer

/-- The test adapter. -/
def deterministicAttestationProvider : AttestationProvider := fun _ token =>
  if token = "valid-attestation" then
    .triple (.ok ⟨.verified, .trusted, "ATTESTATION_VERIFIED"⟩)
  else if token = "untrusted-attestation" then
    .triple (.ok ⟨.verified, .untrusted, "ATTESTATION_UNTRUSTED"⟩)
  else .triple (.ok ⟨.unavailable, .unknown, "ATTESTATION_PROVIDER_UNAVAILABLE"⟩)

structure ChallengeRecord where
  challenge : DeviceChallenge
  consumed : Bool := false
  deriving DecidableEq

/-- The repository of the service, and the calls its provider has had. -/
structure DeviceStore where
  challenges : PyDict String ChallengeRecord := ∅
  providerCalls : List (DevicePlatform × String) := []

namespace DeviceStore

def saveChallenge (record : ChallengeRecord) (store : DeviceStore) : DeviceStore :=
  { store with challenges := store.challenges.set record.challenge.challengeId record }

def getChallenge (store : DeviceStore) (challengeId : String) : Option ChallengeRecord :=
  store.challenges.get? challengeId

/-- `record.consumed = True`, for the record found under an id. -/
def consume (challengeId : String) (record : ChallengeRecord) (store : DeviceStore) :
    DeviceStore :=
  { store with challenges := store.challenges.set challengeId { record with consumed := true } }

/-- A call reaches the provider. -/
def asked (platform : DevicePlatform) (token : String) (store : DeviceStore) : DeviceStore :=
  { store with providerCalls := store.providerCalls ++ [(platform, token)] }

theorem getChallenge_saveChallenge (record : ChallengeRecord) (store : DeviceStore)
    (id : String) :
    (store.saveChallenge record).getChallenge id =
      if id = record.challenge.challengeId then some record else store.getChallenge id :=
  PyDict.get?_set _ _ _ _

theorem getChallenge_consume (challengeId : String) (record : ChallengeRecord)
    (store : DeviceStore) (id : String) :
    (store.consume challengeId record).getChallenge id =
      if id = challengeId then some { record with consumed := true } else store.getChallenge id :=
  PyDict.get?_set _ _ _ _

end DeviceStore

/-- `f"challenge_{uuid4().hex}"`. -/
def challengeIdOf (uuid : String) : String := "challenge_" ++ uuid

/-- What issuing a challenge draws and reads. -/
structure IssueEnv where
  uuid : String
  nonce : Py String
  now : Py DateTime

def issueChallenge (env : IssueEnv) (request : DeviceChallengeRequest) :
    Effect DeviceStore DeviceChallenge := do
  let nonce ← liftM env.nonce
  let now ← liftM env.now
  let expiresAt ← liftM (now.addMicros (request.ttlSeconds * DateTime.microsPerSecond))
  let challenge := {
    challengeId := challengeIdOf env.uuid
    deviceId := request.deviceId.val
    platform := request.platform
    nonce
    expiresAt }
  modify (DeviceStore.saveChallenge { challenge })
  return challenge

/-- The result of a request under a verdict. -/
def AttestationRequest.result (request : AttestationRequest) (verdict : Verdict) :
    AttestationResult where
  toVerdict := verdict
  challengeId := request.challengeId.val
  deviceId := request.deviceId.val
  platform := request.platform

/-- A rejection by the service itself. -/
def AttestationRequest.rejected (request : AttestationRequest) (reasonCode : String) :
    AttestationResult :=
  request.result ⟨.rejected, .unknown, reasonCode⟩

structure VerifyEnv where
  now : Py DateTime
  provider : AttestationProvider

/-- `self.provider.verify(...)`, with the result model's reading of the triple. -/
def askProvider (env : VerifyEnv) (request : AttestationRequest) :
    Effect DeviceStore (Py Verdict) := do
  modify (DeviceStore.asked request.platform request.attestationToken.val)
  match env.provider request.platform request.attestationToken.val with
  | .raised error => throw error
  | .triple checked => return checked

/-- The request is for another device or platform. -/
def bindingMismatch (challenge : DeviceChallenge) (request : AttestationRequest) : Prop :=
  challenge.deviceId ≠ request.deviceId.val ∨ challenge.platform ≠ request.platform

instance (challenge : DeviceChallenge) (request : AttestationRequest) :
    Decidable (bindingMismatch challenge request) := inferInstanceAs (Decidable (_ ∨ _))

def verifyAttestation (env : VerifyEnv) (request : AttestationRequest) :
    Effect DeviceStore AttestationResult := do
  let store ← get
  match store.getChallenge request.challengeId.val with
  | none => return request.rejected "CHALLENGE_NOT_FOUND"
  | some record =>
    if record.consumed then return request.rejected "CHALLENGE_REPLAYED"
    else do
      let now ← liftM env.now
      let expired ← liftM (record.challenge.expiresAt.le now)
      if expired then do
        modify (DeviceStore.consume request.challengeId.val record)
        return request.rejected "CHALLENGE_EXPIRED"
      else if bindingMismatch record.challenge request then do
        modify (DeviceStore.consume request.challengeId.val record)
        return request.rejected "CHALLENGE_BINDING_MISMATCH"
      else if record.challenge.nonce ≠ request.nonce.val then do
        modify (DeviceStore.consume request.challengeId.val record)
        return request.rejected "CHALLENGE_NONCE_MISMATCH"
      else do
        let checked ← askProvider env request
        modify (DeviceStore.consume request.challengeId.val record)
        let verdict ← liftM checked
        return request.result verdict

inductive Call
  | issue (env : IssueEnv) (request : DeviceChallengeRequest)
  | verify (env : VerifyEnv) (request : AttestationRequest)

inductive Answer
  | issued (answer : Py DeviceChallenge)
  | verified (answer : Py AttestationResult)

def step (store : DeviceStore) : Call → Answer × DeviceStore
  | .issue env request =>
    let (answer, after) := Effect.exec (issueChallenge env request) store
    (.issued answer, after)
  | .verify env request =>
    let (answer, after) := Effect.exec (verifyAttestation env request) store
    (.verified answer, after)

def deviceMachine : Machine DeviceStore Call Answer where
  step := step

end VeriPay.DeviceIntegrity
