import VeriPay.Common.RiskPolicy
import VeriPay.Lib.Http
import VeriPay.Lib.Machine
import VeriPay.Lib.PyDict

/-!
Transaction ingress. A baseline score is taken from the amount and the channel; a transaction that
names its payment rail is authorized by the tier of the score, one without a rail by its band, as
before rails. The `uuid` arguments are the draws of `uuid4`.
-/

namespace VeriPay.Ingress

open Lib Common

structure Transaction where
  transactionId : NonEmptyStr
  userId : NonEmptyStr
  amountMinor : ℕ
  currency : Str3
  merchantId : Option String := none
  mti : Mti := .authorizationRequest
  channel : Channel := .cardNotPresent
  paymentRail : Option PaymentRail := none
  processingPath : Option ProcessingPath := none

structure ComponentScore where
  component : String
  score : Common.RiskScore
  weight : {weight : ℚ // 0 ≤ weight ∧ weight ≤ 1}
  available : Bool := true
  reasonCode : Option String := none
  deriving DecidableEq

structure RiskScore where
  transactionId : String
  unifiedScore : Common.RiskScore
  band : RiskBand
  tier : RiskTier
  components : List ComponentScore := []
  deriving DecidableEq

structure AuthorizationResponse where
  transactionId : String
  decision : DecisionAction
  riskScore : Common.RiskScore
  reasonCode : String
  challengeId : Option String := none
  riskTier : Option RiskTier := none
  friction : Option FrictionType := none
  workflow : Option VerificationWorkflow := none
  verificationTimeoutSeconds : ℕ := 0
  processingPath : Option ProcessingPath := none
  explanationMode : Option ExplanationMode := none
  explanationJobId : Option String := none
  escalationRequired : Bool := false
  deriving DecidableEq

structure InMemoryTransactionRepository where
  transactions : PyDict String Transaction := ∅

namespace InMemoryTransactionRepository

variable (repository : InMemoryTransactionRepository)

def save (transaction : Transaction) : InMemoryTransactionRepository where
  transactions := repository.transactions.set transaction.transactionId.val transaction

def list : List Transaction := repository.transactions.values

def get (transactionId : String) : Option Transaction :=
  repository.transactions.get? transactionId

end InMemoryTransactionRepository

/-- What the amount adds to the score, and the reason it gives. -/
def amountRisk (amountMinor : ℕ) : ℕ × Option String :=
  if 100000 ≤ amountMinor then (35, some "HIGH_VALUE") else (0, none)

/-- What the channel adds; its reason does not displace an earlier one. -/
def channelRisk : Channel → ℕ × Option String
  | .cardNotPresent => (10, some "CARD_NOT_PRESENT")
  | .cardPresent => (0, none)

/-- The sum, cut off at 100. -/
def baselineScore (transaction : Transaction) : Common.RiskScore :=
  ⟨min ((amountRisk transaction.amountMinor).1 + (channelRisk transaction.channel).1) 100,
    Nat.min_le_right _ _⟩

/-- The tier of the score. The range check of `tier_for_score` never fires on it
(`tierForScore_riskScore`). -/
def baselineTier (transaction : Transaction) : RiskTier :=
  classifyScore ((baselineScore transaction).val : ℚ)

def calculateRisk (transaction : Transaction) : RiskScore where
  transactionId := transaction.transactionId.val
  unifiedScore := baselineScore transaction
  band := bandForTier (baselineTier transaction)
  tier := baselineTier transaction
  components := [{
    component := "ingress_baseline"
    score := baselineScore transaction
    weight := ⟨1, zero_le_one, le_rfl⟩
    reasonCode :=
      (amountRisk transaction.amountMinor).2.or (channelRisk transaction.channel).2 }]

/-- The decision, the reason and the challenge before rails, by the band. -/
def legacyOutcome (challengeUuid : String) : RiskBand → DecisionAction × String × Option String
  | .block => (.decline, "RISK_THRESHOLD", none)
  | .verify => (.challenge, "RISK_THRESHOLD", some ("challenge_" ++ challengeUuid))
  | .approve => (.allow, "BASELINE_APPROVED", none)

def legacyAuthorize (challengeUuid : String) (transaction : Transaction) (risk : RiskScore) :
    AuthorizationResponse :=
  let (decision, reasonCode, challengeId) := legacyOutcome challengeUuid risk.band
  let policy := policyForTier risk.tier
  { transactionId := transaction.transactionId.val
    decision := decision
    riskScore := risk.unifiedScore
    reasonCode := reasonCode
    challengeId := challengeId
    riskTier := some risk.tier
    friction := some policy.friction
    workflow := some policy.workflow
    verificationTimeoutSeconds := policy.timeoutSeconds
    processingPath := some .fast
    explanationMode := some .async }

/-- The decision, the reason and the challenge by the tier. -/
def railOutcome (challengeUuid : String) : RiskTier → DecisionAction × String × Option String
  | .noRisk => (.allow, "BASELINE_APPROVED", none)
  | .low | .moderate =>
    (.challenge, "RISK_TIER_VERIFICATION_REQUIRED", some ("challenge_" ++ challengeUuid))
  | .high =>
    (.review, "HIGH_RISK_ANALYST_REVIEW_REQUIRED", some ("challenge_" ++ challengeUuid))

/-- The tail of `authorize`, for a transaction that names its rail. -/
def railAuthorize (challengeUuid explainUuid : String) (transaction : Transaction)
    (risk : RiskScore) (rail : PaymentRail) : AuthorizationResponse :=
  let path := transaction.processingPath.getD (processingPathForRail rail)
  let policy := policyForTier risk.tier
  let (decision, reasonCode, challengeId) := railOutcome challengeUuid risk.tier
  { transactionId := transaction.transactionId.val
    decision := decision
    riskScore := risk.unifiedScore
    reasonCode := reasonCode
    challengeId := challengeId
    riskTier := some risk.tier
    friction := some policy.friction
    workflow := some policy.workflow
    verificationTimeoutSeconds := policy.timeoutSeconds
    processingPath := some path
    explanationMode := some (if path = .fast then .async else .inBand)
    explanationJobId := if path = .fast then some ("explain_" ++ explainUuid) else none
    escalationRequired := risk.tier = .high }

def authorize (challengeUuid explainUuid : String) (transaction : Transaction) :
    AuthorizationResponse :=
  let risk := calculateRisk transaction
  match transaction.paymentRail with
  | none => legacyAuthorize challengeUuid transaction risk
  | some rail => railAuthorize challengeUuid explainUuid transaction risk rail

inductive IngressRequest
  | listTransactions
  | submitTransaction (transaction : Transaction) (challengeUuid explainUuid : String)
  | transactionRisk (transactionId : String)

inductive IngressBody
  | transactions (transactions : List Transaction)
  | authorization (response : AuthorizationResponse)
  | risk (risk : RiskScore)

/-- The endpoints. -/
def handle (repository : InMemoryTransactionRepository) :
    IngressRequest → Except HTTPException IngressBody × InMemoryTransactionRepository
  | .listTransactions => (.ok (.transactions repository.list), repository)
  | .submitTransaction transaction challengeUuid explainUuid =>
    (.ok (.authorization (authorize challengeUuid explainUuid transaction)),
      repository.save transaction)
  | .transactionRisk transactionId =>
    ((found "Transaction not found" (repository.get transactionId)).map
      (fun transaction => .risk (calculateRisk transaction)), repository)

def ingressMachine :
    Machine InMemoryTransactionRepository IngressRequest (Except HTTPException IngressBody) where
  step := handle

end VeriPay.Ingress
