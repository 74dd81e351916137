import Mathlib.Data.List.MinMax
import Mathlib.Tactic.NormNum
import VeriPay.Common.RiskPolicy

/-!
Cost-aware authorization routing. `DecisionPayload` is what a client submits;
its validator fills the tier and the path in and gives the `DecisionRequest`
that `decide` reads. Costs are exact rationals. The `uuid` argument is the draw
of `uuid4`; the response's `evaluated_at` stamp is left out.
-/

namespace VeriPay.DecisionEngine

open Lib Common

inductive DecisionReason
  | reversalRequest | complianceBlock | mandatoryChallenge | evidenceUnavailable
  | verificationApproved | verificationDenied | verificationTimeout
  | verificationEscalated | fastPathAsyncExplanation
  | secondaryPathInBandExplanation | costMinimized
  deriving DecidableEq, Repr

/-- Expected-loss inputs with the bounds pydantic checks on them. -/
structure CostModel where
  fraudLossMinor : ℚ := 10000
  falseDeclineLossMinor : ℚ := 2500
  monitorCostMinor : ℚ := 400
  challengeCostMinor : ℚ := 60
  reviewCostMinor : ℚ := 150
  reversalCostMinor : ℚ := 100
  monitorResidualFraudRate : ℚ := 85 / 100
  challengeResidualFraudRate : ℚ := 20 / 100
  reviewResidualFraudRate : ℚ := 35 / 100
  reversalResidualFraudRate : ℚ := 5 / 100
  fraudLoss_nonneg : 0 ≤ fraudLossMinor := by norm_num
  falseDeclineLoss_nonneg : 0 ≤ falseDeclineLossMinor := by norm_num
  monitorCost_nonneg : 0 ≤ monitorCostMinor := by norm_num
  challengeCost_nonneg : 0 ≤ challengeCostMinor := by norm_num
  reviewCost_nonneg : 0 ≤ reviewCostMinor := by norm_num
  reversalCost_nonneg : 0 ≤ reversalCostMinor := by norm_num
  monitorRate_bounds : 0 ≤ monitorResidualFraudRate ∧ monitorResidualFraudRate ≤ 1 := by norm_num
  challengeRate_bounds :
    0 ≤ challengeResidualFraudRate ∧ challengeResidualFraudRate ≤ 1 := by norm_num
  reviewRate_bounds : 0 ≤ reviewResidualFraudRate ∧ reviewResidualFraudRate ≤ 1 := by norm_num
  reversalRate_bounds :
    0 ≤ reversalResidualFraudRate ∧ reversalResidualFraudRate ≤ 1 := by norm_num

def CostModel.defaults : CostModel := {}

/-- The fields a client sends, with the source's defaults. -/
structure DecisionPayload where
  transactionId : NonEmptyStr
  riskScore : RiskScore
  riskBand : Option RiskBand := none
  riskTier : Option RiskTier := none
  paymentRail : Option PaymentRail := none
  processingPath : Option ProcessingPath := none
  verificationOutcome : VerificationOutcome := .pending
  isReversal : Bool := false
  complianceBlocked : Bool := false
  mandatoryChallenge : Bool := false
  evidenceAvailable : Bool := true
  explanationAvailable : Bool := true
  costModel : CostModel := .defaults

/-- A validated request: the tier is never missing any more. -/
structure DecisionRequest where
  transactionId : NonEmptyStr
  riskScore : RiskScore
  riskBand : Option RiskBand
  riskTier : RiskTier
  paymentRail : Option PaymentRail
  processingPath : Option ProcessingPath
  verificationOutcome : VerificationOutcome
  isReversal : Bool
  complianceBlocked : Bool
  mandatoryChallenge : Bool
  evidenceAvailable : Bool
  explanationAvailable : Bool
  costModel : CostModel

namespace DecisionPayload

def derivedTier (payload : DecisionPayload) : RiskTier :=
  match payload.riskTier, payload.riskBand with
  | some tier, _ => tier
  | none, some band => tierFromBand band
  | none, none => classifyScore (payload.riskScore.val : ℚ)

def deriveOperationalFields (payload : DecisionPayload) : DecisionRequest where
  transactionId := payload.transactionId
  riskScore := payload.riskScore
  riskBand := payload.riskBand
  riskTier := payload.derivedTier
  paymentRail := payload.paymentRail
  processingPath :=
    match payload.processingPath, payload.paymentRail with
    | none, some rail => some (processingPathForRail rail)
    | path, _ => path
  verificationOutcome := payload.verificationOutcome
  isReversal := payload.isReversal
  complianceBlocked := payload.complianceBlocked
  mandatoryChallenge := payload.mandatoryChallenge
  evidenceAvailable := payload.evidenceAvailable
  explanationAvailable := payload.explanationAvailable
  costModel := payload.costModel

end DecisionPayload

structure DecisionCandidate where
  action : DecisionAction
  expectedCostMinor : ℚ
  deriving DecidableEq

structure DecisionResponse where
  transactionId : NonEmptyStr
  action : DecisionAction
  riskScore : RiskScore
  riskBand : RiskBand
  riskTier : RiskTier
  reasonCode : DecisionReason
  expectedCostMinor : ℚ
  candidates : List DecisionCandidate
  friction : FrictionType
  workflow : VerificationWorkflow
  timeoutSeconds : ℕ
  timeoutFallback : TimeoutFallback
  processingPath : ProcessingPath
  explanationMode : ExplanationMode
  explanationJobId : Option String := none
  escalationRequired : Bool := false
  deriving DecidableEq

def expectedCost (action : DecisionAction) (probability : ℚ) (model : CostModel) : ℚ :=
  let fraudLoss := probability * model.fraudLossMinor
  match action with
  | .allow => fraudLoss
  | .monitor => model.monitorCostMinor + fraudLoss * model.monitorResidualFraudRate
  | .challenge => model.challengeCostMinor + fraudLoss * model.challengeResidualFraudRate
  | .review => model.reviewCostMinor + fraudLoss * model.reviewResidualFraudRate
  | .decline => (1 - probability) * model.falseDeclineLossMinor
  | .reverse => model.reversalCostMinor + fraudLoss * model.reversalResidualFraudRate

/-- The legacy candidate set, for clients that submit a band only. -/
def candidateActions : RiskBand → List DecisionAction
  | .approve => [.allow, .monitor]
  | .verify => [.monitor, .challenge, .review]
  | .block => [.review, .decline]

theorem candidateActions_ne_nil (band : RiskBand) : candidateActions band ≠ [] := by
  cases band <;> simp [candidateActions]

namespace DecisionRequest

def probability (request : DecisionRequest) : ℚ := (request.riskScore.val : ℚ) / 100

def costOf (request : DecisionRequest) (action : DecisionAction) : ℚ :=
  expectedCost action request.probability request.costModel

def derivedPath (request : DecisionRequest) : ProcessingPath :=
  request.processingPath.getD .fast

def responseBand (request : DecisionRequest) : RiskBand :=
  request.riskBand.getD (bandForTier request.riskTier)

def forcedResponse (request : DecisionRequest) (action : DecisionAction) (reason : DecisionReason)
    (mode : ExplanationMode) (job : Option String := none) (escalation : Bool := false) :
    DecisionResponse :=
  let policy := policyForTier request.riskTier
  let cost := request.costOf action
  { transactionId := request.transactionId
    action := action
    riskScore := request.riskScore
    riskBand := request.responseBand
    riskTier := request.riskTier
    reasonCode := reason
    expectedCostMinor := cost
    candidates := [{ action := action, expectedCostMinor := cost }]
    friction := policy.friction
    workflow := policy.workflow
    timeoutSeconds := policy.timeoutSeconds
    timeoutFallback := policy.timeoutFallback
    processingPath := request.derivedPath
    explanationMode := mode
    explanationJobId := job
    escalationRequired := escalation }

/-- `risk_band is None or risk_tier != tier_from_band(risk_band)`. -/
def matrixMode (request : DecisionRequest) : Bool :=
  match request.riskBand with
  | none => true
  | some band => request.riskTier ≠ tierFromBand band

def actions (request : DecisionRequest) : List DecisionAction :=
  if request.matrixMode then allowedActionsForTier request.riskTier
  else candidateActions (request.riskBand.getD .approve)

def candidates (request : DecisionRequest) : List DecisionCandidate :=
  request.actions.map fun action =>
    { action := action, expectedCostMinor := request.costOf action }

theorem candidates_ne_nil (request : DecisionRequest) : request.candidates ≠ [] := by
  have hactions : request.actions ≠ [] := by
    unfold actions
    split
    · exact allowedActionsForTier_ne_nil _
    · exact candidateActions_ne_nil _
  simpa only [candidates, ne_eq, List.map_eq_nil_iff] using hactions

/-- `min(candidates, key=...)`: the first candidate of least expected cost. -/
def cheapest (request : DecisionRequest) : DecisionCandidate :=
  (request.candidates.argmin DecisionCandidate.expectedCostMinor).get (by
    rw [Option.isSome_iff_ne_none, ne_eq, List.argmin_eq_none]
    exact request.candidates_ne_nil)

/-- The tier's friction: above `noRisk` a cheapest ALLOW becomes the challenge
candidate where the candidate list has one. -/
def selected (request : DecisionRequest) : DecisionCandidate :=
  if request.matrixMode ∧ request.riskTier ≠ .noRisk ∧ request.cheapest.action = .allow then
    (request.candidates.find? fun candidate => candidate.action = .challenge).getD
      request.cheapest
  else request.cheapest

def costReason (request : DecisionRequest) : DecisionReason :=
  if !request.matrixMode then .costMinimized
  else if request.derivedPath = .secondary then .secondaryPathInBandExplanation
  else if request.riskTier ≠ .noRisk then .fastPathAsyncExplanation
  else .costMinimized

/-- The tail of `decide`, reached when no hard control has returned. -/
def costResponse (request : DecisionRequest) (mode : ExplanationMode) (job : Option String) :
    DecisionResponse :=
  let policy := policyForTier request.riskTier
  { transactionId := request.transactionId
    action := request.selected.action
    riskScore := request.riskScore
    riskBand := request.responseBand
    riskTier := request.riskTier
    reasonCode := request.costReason
    expectedCostMinor := request.selected.expectedCostMinor
    candidates := request.candidates
    friction := policy.friction
    workflow := policy.workflow
    timeoutSeconds := policy.timeoutSeconds
    timeoutFallback := policy.timeoutFallback
    processingPath := request.derivedPath
    explanationMode := mode
    explanationJobId := job
    escalationRequired := policy.analystEscalation && request.selected.action = .review }

def decide (uuid : String) (request : DecisionRequest) : DecisionResponse :=
  let path := request.derivedPath
  let mode := if path = .fast then .async else .inBand
  let job := if path = .fast ∧ !request.explanationAvailable then
    some ("explain_" ++ uuid) else none
  if request.isReversal then
    request.forcedResponse .reverse .reversalRequest mode job
  else if request.complianceBlocked then
    request.forcedResponse .decline .complianceBlock mode job
  else if !request.evidenceAvailable then
    request.forcedResponse .review .evidenceUnavailable mode job (request.riskTier = .high)
  else if path = .secondary ∧ !request.explanationAvailable then
    request.forcedResponse .review .evidenceUnavailable mode none true
  else
    match request.verificationOutcome with
    | .timedOut | .expired =>
      request.forcedResponse (if request.riskTier = .high then .review else .decline)
        .verificationTimeout mode none (request.riskTier = .high)
    | .denied | .locked =>
      request.forcedResponse (if request.riskTier = .high then .review else .decline)
        .verificationDenied mode none (request.riskTier = .high)
    | .escalated => request.forcedResponse .review .verificationEscalated mode none true
    | .approved => request.forcedResponse .allow .verificationApproved mode job
    | .pending => request.costResponse mode job

/-- No hard control returns: `decide` reaches its cost branch. -/
def ReachesCostBranch (request : DecisionRequest) : Prop :=
  request.isReversal = false ∧ request.complianceBlocked = false ∧
    request.evidenceAvailable = true ∧
    (request.derivedPath = .secondary → request.explanationAvailable = true) ∧
    request.verificationOutcome = .pending

instance (request : DecisionRequest) : Decidable request.ReachesCostBranch := by
  unfold ReachesCostBranch
  infer_instance

end DecisionRequest

end VeriPay.DecisionEngine
