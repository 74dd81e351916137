import VeriPay.Lib.Effect
import VeriPay.AnalystApi.Features
import VeriPay.AnalystApi.Reasoning

/-!
The pipeline orchestrator: it wires the model, graph, fusion and decision
services into one score and inserts the feedback and drift adjustments. The
services behind the client keep a state of their own, the world, which only
client calls can change. Everything `score` does before, between and after its
client calls is a function of its own.
-/

namespace VeriPay.AnalystApi

open Lib Common

structure Settings where
  useRichFeatures : Bool := false
  networkFusionWeight : ℚ := 2 / 10
  trustBoostFactor : ℚ := 7 / 10
  heightenedAlertAdd : ℚ := 1 / 10
  gradualDriftFactor : ℚ := 6 / 10
  suddenDriftFactor : ℚ := 12 / 10
  trustBoostWindow : ℕ := 3
  fraudQuadrantThreshold : ℚ := 5 / 10
  anomalyQuadrantThreshold : ℚ := 5 / 10

/-- The body of `/graph/score` and `/graph/observe`. -/
structure GraphPayload where
  transactionId : NonEmptyStr
  ccNum : ℕ
  merchant : NonEmptyStr
  amount : ℚ
  timestamp : DateTime
  flagged : Bool

structure FusionComponent where
  component : String
  score : ℤ
  weight : ℚ
  available : Bool

structure DecidePayload where
  transactionId : NonEmptyStr
  riskScore : ℤ
  riskBand : RiskBand
  riskTier : RiskTier
  paymentRail : PaymentRail

structure FeedbackPayload where
  idempotencyKey : String
  transactionId : NonEmptyStr
  analystId : String
  label : ReviewLabel
  reasonCodes : List String
  decisionAction : String

structure InvestigatePayload where
  transactionId : NonEmptyStr
  amount : ℚ
  merchant : NonEmptyStr
  category : String
  transactionHistory : List (ℚ × String)
  riskScore : RiskScore
  decision : Decision
  ccNum : ℕ

/-- The downstream calls of `score`, `explain` and `submit_feedback`. -/
structure PipelineClient (W : Type) where
  supervisedScore : NonEmptyStr → Features → Effect W JsonObj
  anomalyScore : NonEmptyStr → Features → Effect W JsonObj
  fuseRisk : NonEmptyStr → List FusionComponent → Effect W JsonObj
  decide : DecidePayload → Effect W JsonObj
  investigate : InvestigatePayload → Effect W JsonObj
  appendFeedback : FeedbackPayload → Effect W JsonObj
  recordMonitorLabel : NonEmptyStr → ReviewLabel → Effect W JsonObj
  graphScore : GraphPayload → Effect W JsonObj
  graphObserve : GraphPayload → Effect W JsonObj
  graphCommunity : ℕ → Effect W JsonObj

/-- What the HTTP client raises when a service rejects a body. -/
def httpError : PyErr := .other "HTTPError"

/-- The client where its services are a part of the world. -/
def PipelineClient.onPart {W S : Type} (part : S → W) (put : W → S → S)
    (client : PipelineClient W) : PipelineClient S where
  supervisedScore := fun transactionId features =>
    Effect.onPart part put (client.supervisedScore transactionId features)
  anomalyScore := fun transactionId features =>
    Effect.onPart part put (client.anomalyScore transactionId features)
  fuseRisk := fun transactionId components =>
    Effect.onPart part put (client.fuseRisk transactionId components)
  decide := fun payload => Effect.onPart part put (client.decide payload)
  investigate := fun payload => Effect.onPart part put (client.investigate payload)
  appendFeedback := fun payload => Effect.onPart part put (client.appendFeedback payload)
  recordMonitorLabel := fun transactionId label =>
    Effect.onPart part put (client.recordMonitorLabel transactionId label)
  graphScore := fun payload => Effect.onPart part put (client.graphScore payload)
  graphObserve := fun payload => Effect.onPart part put (client.graphObserve payload)
  graphCommunity := fun customer => Effect.onPart part put (client.graphCommunity customer)

/-- The orchestrator's own state, and the world of its services. -/
structure Pipeline (W : Type) where
  store : ProfileStore := {}
  scored : String → Option ScoreResponse := fun _ => none
  scoredExplain : String → Option ExplainResponse := fun _ => none
  lookupByCustomer : ℕ → Option String := fun _ => none
  alerts : List AlertItem := []
  world : W

structure AnalystOrchestrator (W : Type) where
  client : PipelineClient W
  settings : Settings := {}
  platform : Platform

/-- What `score` derives from the store and the request before its first call. -/
structure ScoringInputs where
  before : List StoredTransaction
  featureMode : String
  features : Features
  featureRows : List FeatureRow
  features16Rows : List FeatureRow

structure ModelScores where
  rawFraud : ℚ
  rawAnomaly : ℚ
  supAvailable : Bool
  anomAvailable : Bool

structure AdjustedScores where
  feedback : FeedbackOutcome
  drift : DriftOutcome
  fraud : ℚ
  anomaly : ℚ

/-- The graph answer as far as it could be read. -/
structure NetworkAxis where
  risk : ℚ := 0
  available : Bool := false
  findings : List Json := []
  ego : Option Json := none

structure FusionAnswer where
  unified : ℤ
  band : RiskBand
  tier : RiskTier

structure DecisionAnswer where
  action : DecisionAction
  tier : RiskTier
  band : RiskBand

/-- `_clock` and `_ts`. -/
def clock (timestamp : DateTime) : DateTime := timestamp.orUtc

def allRiskBands : List RiskBand := [.approve, .verify, .block]
def allRiskTiers : List RiskTier := [.noRisk, .low, .moderate, .high]
def allDecisionActions : List DecisionAction :=
  [.allow, .monitor, .challenge, .review, .decline, .reverse]

def readModelScores (platform : Platform) (supervised anomaly : JsonObj) : Py ModelScores := do
  let rawFraud ←
    (supervised.getD "fraud_probability" (.float 0)).toFloat platform.parseFloat
  let rawAnomaly ← (anomaly.getD "anomaly_score" (.float 0)).toFloat platform.parseFloat
  return {
    rawFraud
    rawAnomaly
    supAvailable := (supervised.getD "model_available" (.bool true)).truthy
    anomAvailable := (anomaly.getD "model_available" (.bool true)).truthy }

/-- The `try` block around the graph call: what was assigned before a raise stays. -/
def readGraph (platform : Platform) : Py JsonObj → NetworkAxis
  | .error _ => {}
  | .ok graph =>
    match (graph.getD "network_risk_score" (.float 0)).toFloat platform.parseFloat with
    | .error _ => {}
    | .ok risk =>
      let available := (graph.getD "available" (.bool false)).truthy
      match (graph.getD "findings" (.arr [])).toList with
      | .error _ => { risk, available }
      | .ok findings => { risk, available, findings, ego := graph.get? "ego" }

def readFusion (platform : Platform) (fusion : JsonObj) : Py FusionAnswer := do
  let score ← fusion.item "unified_score"
  let unified ← score.toInt platform.parseInt
  let bandText ← fusion.item "band"
  let band ← bandText.toEnum allRiskBands RiskBand.value
  let tierText ← fusion.item "tier"
  let tier ← tierText.toEnum allRiskTiers RiskTier.value
  return { unified, band, tier }

def readDecision (decision : JsonObj) : Py DecisionAnswer := do
  let actionText ← decision.item "action"
  let action ← actionText.toEnum allDecisionActions DecisionAction.value
  let tierText ← decision.item "risk_tier"
  let tier ← tierText.toEnum allRiskTiers RiskTier.value
  let bandText ← decision.item "risk_band"
  let band ← bandText.toEnum allRiskBands RiskBand.value
  return { action, tier, band }

/-- `_min(round(score * 100), 100)`, where `checkPercent` passes. -/
def percent (score : ℚ) : ℤ := min (roundEven (score * 100)) 100

/-- `round(score * 100)` raises on an infinite product. -/
def checkPercent (score : ℚ) : Py Unit :=
  if FloatValue.overflows (FloatValue.nearest score * 100) then
    .error (.overflowError "cannot convert float infinity to integer")
  else .ok ()

/-- Pydantic's check of the optional `network_ego` object. -/
def validateEgo : Option Json → Py (Option JsonObj)
  | none => return none
  | some .null => return none
  | some (.obj fields) => return some fields
  | some _ => throw (.validationError "network_ego")

def anomalyContributorColumns : List String :=
  ["impossible_travel", "new_device", "velocity_5m", "amount_log", "distance_km", "mcc_risk",
    "hour_of_day"]

/-- Top features by magnitude, normalized to 100%. -/
def anomalyContributors (features : Features) : Py (List ContributorShare) :=
  let magnitudes := anomalyContributorColumns.map fun name =>
    let value := |features.getD name|
    (if name = "amount_log" ∨ name = "distance_km" then min value 60 else value, name)
  if (magnitudes.map Prod.fst).sum ≤ 0 then do
    let share ← Percentage.validate "contribution_pct" 100
    return [{ feature := "no_dominant_feature", contributionPct := share }]
  else
    let top := (magnitudes.mergeSort (fun a b => b.1 ≤ a.1)).take 4
    let topTotal := (top.map Prod.fst).sum
    top.mapM fun item => do
      let share ← Percentage.validate "contribution_pct" (roundTo 1 (item.1 / topTotal * 100))
      return { feature := item.2, contributionPct := share }

def xgbDefinitions : List (String × ℚ × ℚ) :=
  [("impossible_travel", 30 / 100, 1), ("new_device", 18 / 100, 1), ("velocity_5m", 14 / 100, 8),
    ("distance_km", 12 / 100, 800), ("amount_log", 20 / 100, 6), ("weekend", 6 / 100, 1)]

/-- Deterministic per-feature contribution estimates. -/
def xgbContributions (features : Features) (fraudProbability : ℚ) : List XgbContribution :=
  let scale := min 1 (25 / 100 + fraudProbability)
  xgbDefinitions.map fun (name, weight, reference) =>
    let ratio := min 1 (features.getD name / reference)
    let direction : ℚ := if 30 / 100 < ratio then 1 else -1
    { feature := name, shapValue := roundTo 2 (direction * weight * scale) }

def adjustmentSummaries (adjusted : AdjustedScores) : List AdjustmentItem :=
  let feedback := adjusted.feedback
  let drift := adjusted.drift
  (if feedback.effect = "no_adjustment" then []
    else [{ kind := "feedback"
            effect := feedback.effect
            description := feedback.description
            anomalyFactor := feedback.anomalyFactor
            fraudAdd := feedback.fraudAdd }]) ++
  (if drift.effect = "no_adjustment" then []
    else [{ kind := "drift"
            effect := drift.effect
            description := drift.description
            anomalyFactor := drift.anomalyFactor }])

def recentTransactions (platform : Platform) (history : List StoredTransaction) :
    List RecentTransaction :=
  (history.reverse.take 10).map fun tx =>
    { time := platform.formatMinutes tx.timestamp
      amount := roundTo 2 tx.amount
      merchant := tx.merchant
      category := tx.category
      location :=
        match tx.point with
        | none => "—"
        | some point =>
          platform.formatFixed 3 point.lat ++ "," ++ platform.formatFixed 3 point.lon }

namespace AnalystOrchestrator

variable {W : Type} (self : AnalystOrchestrator W)

/-- The feature vector and its rows, by the mode the request and the settings
select. -/
def buildInputs (store : ProfileStore) (tx : TransactionInput) : Py ScoringInputs := do
  let before ← store.history tx.ccNum.val
  let history90 ← filterPy (fun t => do
    let age ← (clock tx.timestamp).sub (clock t.timestamp)
    return DateTime.days age ≤ 90) before
  let baseline := metrics self.platform history90
  match tx.modelFeatures with
  | some features =>
    return {
      before
      featureMode := "basic"
      features
      featureRows := describeFeatures self.platform features baseline
      features16Rows := [] }
  | none =>
    if self.settings.useRichFeatures then
      let rich ← computeFeatures16 self.platform tx before baseline
      let features ← mapToModel self.platform rich tx before
      let rows := describeFeatures16 self.platform rich baseline
      return {
        before
        featureMode := "rich"
        features
        featureRows := rows
        features16Rows := rows }
    else
      let features ← buildFeatures self.platform tx before
      return {
        before
        featureMode := "basic"
        features
        featureRows := describeFeatures self.platform features baseline
        features16Rows := [] }

/-- The adjusted scores under a drift of the given kind. -/
def adjustedFor (store : ProfileStore) (customer : ℕ) (scores : ModelScores)
    (driftKind : Option String) : AdjustedScores :=
  let labels := store.feedbackForCustomer customer
  let feedback := feedbackAdjustment self.platform labels self.settings.trustBoostWindow
    self.settings.trustBoostFactor self.settings.heightenedAlertAdd
  let drift := driftAdjustment self.platform driftKind
    (store.recentBenign customer self.settings.trustBoostWindow)
    self.settings.gradualDriftFactor self.settings.suddenDriftFactor
  let combined := chain feedback drift
  { feedback
    drift
    fraud := clamp01 (scores.rawFraud + combined.fraudAdd)
    anomaly := clamp01 (scores.rawAnomaly * combined.anomalyFactor) }

def adjust (store : ProfileStore) (customer : ℕ) (scores : ModelScores) : Py AdjustedScores := do
  let report ← store.detectDrift self.platform customer
  return self.adjustedFor store customer scores (report.map DriftReport.kind)

def graphPayload (store : ProfileStore) (tx : TransactionInput) : GraphPayload where
  transactionId := tx.transactionId
  ccNum := tx.ccNum.val
  merchant := tx.merchant
  amount := tx.amount.val
  timestamp := clock tx.timestamp
  flagged := store.hasConfirmedFraud tx.ccNum.val

def fusionComponents (scores : ModelScores) (adjusted : AdjustedScores) (network : NetworkAxis) :
    List FusionComponent :=
  [ { component := "supervised"
      score := percent adjusted.fraud
      weight := 1 / 2
      available := scores.supAvailable },
    { component := "anomaly"
      score := percent adjusted.anomaly
      weight := 1 / 2
      available := scores.anomAvailable },
    { component := "network"
      score := percent network.risk
      weight := self.settings.networkFusionWeight
      available := network.available } ]

/-- The components, where none of the scores is too large to be rounded. -/
def checkedComponents (scores : ModelScores) (adjusted : AdjustedScores)
    (network : NetworkAxis) : Py (List FusionComponent) := do
  checkPercent adjusted.fraud
  checkPercent adjusted.anomaly
  checkPercent network.risk
  return self.fusionComponents scores adjusted network

/-- The four-quadrant refinement of the mapped decision: what would be blocked as
matching known fraud while it appears normal goes to a stealth review. -/
def refinedDecision (action : DecisionAction) (adjusted : AdjustedScores) : Decision :=
  let fraudHigh := self.settings.fraudQuadrantThreshold ≤ adjusted.fraud
  let anomalyLow := adjusted.anomaly < self.settings.anomalyQuadrantThreshold
  if mapDecision action = .block ∧ fraudHigh ∧ anomalyLow then .reviewStealth
  else mapDecision action

def storedTransaction (tx : TransactionInput) (decision : Decision) : StoredTransaction where
  transactionId := tx.transactionId
  ccNum := tx.ccNum.val
  amount := tx.amount.val
  merchant := tx.merchant.val
  category := tx.category
  timestamp := clock tx.timestamp
  location := tx.location
  merchantLocation := tx.merchantLocation
  decision

/-- The `ScoreResponse` constructor with its field checks. -/
def buildResponse (tx : TransactionInput) (inputs : ScoringInputs) (scores : ModelScores)
    (adjusted : AdjustedScores) (network : NetworkAxis) (fusion : FusionAnswer)
    (decision : DecisionAnswer) : Py ScoreResponse := do
  let docDecision := self.refinedDecision decision.action adjusted
  let contributors ← anomalyContributors inputs.features
  let fusedRiskScore ← validateScore "fused_risk_score" fusion.unified
  let fraudProbability ← UnitFloat.validate "fraud_probability" (roundTo 4 adjusted.fraud)
  let anomalyScore ← UnitFloat.validate "anomaly_score" (roundTo 4 adjusted.anomaly)
  let rawFraudProbability ←
    UnitFloat.validate "raw_fraud_probability" (roundTo 4 scores.rawFraud)
  let rawAnomalyScore ← UnitFloat.validate "raw_anomaly_score" (roundTo 4 scores.rawAnomaly)
  let networkRiskScore ← UnitFloat.validate "network_risk_score" (roundTo 4 network.risk)
  let networkFindings ← network.findings.mapM (Json.asText "network_findings")
  let networkEgo ← validateEgo network.ego
  return {
    transactionId := tx.transactionId
    ccNum := tx.ccNum.val
    decision := docDecision
    riskLevel := mapRiskLevel decision.tier
    verificationAction := verificationActionText docDecision decision.tier
    action := decision.action
    riskBand := decision.band
    riskTier := decision.tier
    fusedRiskScore
    fraudProbability
    anomalyScore
    rawFraudProbability
    rawAnomalyScore
    modelAvailable := scores.supAvailable && scores.anomAvailable
    featureMode := inputs.featureMode
    adjustments := adjustmentSummaries adjusted
    features := inputs.featureRows
    features16 := inputs.features16Rows
    anomalyTopContributors := contributors
    xgboostFeatureContributions := xgbContributions inputs.features adjusted.fraud
    recentTransactions := recentTransactions self.platform inputs.before
    networkRiskScore
    networkAvailable := network.available
    networkFindings
    networkEgo
    -- the fetched community is assigned to `_` in the source
    networkCommunity := none }

def alertItem (tx : TransactionInput) (response : ScoreResponse) : AlertItem where
  transactionId := tx.transactionId
  ccNum := tx.ccNum.val
  customerName := "Customer " ++ toString tx.ccNum.val
  amount := roundTo 2 tx.amount.val
  merchant := tx.merchant.val
  time := self.platform.isoformat (clock tx.timestamp)
  decision := response.decision
  riskLevel := response.riskLevel
  fraudProbability := response.fraudProbability
  anomalyScore := response.anomalyScore

end AnalystOrchestrator

namespace Pipeline

variable {W : Type}

def addTransaction (tx : StoredTransaction) (pipeline : Pipeline W) : Pipeline W :=
  { pipeline with store := pipeline.store.addTransaction tx }

def recordFeedback (verdict : StoredFeedback) (pipeline : Pipeline W) : Pipeline W :=
  { pipeline with store := pipeline.store.recordFeedback verdict }

/-- Retain the result for lookups, and queue an alert unless it passed. -/
def retain (response : ScoreResponse) (alert : AlertItem) (pipeline : Pipeline W) : Pipeline W :=
  { pipeline with
    scored :=
      Function.update pipeline.scored response.transactionId.val (some response)
    lookupByCustomer :=
      Function.update pipeline.lookupByCustomer response.ccNum
        (some response.transactionId.val)
    alerts :=
      if response.decision = .pass then pipeline.alerts else pipeline.alerts ++ [alert] }

/-- A client call, which can only change the world. -/
def call {α : Type} (x : Effect W α) : Effect (Pipeline W) α :=
  Effect.onPart Pipeline.world (fun world pipeline => { pipeline with world }) x

end Pipeline

namespace AnalystOrchestrator

open Pipeline

variable {W : Type} (self : AnalystOrchestrator W)

/-- The network axis: the graph answer as far as it can be read, and the
community fetched for an available one. -/
def scoreNetwork (payload : GraphPayload) : Effect (Pipeline W) NetworkAxis := do
  let graph ← Effect.attempt (call (self.client.graphScore payload))
  let network := readGraph self.platform graph
  if network.available then
    let _ ← Effect.attempt (call (self.client.graphCommunity payload.ccNum))
    return network
  else
    return network

/-- The calls of `score` on a transaction that is not retained yet. -/
def scoreFresh (tx : TransactionInput) : Effect (Pipeline W) ScoreResponse := do
  let pipeline ← get
  let inputs ← liftM (self.buildInputs pipeline.store tx)
  let supervised ← call (self.client.supervisedScore tx.transactionId inputs.features)
  let anomaly ← call (self.client.anomalyScore tx.transactionId inputs.features)
  let scores ← liftM (readModelScores self.platform supervised anomaly)
  let adjusted ← liftM (self.adjust pipeline.store tx.ccNum.val scores)
  let payload := graphPayload pipeline.store tx
  let network ← self.scoreNetwork payload
  let components ← liftM (self.checkedComponents scores adjusted network)
  let fusionObject ← call (self.client.fuseRisk tx.transactionId components)
  let fusion ← liftM (readFusion self.platform fusionObject)
  let decisionObject ← call (self.client.decide {
    transactionId := tx.transactionId
    riskScore := fusion.unified
    riskBand := fusion.band
    riskTier := fusion.tier
    paymentRail := .card })
  let decision ← liftM (readDecision decisionObject)
  modify (addTransaction
    (storedTransaction tx (self.refinedDecision decision.action adjusted)))
  let response ←
    liftM (self.buildResponse tx inputs scores adjusted network fusion decision)
  let _ ← Effect.attempt (call (self.client.graphObserve payload))
  modify (retain response (self.alertItem tx response))
  return response

/-- Idempotent by transaction id: a retained response is returned as it is. -/
def score (tx : TransactionInput) : Effect (Pipeline W) ScoreResponse := do
  let pipeline ← get
  match pipeline.scored tx.transactionId.val with
  | some response => return response
  | none => self.scoreFresh tx

/-- `"name:ok"` or `"name:unavailable"`. -/
def forwardStep (name : String) (answer : Py JsonObj) : String :=
  match answer with
  | .ok _ => name ++ ":ok"
  | .error _ => name ++ ":unavailable"

def storedFeedback (feedback : FeedbackInput) (received : DateTime) : StoredFeedback where
  transactionId := feedback.transactionId
  ccNum := feedback.ccNum.val
  analystDecision := feedback.analystDecision.val
  decision := feedback.decision
  notes := feedback.notes
  timestamp := received

def feedbackPayload (feedback : FeedbackInput) : FeedbackPayload where
  idempotencyKey := feedback.transactionId.val ++ ":" ++
    (toReviewLabel feedback.analystDecision.val).value
  transactionId := feedback.transactionId
  analystId := feedback.analystId
  label := toReviewLabel feedback.analystDecision.val
  reasonCodes := []
  decisionAction := feedback.decision.value

/-- Record a verdict locally and forward it, best-effort, to both services. -/
def submitFeedback (feedback : FeedbackInput) (received : DateTime) :
    Effect (Pipeline W) FeedbackResult := do
  modify (recordFeedback (storedFeedback feedback received))
  let loop ← Effect.attempt (call (self.client.appendFeedback (feedbackPayload feedback)))
  let monitor ← Effect.attempt (call (self.client.recordMonitorLabel feedback.transactionId
    (toReviewLabel feedback.analystDecision.val)))
  return {
    status := "recorded"
    transactionId := feedback.transactionId
    note := forwardStep "feedback_loop" loop ++ "; " ++ forwardStep "model_monitor" monitor }

/-- Recording a verdict never fails; the two forwards follow one another. -/
theorem exec_submitFeedback (feedback : FeedbackInput) (received : DateTime)
    (pipeline : Pipeline W) :
    Effect.exec (self.submitFeedback feedback received) pipeline =
      let loop := Effect.exec (self.client.appendFeedback (feedbackPayload feedback))
        pipeline.world
      let monitor := Effect.exec (self.client.recordMonitorLabel feedback.transactionId
        (toReviewLabel feedback.analystDecision.val)) loop.2
      (.ok {
          status := "recorded"
          transactionId := feedback.transactionId
          note := forwardStep "feedback_loop" loop.1 ++ "; " ++
            forwardStep "model_monitor" monitor.1 },
        { pipeline with
          store := pipeline.store.recordFeedback (storedFeedback feedback received)
          world := monitor.2 }) := rfl

end AnalystOrchestrator

end VeriPay.AnalystApi
