import VeriPay.AnalystApi.Scoring
import VeriPay.DecisionEngine.DefaultCosts
import VeriPay.RiskFusion.Service

/-!
The orchestrator against the real risk fusion and decision services: the JSON
bodies their endpoints accept and answer, and the action such a pair of calls
comes to. A body the models reject is a 422 answer, which the HTTP client raises.
-/

namespace VeriPay.AnalystApi

open Lib Common

/-- Validation of one component of a fusion request. -/
def toRiskComponent (component : FusionComponent) : Py RiskFusion.RiskComponent :=
  if h : component.component ≠ "" ∧ (0 ≤ (component.score : ℚ) ∧ (component.score : ℚ) ≤ 100) ∧
      0 < component.weight ∧ component.weight ≤ 1 then
    .ok
      { component := ⟨component.component, h.1⟩
        score := component.score
        weight := component.weight
        available := component.available
        score_bounds := h.2.1
        weight_bounds := h.2.2 }
  else .error httpError

def riskComponentJson (component : RiskFusion.RiskComponent) : Json :=
  .obj [("component", .str component.component.val), ("score", .float component.score),
    ("weight", .float component.weight), ("available", .bool component.available),
    ("reason_code", (component.reasonCode.map Json.str).getD .null)]

def fusionJson (response : RiskFusion.FusionResponse) : JsonObj :=
  [("transaction_id", .str response.transactionId.val),
    ("unified_score", .int response.unifiedScore.val),
    ("band", .str response.band.value), ("tier", .str response.tier.value),
    ("components", .arr (response.components.map riskComponentJson))]

/-- `POST /api/v1/risk/fuse`. -/
def fuseEndpoint (transactionId : NonEmptyStr) (components : List FusionComponent) :
    Py JsonObj := do
  let parsed ← components.mapM toRiskComponent
  if h : parsed ≠ [] then
    return fusionJson (RiskFusion.fuseRisk { transactionId, components := parsed, nonempty := h })
  else throw httpError

/-- The fields of a decision the orchestrator reads. -/
def decisionJson (response : DecisionEngine.DecisionResponse) : JsonObj :=
  [("transaction_id", .str response.transactionId.val), ("action", .str response.action.value),
    ("risk_score", .int response.riskScore.val), ("risk_band", .str response.riskBand.value),
    ("risk_tier", .str response.riskTier.value)]

/-- `POST /api/v1/decision/evaluate`. -/
def decideEndpoint (uuid : String) (payload : DecidePayload) : Py JsonObj :=
  if h : 0 ≤ payload.riskScore ∧ payload.riskScore ≤ 100 then
    let request := DecisionEngine.DecisionPayload.deriveOperationalFields
      { transactionId := payload.transactionId
        riskScore := ⟨payload.riskScore.toNat, toNat_le_hundred h⟩
        riskBand := some payload.riskBand
        riskTier := some payload.riskTier
        paymentRail := some payload.paymentRail }
    .ok (decisionJson (request.decide uuid))
  else .error httpError

/-- The client whose fusion and decision calls reach the real services. -/
def PipelineClient.withEngines {W : Type} (client : PipelineClient W) (uuid : String) :
    PipelineClient W :=
  { client with
    fuseRisk := fun transactionId components => liftM (fuseEndpoint transactionId components)
    decide := fun payload => liftM (decideEndpoint uuid payload) }

theorem toEnum_band (band : RiskBand) :
    (Json.str band.value).toEnum allRiskBands RiskBand.value = .ok band := by
  cases band <;> rfl

theorem toEnum_tier (tier : RiskTier) :
    (Json.str tier.value).toEnum allRiskTiers RiskTier.value = .ok tier := by
  cases tier <;> rfl

theorem toEnum_action (action : DecisionAction) :
    (Json.str action.value).toEnum allDecisionActions DecisionAction.value = .ok action := by
  cases action <;> rfl

/-- What the orchestrator reads out of a fusion answer is what was answered. -/
theorem readFusion_fusionJson (platform : Platform) (response : RiskFusion.FusionResponse) :
    readFusion platform (fusionJson response) =
      .ok ⟨response.unifiedScore.val, response.band, response.tier⟩ := by
  simp [readFusion, fusionJson, JsonObj.item, Json.toInt, toEnum_band, toEnum_tier]

theorem readDecision_decisionJson (response : DecisionEngine.DecisionResponse) :
    readDecision (decisionJson response) =
      .ok ⟨response.action, response.riskTier, response.riskBand⟩ := by
  simp [readDecision, decisionJson, JsonObj.item, toEnum_band, toEnum_tier, toEnum_action]

theorem percent_cast_bounds {q : ℚ} (h : 0 ≤ q ∧ q ≤ 1) :
    0 ≤ (percent q : ℚ) ∧ (percent q : ℚ) ≤ 100 := by
  have hbounds := percent_bounds h
  exact ⟨by exact_mod_cast hbounds.1, by exact_mod_cast hbounds.2⟩

namespace AnalystOrchestrator

variable {W : Type} (analyst : AnalystOrchestrator W)

/-- Scores and a weight that `fuse_risk` accepts on all three axes. -/
structure AxesInRange (adjusted : AdjustedScores) (network : NetworkAxis) : Prop where
  fraud_bounds : 0 ≤ adjusted.fraud ∧ adjusted.fraud ≤ 1
  anomaly_bounds : 0 ≤ adjusted.anomaly ∧ adjusted.anomaly ≤ 1
  risk_bounds : 0 ≤ network.risk ∧ network.risk ≤ 1
  weight_bounds : 0 < analyst.settings.networkFusionWeight ∧
    analyst.settings.networkFusionWeight ≤ 1

/-- The three components as the fusion service holds them. -/
def riskComponents (scores : ModelScores) {adjusted : AdjustedScores} {network : NetworkAxis}
    (h : analyst.AxesInRange adjusted network) : List RiskFusion.RiskComponent :=
  [ { component := ⟨"supervised", by decide⟩
      score := percent adjusted.fraud
      weight := 1 / 2
      available := scores.supAvailable
      score_bounds := percent_cast_bounds h.fraud_bounds
      weight_bounds := by norm_num },
    { component := ⟨"anomaly", by decide⟩
      score := percent adjusted.anomaly
      weight := 1 / 2
      available := scores.anomAvailable
      score_bounds := percent_cast_bounds h.anomaly_bounds
      weight_bounds := by norm_num },
    { component := ⟨"network", by decide⟩
      score := percent network.risk
      weight := analyst.settings.networkFusionWeight
      available := network.available
      score_bounds := percent_cast_bounds h.risk_bounds
      weight_bounds := h.weight_bounds } ]

theorem parse_fusionComponents (scores : ModelScores) {adjusted : AdjustedScores}
    {network : NetworkAxis} (h : analyst.AxesInRange adjusted network) :
    (analyst.fusionComponents scores adjusted network).mapM toRiskComponent =
      .ok (analyst.riskComponents scores h) := by
  have hfraud := percent_cast_bounds h.fraud_bounds
  have hanomaly := percent_cast_bounds h.anomaly_bounds
  have hrisk := percent_cast_bounds h.risk_bounds
  have hhalf : (0 : ℚ) < 1 / 2 ∧ (1 / 2 : ℚ) ≤ 1 := by norm_num
  have hnames : "supervised" ≠ "" ∧ "anomaly" ≠ "" ∧ "network" ≠ "" := by decide
  simp only [fusionComponents, List.mapM_cons, List.mapM_nil]
  rw [toRiskComponent, dif_pos ⟨hnames.1, hfraud, hhalf⟩, toRiskComponent,
    dif_pos ⟨hnames.2.1, hanomaly, hhalf⟩, toRiskComponent,
    dif_pos ⟨hnames.2.2, hrisk, h.weight_bounds⟩]
  rfl

theorem riskComponents_ne_nil (scores : ModelScores) {adjusted : AdjustedScores}
    {network : NetworkAxis} (h : analyst.AxesInRange adjusted network) :
    analyst.riskComponents scores h ≠ [] := List.cons_ne_nil _ _

/-- The unified score of the three axes. -/
def fusedScore (scores : ModelScores) {adjusted : AdjustedScores} {network : NetworkAxis}
    (h : analyst.AxesInRange adjusted network) : RiskScore :=
  RiskFusion.checkedScore (analyst.riskComponents scores h)

theorem fusedScore_congr {scores scores' : ModelScores} {adjusted adjusted' : AdjustedScores}
    {network network' : NetworkAxis} (hscores : scores = scores')
    (hadjusted : adjusted = adjusted') (hnetwork : network = network')
    (h : analyst.AxesInRange adjusted network) (h' : analyst.AxesInRange adjusted' network') :
    analyst.fusedScore scores h = analyst.fusedScore scores' h' := by
  subst hscores hadjusted hnetwork
  rfl

/-- No axis lower, no fused score lower. -/
theorem fusedScore_mono (scores : ModelScores) {adjusted adjusted' : AdjustedScores}
    {network : NetworkAxis} (h : analyst.AxesInRange adjusted network)
    (h' : analyst.AxesInRange adjusted' network) (hfraud : adjusted.fraud ≤ adjusted'.fraud)
    (hanomaly : adjusted.anomaly ≤ adjusted'.anomaly) :
    (analyst.fusedScore scores h).val ≤ (analyst.fusedScore scores h').val := by
  have hfraudPercent := Int.cast_le (R := ℚ) |>.mpr (percent_mono hfraud)
  have hanomalyPercent := Int.cast_le (R := ℚ) |>.mpr (percent_mono hanomaly)
  have hraised : List.Forall₂ RiskFusion.RiskComponent.Raised
      (analyst.riskComponents scores h) (analyst.riskComponents scores h') :=
    .cons ⟨rfl, rfl, hfraudPercent⟩
      (.cons ⟨rfl, rfl, hanomalyPercent⟩ (.cons ⟨rfl, rfl, le_rfl⟩ .nil))
  have hmono := RiskFusion.unifiedScore_mono hraised
  rw [← RiskFusion.checkedScore_cast, ← RiskFusion.checkedScore_cast] at hmono
  exact_mod_cast hmono

theorem fuseEndpoint_eq (transactionId : NonEmptyStr) (scores : ModelScores)
    {adjusted : AdjustedScores} {network : NetworkAxis}
    (h : analyst.AxesInRange adjusted network) :
    fuseEndpoint transactionId (analyst.fusionComponents scores adjusted network) =
      .ok (fusionJson (RiskFusion.fuseRisk
        { transactionId
          components := analyst.riskComponents scores h
          nonempty := analyst.riskComponents_ne_nil scores h })) := by
  rw [fuseEndpoint, analyst.parse_fusionComponents scores h, Py.ok_bind,
    dif_pos (analyst.riskComponents_ne_nil scores h)]
  rfl

theorem decideEndpoint_eq (uuid : String) (transactionId : NonEmptyStr) (score : RiskScore) :
    decideEndpoint uuid
        { transactionId
          riskScore := score.val
          riskBand := bandForTier (classifyScore (score.val : ℚ))
          riskTier := classifyScore (score.val : ℚ)
          paymentRail := .card } =
      .ok (decisionJson
        ((DecisionEngine.pipelineRequest transactionId score .card).decide uuid)) := by
  have hrange : 0 ≤ (score.val : ℤ) ∧ (score.val : ℤ) ≤ 100 := by
    have hscore := score.property
    omega
  rw [decideEndpoint, dif_pos hrange]
  rfl

variable {client : PipelineClient W} {uuid : String}

/-- The real engines answer every in-range score. -/
theorem enginesSucceed (hclient : analyst.client = client.withEngines uuid)
    (hweight : 0 < analyst.settings.networkFusionWeight ∧
      analyst.settings.networkFusionWeight ≤ 1) : analyst.EnginesSucceed where
  fusion := by
    intro id scores adjusted network w hfraud hanomaly hnetwork
    have haxes : analyst.AxesInRange adjusted network :=
      ⟨hfraud, hanomaly, hnetwork.risk_bounds, hweight⟩
    have hscore : ((analyst.fusedScore scores haxes).val : ℤ) ≤ 100 := by
      exact_mod_cast (analyst.fusedScore scores haxes).property
    rw [hclient]
    exact ⟨_, _, analyst.fuseEndpoint_eq id scores haxes, readFusion_fusionJson _ _,
      Int.natCast_nonneg _, hscore⟩
  decision := by
    intro payload w hscore
    rw [hclient]
    have hanswer : decideEndpoint uuid payload = .ok (decisionJson _) := dif_pos hscore
    exact ⟨_, _, hanswer, readDecision_decisionJson _⟩

/-- With the real engines a score decides by the tier of the fused score. -/
theorem ScoreRun.action_eq {analyst : AnalystOrchestrator W}
    (hclient : analyst.client = client.withEngines uuid) {pipeline : Pipeline W}
    {tx : TransactionInput} (run : analyst.ScoreRun pipeline tx)
    (haxes : analyst.AxesInRange run.adjusted run.network) :
    run.decision.action = DecisionEngine.actionForTier
      (classifyScore ((analyst.fusedScore run.scores haxes).val : ℚ)) := by
  have hfusionCall := run.fusion_call
  have hfusion := run.fusion_eq
  have hdecisionCall := run.decision_call
  have hdecision := run.decision_eq
  rw [hclient] at hfusionCall hdecisionCall
  have hobject : fuseEndpoint tx.transactionId
      (analyst.fusionComponents run.scores run.adjusted run.network) = .ok run.fusionObject :=
    congrArg Prod.fst hfusionCall
  rw [analyst.fuseEndpoint_eq tx.transactionId run.scores haxes] at hobject
  rw [← Except.ok.inj hobject, readFusion_fusionJson] at hfusion
  rw [← Except.ok.inj hfusion] at hdecisionCall
  have hanswer := (decideEndpoint_eq uuid tx.transactionId
    (analyst.fusedScore run.scores haxes)).symm.trans (congrArg Prod.fst hdecisionCall)
  rw [← Except.ok.inj hanswer, readDecision_decisionJson] at hdecision
  rw [← Except.ok.inj hdecision]
  exact DecisionEngine.decide_pipelineRequest tx.transactionId _ .card uuid

end AnalystOrchestrator

end VeriPay.AnalystApi
