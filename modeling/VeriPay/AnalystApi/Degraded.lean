import VeriPay.AnalystApi.Bookkeeping
import VeriPay.AnalystApi.Clocks
import VeriPay.AnalystApi.Engines
import VeriPay.AnalystApi.ExplainFlags
import VeriPay.AnomalyModel.Service
import VeriPay.DecisionEngine.TierRouting
import VeriPay.SupervisedModel.Service

/-!
The pipeline over the real model services when neither has an artifact. Both then answer with a
fallback that is not fused: the network axis decides alone, and where it is missing too, every
transaction is declined.
-/

namespace VeriPay.AnalystApi

open Lib Common

def supervisedJson (response : SupervisedModel.ScoreResponse) : JsonObj :=
  [("transaction_id", .str response.transactionId),
    ("fraud_probability", .float response.fraudProbability.val),
    ("risk_score", .int response.riskScore.val), ("model_name", .str response.modelName),
    ("model_version", .str response.modelVersion),
    ("model_available", .bool response.modelAvailable), ("fallback", .bool response.fallback)]

def anomalyJson (response : AnomalyModel.AnomalyResponse) : JsonObj :=
  [("transaction_id", .str response.transactionId),
    ("anomaly_score", .float response.anomalyScore.val),
    ("risk_score", .int response.riskScore.val), ("is_anomaly", .bool response.isAnomaly),
    ("model_name", .str response.modelName), ("model_version", .str response.modelVersion),
    ("model_available", .bool response.modelAvailable), ("fallback", .bool response.fallback)]

/-- An exception in the service is a 500 answer, which the HTTP client raises. -/
def served {α : Type} (toJson : α → JsonObj) : Py α → Py JsonObj
  | .ok response => .ok (toJson response)
  | .error _ => .error httpError

/-- The client whose scoring calls reach the real model services. -/
def PipelineClient.withModels {W : Type} (client : PipelineClient W)
    (supervised : Option SupervisedModel.ModelBundle) (exp : ℚ → Py ℚ)
    (anomaly : Option AnomalyModel.ModelBundle) : PipelineClient W :=
  { client with
    supervisedScore := fun transactionId features => liftM
      (served supervisedJson (SupervisedModel.evaluate supervised { transactionId, features }))
    anomalyScore := fun transactionId features => liftM
      (served anomalyJson (AnomalyModel.evaluate exp anomaly { transactionId, features })) }

/-- Real model, fusion and decision services, and no artifact. -/
def PipelineClient.withoutModels {W : Type} (client : PipelineClient W) (exp : ℚ → Py ℚ)
    (uuid : String) : PipelineClient W :=
  (client.withModels none exp none).withEngines uuid

section Fallbacks

/-- The heuristic as a probability. -/
def heuristicProbability (features : Features) : ℚ :=
  roundTo 4 (((SupervisedModel.heuristicRisk features).val : ℚ) / 100)

theorem heuristicProbability_unit (features : Features) :
    0 ≤ heuristicProbability features ∧ heuristicProbability features ≤ 1 := by
  have hhigh : ((SupervisedModel.heuristicRisk features).val : ℚ) ≤ 100 := by
    exact_mod_cast (SupervisedModel.heuristicRisk features).property
  have hlow : (0 : ℚ) ≤ (SupervisedModel.heuristicRisk features).val := Nat.cast_nonneg _
  exact ⟨roundTo_nonneg 4 (by linarith), roundTo_le_one 4 (by linarith)⟩

theorem evaluate_none (transactionId : NonEmptyStr) (features : Features) :
    ∃ response, SupervisedModel.evaluate none { transactionId, features } = .ok response ∧
      response.fraudProbability.val = heuristicProbability features ∧
      response.modelAvailable = false := by
  have hunit : UnitFloat.validate "fraud_probability"
      (roundTo 4 (((SupervisedModel.heuristicRisk features).val : ℚ) / 100)) =
        .ok ⟨heuristicProbability features, heuristicProbability_unit features⟩ :=
    unitFloat_validate_ok (heuristicProbability_unit features)
  rw [SupervisedModel.evaluate]
  dsimp only
  rw [hunit]
  exact ⟨_, rfl, rfl, rfl⟩

/-- What the orchestrator reads out of the two fallbacks. -/
theorem readModelScores_fallbacks (platform : Platform) (exp : ℚ → Py ℚ)
    (transactionId : NonEmptyStr) (features : Features) {supervised anomaly : JsonObj}
    (hsupervised : served supervisedJson (SupervisedModel.evaluate none
      { transactionId, features }) = .ok supervised)
    (hanomaly : served anomalyJson (AnomalyModel.evaluate exp none
      { transactionId, features }) = .ok anomaly) :
    readModelScores platform supervised anomaly = .ok {
      rawFraud := heuristicProbability features
      rawAnomaly := 0
      supAvailable := false
      anomAvailable := false } := by
  obtain ⟨response, hresponse, hfraud, havailable⟩ := evaluate_none transactionId features
  rw [hresponse] at hsupervised
  rw [← Except.ok.inj hsupervised, ← Except.ok.inj hanomaly, ← hfraud]
  simp [readModelScores, supervisedJson, anomalyJson, JsonObj.getD, Json.toFloat, Json.truthy,
    havailable]

end Fallbacks

section Fusion

/-- The score of the network axis alone, or 100 without it. -/
def networkOnly (network : NetworkAxis) : ℤ :=
  if network.available then percent network.risk else 100

theorem of_toRiskComponent_ok {component : FusionComponent} {parsed : RiskFusion.RiskComponent}
    (h : toRiskComponent component = .ok parsed) :
    parsed.score = component.score ∧ parsed.available = component.available := by
  unfold toRiskComponent at h
  split_ifs at h
  cases h
  exact ⟨rfl, rfl⟩

theorem weightedMean_singleton {value weight : ℚ} (h : weight ≠ 0) :
    weightedMean [(value, weight)] = value := by
  simp [weightedMean, weightedSum, totalWeight, h]

/-- Without the models, fusion is left with the network axis. -/
theorem unifiedScore_networkOnly {supervised anomaly axis : RiskFusion.RiskComponent}
    {network : NetworkAxis} (hsupervised : supervised.available = false)
    (hanomaly : anomaly.available = false) (haxis : axis.available = network.available)
    (hscore : axis.score = percent network.risk) :
    RiskFusion.unifiedScore [supervised, anomaly, axis] = networkOnly network := by
  unfold RiskFusion.unifiedScore RiskFusion.availableScores networkOnly
  cases havailable : network.available with
  | true =>
    rw [havailable] at haxis
    simp [hsupervised, hanomaly, haxis, weightedMean_singleton axis.weight_bounds.1.ne', hscore]
  | false =>
    rw [havailable] at haxis
    simp [hsupervised, hanomaly, haxis]

variable {W : Type} {analyst : AnalystOrchestrator W} {scores : ModelScores}
  {adjusted : AdjustedScores} {network : NetworkAxis}

variable (analyst) in
theorem fuseEndpoint_networkOnly {transactionId : NonEmptyStr} {answer : JsonObj}
    (hsupervised : scores.supAvailable = false) (hanomaly : scores.anomAvailable = false)
    (h : fuseEndpoint transactionId (analyst.fusionComponents scores adjusted network) =
      .ok answer) :
    ∃ score : RiskScore, (score.val : ℤ) = networkOnly network ∧
      readFusion analyst.platform answer =
        .ok ⟨score.val, bandForTier (classifyScore score.val), classifyScore score.val⟩ := by
  obtain ⟨parsed, hparsed, h⟩ := Py.bind_eq_ok.mp h
  simp only [AnalystOrchestrator.fusionComponents, List.mapM_cons, List.mapM_nil, Py.bind_eq_ok]
    at hparsed
  obtain ⟨first, hfirst, rest, ⟨second, hsecond, rest', ⟨third, hthird, rest'', hnil, hrest'⟩,
    hrest⟩, hlist⟩ := hparsed
  cases hnil
  cases hrest'
  cases hrest
  cases hlist
  rw [dif_pos (List.cons_ne_nil _ _)] at h
  obtain ⟨hscore, haxis⟩ := of_toRiskComponent_ok hthird
  have hunified := unifiedScore_networkOnly
    ((of_toRiskComponent_ok hfirst).2.trans hsupervised)
    ((of_toRiskComponent_ok hsecond).2.trans hanomaly) haxis hscore
  refine ⟨RiskFusion.checkedScore [first, second, third], ?_, ?_⟩
  · rw [RiskFusion.checkedScore_cast, hunified]
  · rw [← Except.ok.inj h, readFusion_fusionJson]
    rfl

end Fusion

/-- A score without the models: the network axis is the fused score, or 100 stands for it, and the
tier of that decides. Without the network the transaction is blocked, or held for a stealth
review. -/
structure Degraded (response : ScoreResponse) : Prop where
  unavailable : response.modelAvailable = false
  anomaly : response.anomalyScore.val = 0
  fused : ∃ risk, response.networkRiskScore.val = roundTo 4 risk ∧
    (response.fusedRiskScore.val : ℤ) = if response.networkAvailable then percent risk else 100
  tier : response.riskTier = classifyScore (response.fusedRiskScore.val : ℚ)
  action : response.action = DecisionEngine.actionForTier response.riskTier
  closed : response.networkAvailable = false →
    response.decision = .block ∨ response.decision = .reviewStealth

section Runs

variable {W : Type} {analyst : AnalystOrchestrator W} {client : PipelineClient W}
  {exp : ℚ → Py ℚ} {uuid : String} {pipeline : Pipeline W} {tx : TransactionInput}

/-- The verdict and the flags of a response are those it was built from. -/
theorem buildResponse_verdict {inputs : ScoringInputs} {scores : ModelScores}
    {adjusted : AdjustedScores} {network : NetworkAxis} {fusion : FusionAnswer}
    {decision : DecisionAnswer} {response : ScoreResponse}
    (h : analyst.buildResponse tx inputs scores adjusted network fusion decision =
      .ok response) :
    response.action = decision.action ∧ response.riskTier = decision.tier ∧
      response.modelAvailable = (scores.supAvailable && scores.anomAvailable) ∧
      response.networkAvailable = network.available := by
  simp only [AnalystOrchestrator.buildResponse, Py.bind_eq_ok] at h
  obtain ⟨_, _, _, _, _, _, _, _, _, _, _, _, _, _, _, _, _, _, h⟩ := h
  cases h
  exact ⟨rfl, rfl, rfl, rfl⟩

theorem refinedDecision_decline (adjusted : AdjustedScores) :
    analyst.refinedDecision .decline adjusted = .block ∨
      analyst.refinedDecision .decline adjusted = .reviewStealth := by
  simp only [AnalystOrchestrator.refinedDecision]
  split_ifs
  · exact Or.inr rfl
  · exact Or.inl rfl

/-- The engine answers with the tier it is sent, and decides by it. -/
theorem readDecision_of_score {transactionId : NonEmptyStr} {score : RiskScore}
    {decisionObject : JsonObj} {decision : DecisionAnswer}
    (hcall : decideEndpoint uuid
        { transactionId
          riskScore := score.val
          riskBand := bandForTier (classifyScore (score.val : ℚ))
          riskTier := classifyScore (score.val : ℚ)
          paymentRail := .card } = .ok decisionObject)
    (hread : readDecision decisionObject = .ok decision) :
    decision.tier = classifyScore (score.val : ℚ) ∧
      decision.action = DecisionEngine.actionForTier (classifyScore (score.val : ℚ)) := by
  rw [AnalystOrchestrator.decideEndpoint_eq] at hcall
  rw [← Except.ok.inj hcall, readDecision_decisionJson] at hread
  rw [← Except.ok.inj hread]
  refine ⟨?_, DecisionEngine.decide_pipelineRequest transactionId score .card uuid⟩
  obtain ⟨mode, job, hdecide⟩ := DecisionEngine.DecisionRequest.decide_of_reaches uuid
    (DecisionEngine.pipelineRequest transactionId score .card)
    (DecisionEngine.pipelineRequest_reaches transactionId score .card)
  show ((DecisionEngine.pipelineRequest transactionId score .card).decide uuid).riskTier = _
  rw [hdecide]
  exact DecisionEngine.pipelineRequest_tier transactionId score .card

/-- An anomaly of zero is adjusted to zero. -/
theorem AnalystOrchestrator.ScoreRun.anomaly_zero (run : analyst.ScoreRun pipeline tx)
    (hraw : run.scores.rawAnomaly = 0) : run.adjusted.anomaly = 0 := by
  obtain ⟨report, hreport, hadjusted⟩ := Py.bind_eq_ok.mp run.adjusted_eq
  rw [← Except.ok.inj hadjusted, adjustedFor_anomaly, hraw, scaledAnomaly, zero_mul]
  decide +kernel

theorem AnalystOrchestrator.ScoreRun.degraded
    (hclient : analyst.client = client.withoutModels exp uuid)
    (run : analyst.ScoreRun pipeline tx) : Degraded run.response := by
  have hsupervised := congrArg Prod.fst run.supervised_eq
  have hanomaly := congrArg Prod.fst run.anomaly_eq
  have hfusionCall := congrArg Prod.fst run.fusion_call
  have hdecisionCall := congrArg Prod.fst run.decision_call
  rw [hclient] at hsupervised hanomaly hfusionCall hdecisionCall
  have hread := run.scores_eq
  rw [readModelScores_fallbacks analyst.platform exp tx.transactionId run.inputs.features
    hsupervised hanomaly] at hread
  have hscores := Except.ok.inj hread
  obtain ⟨score, hscore, hfusion⟩ := fuseEndpoint_networkOnly analyst
    (by rw [← hscores]) (by rw [← hscores]) hfusionCall
  have hfusionEq := Except.ok.inj (run.fusion_eq.symm.trans hfusion)
  rw [hfusionEq] at hdecisionCall
  obtain ⟨htier, haction⟩ := readDecision_of_score hdecisionCall run.decision_eq
  obtain ⟨hresponseAction, hresponseTier, hmodel, hnetwork⟩ :=
    buildResponse_verdict run.response_eq
  have hfigures := analyst.buildResponse_figures run.response_eq
  have hfused : run.response.fusedRiskScore.val = score.val := by
    have hunified := hfigures.unified
    rw [hfusionEq] at hunified
    exact Int.ofNat.inj hunified
  constructor
  · rw [hmodel, ← hscores]
    rfl
  · rw [hfigures.anomaly, run.anomaly_zero (by rw [← hscores])]
    exact_mod_cast roundTo_intCast 4 0
  · refine ⟨run.network.risk, hfigures.risk, ?_⟩
    rw [hfused, hscore, hnetwork]
    rfl
  · rw [hresponseTier, htier, hfused]
  · rw [hresponseAction, haction, hresponseTier, htier]
  · intro hmissing
    rw [hnetwork] at hmissing
    rw [networkOnly, hmissing] at hscore
    have hhundred : score.val = 100 := Int.ofNat.inj hscore
    have hdecline : run.decision.action = .decline := by
      rw [haction, hhundred]
      decide +kernel
    rw [(analyst.buildResponse_fields run.response_eq).2.2, hdecline]
    exact refinedDecision_decline run.adjusted

/-- Without the models every score that is answered is degraded, at any point of any run. -/
theorem run_degraded (analyst : AnalystOrchestrator W) (client : PipelineClient W)
    (exp : ℚ → Py ℚ) (uuid : String) (hclient : analyst.client = client.withoutModels exp uuid)
    (world : W) (calls : List PipelineCall) (tx : TransactionInput) (response : ScoreResponse)
    (h : (Effect.exec (analyst.score tx) ((pipelineMachine analyst).run { world } calls)).1 =
      .ok response) : Degraded response := by
  obtain ⟨earlier, -, tx', run, rfl⟩ := score_scoredAlong h
  exact run.degraded hclient

/-- The fallbacks and the real engines answer in range. -/
theorem clientAnswers_withoutModels (hclient : analyst.client = client.withoutModels exp uuid)
    (hweight : 0 < analyst.settings.networkFusionWeight ∧
      analyst.settings.networkFusionWeight ≤ 1)
    (hgraph : ∀ payload w, ∃ answer, (Effect.exec (client.graphScore payload) w).1 = .ok answer ∧
      (readGraph analyst.platform (.ok answer)).InRange) : ClientAnswers analyst where
  supervised := by
    intro id features w
    obtain ⟨response, hresponse, -⟩ := evaluate_none id features
    refine ⟨supervisedJson response, ?_, response.fraudProbability.val, rfl,
      response.fraudProbability.property⟩
    rw [hclient]
    show served supervisedJson _ = _
    rw [hresponse]
    rfl
  anomaly := by
    intro id features w
    rw [hclient]
    exact ⟨_, rfl, 0, rfl, le_rfl, zero_le_one⟩
  graph := by
    rw [hclient]
    exact hgraph
  engines := analyst.enginesSucceed hclient hweight

end Runs

/-- No models and a graph engine that answers nothing of use. -/
def modelless : AnalystOrchestrator Unit where
  client := (answeringClient [] [] []).withoutModels (fun _ => .ok 1) ""
  platform := .atNoon

theorem modelless_scores : ∃ response,
    (Effect.exec (modelless.score noonTx) ((pipelineMachine modelless).run { world := () } [])).1 =
      .ok response := by
  have hanswers : ClientAnswers modelless := clientAnswers_withoutModels rfl
    ⟨by decide +kernel, by decide +kernel⟩ fun _ _ => ⟨[], rfl, ⟨le_rfl, zero_le_one⟩,
      by simp [readGraph, JsonObj.getD, Json.toFloat, Json.toList], none, rfl⟩
  rw [score_returns_of_fresh_iff hanswers rfl]
  have hprecheck : modelless.precheck {} noonTx = .ok none :=
    modelless.precheck_of_no_history rfl rfl
  obtain ⟨inputs, hinputs, hdrift⟩ := Py.bind_eq_ok.mp hprecheck
  exact ⟨⟨inputs, hinputs⟩, none, hdrift⟩

/-- The transaction at noon is scored, and the score is degraded. -/
theorem run_degraded_noon : ∃ response,
    (Effect.exec (modelless.score noonTx) ((pipelineMachine modelless).run { world := () } [])).1 =
      .ok response ∧ Degraded response := by
  obtain ⟨response, hresponse⟩ := modelless_scores
  exact ⟨response, hresponse, run_degraded modelless (answeringClient [] [] []) (fun _ => .ok 1) ""
    rfl () [] noonTx response hresponse⟩

end VeriPay.AnalystApi
