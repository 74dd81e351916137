import VeriPay.AnalystApi.Service

/-!
What a score does. A well-typed, in-range set of answers always makes a response;
so past the feature builder and the drift check a score under such answers runs
to its end, and its effects can be read off.
-/

namespace VeriPay.AnalystApi

open Lib Common

/-- The answer carries a number between 0 and 1 under the key. -/
def JsonInUnit (platform : Platform) (answer : JsonObj) (key : String) : Prop :=
  ∃ q, (answer.getD key (.float 0)).toFloat platform.parseFloat = .ok q ∧ 0 ≤ q ∧ q ≤ 1

/-- A network axis the response model accepts. -/
structure NetworkAxis.InRange (network : NetworkAxis) : Prop where
  risk_bounds : 0 ≤ network.risk ∧ network.risk ≤ 1
  findings_texts : ∀ finding ∈ network.findings, ∃ text, finding = .str text
  ego_object : ∃ ego, validateEgo network.ego = .ok ego

structure ModelScores.InRange (scores : ModelScores) : Prop where
  fraud_bounds : 0 ≤ scores.rawFraud ∧ scores.rawFraud ≤ 1
  anomaly_bounds : 0 ≤ scores.rawAnomaly ∧ scores.rawAnomaly ≤ 1

theorem readModelScores_inRange {platform : Platform} {supervised anomaly : JsonObj}
    (hfraud : JsonInUnit platform supervised "fraud_probability")
    (hanomaly : JsonInUnit platform anomaly "anomaly_score") :
    ∃ scores, readModelScores platform supervised anomaly = .ok scores ∧ scores.InRange := by
  obtain ⟨fraud, hfraud, hfraudBounds⟩ := hfraud
  obtain ⟨score, hscore, hscoreBounds⟩ := hanomaly
  rw [readModelScores, hfraud, Py.ok_bind, hscore, Py.ok_bind]
  exact ⟨_, rfl, ⟨hfraudBounds, hscoreBounds⟩⟩

theorem unitFloat_validate_ok {field : String} {q : ℚ} (h : 0 ≤ q ∧ q ≤ 1) :
    UnitFloat.validate field q = .ok ⟨q, h⟩ := dif_pos h

theorem unit_of_validate_ok {field : String} {q : ℚ} {checked : UnitFloat}
    (h : UnitFloat.validate field q = .ok checked) : 0 ≤ q ∧ q ≤ 1 := by
  unfold UnitFloat.validate at h
  split_ifs at h with hunit
  exact hunit

theorem score_of_validate_ok {field : String} {n : ℤ} {checked : RiskScore}
    (h : validateScore field n = .ok checked) : 0 ≤ n ∧ n ≤ 100 := by
  unfold validateScore at h
  split_ifs at h with hscore
  exact hscore

theorem val_of_validate_ok {field : String} {q : ℚ} {checked : UnitFloat}
    (h : UnitFloat.validate field q = .ok checked) : checked.val = q := by
  unfold UnitFloat.validate at h
  split_ifs at h
  cases h
  rfl

theorem val_of_validateScore_ok {field : String} {n : ℤ} {checked : RiskScore}
    (h : validateScore field n = .ok checked) : (checked.val : ℤ) = n := by
  unfold validateScore at h
  split_ifs at h with hscore
  cases h
  exact Int.toNat_of_nonneg hscore.1

theorem texts_of_mapM_asText_ok {field : String} {items : List Json} {texts : List String}
    (h : items.mapM (Json.asText field) = .ok texts) : items = texts.map Json.str := by
  induction items generalizing texts with
  | nil =>
    cases h
    rfl
  | cons item rest ih =>
    rw [List.mapM_cons] at h
    obtain ⟨text, htext, h⟩ := Py.bind_eq_ok.mp h
    obtain ⟨others, hothers, h⟩ := Py.bind_eq_ok.mp h
    cases h
    rw [List.map_cons, ← ih hothers]
    unfold Json.asText at htext
    split at htext
    · cases htext
      rfl
    · cases htext

theorem roundTo_unit {digits : ℕ} {q : ℚ} (h : 0 ≤ q ∧ q ≤ 1) :
    0 ≤ roundTo digits q ∧ roundTo digits q ≤ 1 :=
  ⟨roundTo_nonneg digits h.1, roundTo_le_one digits h.2⟩

theorem percent_bounds {q : ℚ} (h : 0 ≤ q ∧ q ≤ 1) : 0 ≤ percent q ∧ percent q ≤ 100 := by
  refine ⟨le_min (le_roundEven ?_) (by decide), min_le_right _ _⟩
  push_cast
  linarith [h.1]

theorem percent_mono {a b : ℚ} (h : a ≤ b) : percent a ≤ percent b := by
  apply min_le_min _ le_rfl
  apply roundEven_mono
  linarith

/-- A score in range is small enough to be rounded. -/
theorem checkPercent_ok {q : ℚ} (h : 0 ≤ q ∧ q ≤ 1) : checkPercent q = .ok () := by
  have hnearest := FloatValue.abs_nearest_le q
  rw [abs_of_nonneg h.1] at hnearest
  refine if_neg (Bool.eq_false_iff.mp (FloatValue.not_overflows ?_))
  rw [abs_mul, abs_of_pos (show (0 : ℚ) < 100 by norm_num)]
  linarith [h.2]

example : checkPercent (10 ^ 307) =
    .error (.overflowError "cannot convert float infinity to integer") := by
  have hoverflow : FloatValue.overflows (FloatValue.nearest (10 ^ 307) * 100) = true := by
    decide +kernel
  exact if_pos hoverflow

/-- A share of the top total is at most all of it. -/
theorem share_bounds {value total : ℚ} (hvalue : 0 ≤ value) (hle : value ≤ total) :
    0 ≤ roundTo 1 (value / total * 100) ∧ roundTo 1 (value / total * 100) ≤ 100 := by
  have hratio : 0 ≤ value / total := div_nonneg hvalue (hvalue.trans hle)
  have hone : value / total ≤ 1 := div_le_one_of_le₀ hle (hvalue.trans hle)
  have hlow := roundTo_nonneg 1 (show (0 : ℚ) ≤ value / total * 100 by linarith)
  have hhigh := roundTo_mono 1 (show value / total * 100 ≤ 100 by linarith)
  have hhundred : roundTo 1 100 = 100 := by exact_mod_cast roundTo_intCast 1 100
  rw [hhundred] at hhigh
  exact ⟨hlow, hhigh⟩

theorem anomalyContributors_ok (features : Features) :
    ∃ shares, anomalyContributors features = .ok shares := by
  unfold anomalyContributors
  simp only
  split_ifs
  · exact ⟨_, rfl⟩
  · apply Py.mapM_ok
    intro item hitem
    set magnitudes := anomalyContributorColumns.map fun name =>
      (if name = "amount_log" ∨ name = "distance_km" then min |features.getD name| 60
        else |features.getD name|, name) with hmagnitudes
    have hnonneg : ∀ entry ∈ (magnitudes.mergeSort (fun a b => b.1 ≤ a.1)).take 4,
        0 ≤ entry.1 := by
      intro entry hentry
      have hmem := (List.mergeSort_perm _ _).subset (List.mem_of_mem_take hentry)
      rw [hmagnitudes] at hmem
      obtain ⟨name, _, rfl⟩ := List.mem_map.mp hmem
      simp only
      split_ifs
      · exact le_min (abs_nonneg _) (by norm_num)
      · exact abs_nonneg _
    have hle := List.single_le_sum
      (l := ((magnitudes.mergeSort (fun a b => b.1 ≤ a.1)).take 4).map Prod.fst)
      (by
        intro value hvalue
        obtain ⟨entry, hentry, rfl⟩ := List.mem_map.mp hvalue
        exact hnonneg entry hentry)
      item.1 (List.mem_map_of_mem hitem)
    have hbounds := share_bounds (hnonneg item hitem) hle
    exact ⟨_, by rw [Percentage.validate, dif_pos hbounds]; rfl⟩

namespace AnalystOrchestrator

variable {W : Type} (analyst : AnalystOrchestrator W)

/-- The adjusted scores are clamped, whatever the raw ones were. -/
theorem adjustedFor_bounds (store : ProfileStore) (customer : ℕ) (scores : ModelScores)
    (driftKind : Option String) :
    (0 ≤ (analyst.adjustedFor store customer scores driftKind).fraud ∧
      (analyst.adjustedFor store customer scores driftKind).fraud ≤ 1) ∧
    0 ≤ (analyst.adjustedFor store customer scores driftKind).anomaly ∧
      (analyst.adjustedFor store customer scores driftKind).anomaly ≤ 1 :=
  ⟨⟨clamp01_nonneg _, clamp01_le_one _⟩, clamp01_nonneg _, clamp01_le_one _⟩

theorem checkedComponents_eq_ok_iff {scores : ModelScores} {adjusted : AdjustedScores}
    {network : NetworkAxis} {components : List FusionComponent} :
    analyst.checkedComponents scores adjusted network = .ok components ↔
      checkPercent adjusted.fraud = .ok () ∧ checkPercent adjusted.anomaly = .ok () ∧
        checkPercent network.risk = .ok () ∧
          components = analyst.fusionComponents scores adjusted network := by
  simp only [checkedComponents, Py.bind_eq_ok]
  constructor
  · rintro ⟨_, hfraud, _, hanomaly, _, hrisk, h⟩
    exact ⟨hfraud, hanomaly, hrisk, (Except.ok.inj h).symm⟩
  · rintro ⟨hfraud, hanomaly, hrisk, rfl⟩
    exact ⟨(), hfraud, (), hanomaly, (), hrisk, rfl⟩

/-- The adjusted scores are never too large to be rounded, so only the network risk can be. -/
theorem checkedComponents_adjustedFor (store : ProfileStore) (customer : ℕ) (scores : ModelScores)
    (driftKind : Option String) {network : NetworkAxis}
    (hrisk : checkPercent network.risk = .ok ()) :
    analyst.checkedComponents scores (analyst.adjustedFor store customer scores driftKind) network =
      .ok (analyst.fusionComponents scores
        (analyst.adjustedFor store customer scores driftKind) network) := by
  obtain ⟨hfraud, hanomaly⟩ := analyst.adjustedFor_bounds store customer scores driftKind
  exact analyst.checkedComponents_eq_ok_iff.mpr
    ⟨checkPercent_ok hfraud, checkPercent_ok hanomaly, hrisk, rfl⟩

/-- The numbers a response takes from the answers, as it rounds them, pass its checks. -/
structure AnswersInRange (scores : ModelScores) (network : NetworkAxis) (fusion : FusionAnswer) :
    Prop where
  fraud_bounds : 0 ≤ roundTo 4 scores.rawFraud ∧ roundTo 4 scores.rawFraud ≤ 1
  anomaly_bounds : 0 ≤ roundTo 4 scores.rawAnomaly ∧ roundTo 4 scores.rawAnomaly ≤ 1
  risk_bounds : 0 ≤ roundTo 4 network.risk ∧ roundTo 4 network.risk ≤ 1
  unified_bounds : 0 ≤ fusion.unified ∧ fusion.unified ≤ 100

theorem answersInRange_of_inRange {scores : ModelScores} {network : NetworkAxis}
    {fusion : FusionAnswer} (hscores : scores.InRange) (hnetwork : network.InRange)
    (hunified : 0 ≤ fusion.unified ∧ fusion.unified ≤ 100) :
    AnswersInRange scores network fusion where
  fraud_bounds := roundTo_unit hscores.fraud_bounds
  anomaly_bounds := roundTo_unit hscores.anomaly_bounds
  risk_bounds := roundTo_unit hnetwork.risk_bounds
  unified_bounds := hunified

/-- Of well-typed answers the response checks exactly the ranges of four numbers. -/
theorem buildResponse_ok_iff (tx : TransactionInput) (inputs : ScoringInputs)
    {scores : ModelScores} {adjusted : AdjustedScores} {network : NetworkAxis}
    {fusion : FusionAnswer} (decision : DecisionAnswer)
    (hfraud : 0 ≤ adjusted.fraud ∧ adjusted.fraud ≤ 1)
    (hanomaly : 0 ≤ adjusted.anomaly ∧ adjusted.anomaly ≤ 1)
    (hfindings : ∀ finding ∈ network.findings, ∃ text, finding = .str text)
    (hego : ∃ ego, validateEgo network.ego = .ok ego) :
    (∃ response, analyst.buildResponse tx inputs scores adjusted network fusion decision =
      .ok response) ↔ AnswersInRange scores network fusion := by
  constructor
  · intro h
    obtain ⟨response, hresponse⟩ := h
    simp only [buildResponse, Py.bind_eq_ok] at hresponse
    obtain ⟨_, _, _, hscore, _, _, _, _, _, hraw, _, hrawAnomaly, _, hrisk, _⟩ := hresponse
    exact ⟨unit_of_validate_ok hraw, unit_of_validate_ok hrawAnomaly, unit_of_validate_ok hrisk,
      score_of_validate_ok hscore⟩
  · intro hrange
    obtain ⟨shares, hshares⟩ := anomalyContributors_ok inputs.features
    have htexts : ∃ findings,
        network.findings.mapM (Json.asText "network_findings") = .ok findings := by
      apply Py.mapM_ok
      intro finding hfinding
      obtain ⟨text, rfl⟩ := hfindings finding hfinding
      exact ⟨text, rfl⟩
    obtain ⟨findings, htexts⟩ := htexts
    obtain ⟨ego, hego⟩ := hego
    have hscore : validateScore "fused_risk_score" fusion.unified =
        .ok ⟨fusion.unified.toNat, toNat_le_hundred hrange.unified_bounds⟩ :=
      dif_pos hrange.unified_bounds
    simp only [buildResponse, hshares, hscore, unitFloat_validate_ok (roundTo_unit hfraud),
      unitFloat_validate_ok (roundTo_unit hanomaly), unitFloat_validate_ok hrange.fraud_bounds,
      unitFloat_validate_ok hrange.anomaly_bounds, unitFloat_validate_ok hrange.risk_bounds,
      htexts, hego, Py.ok_bind]
    exact ⟨_, rfl⟩

/-- In range, the response passes its field checks. -/
theorem buildResponse_ok (tx : TransactionInput) (inputs : ScoringInputs) {scores : ModelScores}
    {adjusted : AdjustedScores} {network : NetworkAxis} {fusion : FusionAnswer}
    (decision : DecisionAnswer) (hscores : scores.InRange)
    (hfraud : 0 ≤ adjusted.fraud ∧ adjusted.fraud ≤ 1)
    (hanomaly : 0 ≤ adjusted.anomaly ∧ adjusted.anomaly ≤ 1) (hnetwork : network.InRange)
    (hunified : 0 ≤ fusion.unified ∧ fusion.unified ≤ 100) :
    ∃ response, analyst.buildResponse tx inputs scores adjusted network fusion decision =
      .ok response :=
  (analyst.buildResponse_ok_iff tx inputs decision hfraud hanomaly hnetwork.findings_texts
    hnetwork.ego_object).mpr (answersInRange_of_inRange hscores hnetwork hunified)

/-- A response names the request, and its decision is the refined one. -/
theorem buildResponse_fields {tx : TransactionInput} {inputs : ScoringInputs}
    {scores : ModelScores} {adjusted : AdjustedScores} {network : NetworkAxis}
    {fusion : FusionAnswer} {decision : DecisionAnswer} {response : ScoreResponse}
    (h : analyst.buildResponse tx inputs scores adjusted network fusion decision =
      .ok response) :
    response.transactionId = tx.transactionId ∧ response.ccNum = tx.ccNum.val ∧
      response.decision = analyst.refinedDecision decision.action adjusted := by
  simp only [buildResponse, Py.bind_eq_ok] at h
  obtain ⟨_, _, _, _, _, _, _, _, _, _, _, _, _, _, _, _, _, _, h⟩ := h
  cases h
  exact ⟨rfl, rfl, rfl⟩

/-- What a response repeats of the answers and of the adjusted scores. -/
structure ResponseFigures (scores : ModelScores) (adjusted : AdjustedScores)
    (network : NetworkAxis) (fusion : FusionAnswer) (response : ScoreResponse) : Prop where
  rawFraud : response.rawFraudProbability.val = roundTo 4 scores.rawFraud
  rawAnomaly : response.rawAnomalyScore.val = roundTo 4 scores.rawAnomaly
  fraud : response.fraudProbability.val = roundTo 4 adjusted.fraud
  anomaly : response.anomalyScore.val = roundTo 4 adjusted.anomaly
  risk : response.networkRiskScore.val = roundTo 4 network.risk
  unified : (response.fusedRiskScore.val : ℤ) = fusion.unified
  adjustments : response.adjustments = adjustmentSummaries adjusted
  finding_texts : network.findings = response.networkFindings.map Json.str

theorem buildResponse_figures {tx : TransactionInput} {inputs : ScoringInputs}
    {scores : ModelScores} {adjusted : AdjustedScores} {network : NetworkAxis}
    {fusion : FusionAnswer} {decision : DecisionAnswer} {response : ScoreResponse}
    (h : analyst.buildResponse tx inputs scores adjusted network fusion decision =
      .ok response) : ResponseFigures scores adjusted network fusion response := by
  simp only [buildResponse, Py.bind_eq_ok] at h
  obtain ⟨_, _, score, hscore, _, hfraud, _, hanomaly, _, hraw, _, hrawAnomaly, _, hrisk,
    findings, hfindings, _, _, h⟩ := h
  cases h
  exact ⟨val_of_validate_ok hraw, val_of_validate_ok hrawAnomaly, val_of_validate_ok hfraud,
    val_of_validate_ok hanomaly, val_of_validate_ok hrisk, val_of_validateScore_ok hscore, rfl,
    texts_of_mapM_asText_ok hfindings⟩

/-- A score that ran up to its decision: what each stage derived and what each call
answered, with the worlds between the calls. -/
structure ScoreStages (pipeline : Pipeline W) (tx : TransactionInput) where
  inputs : ScoringInputs
  supervised : JsonObj
  anomaly : JsonObj
  scores : ModelScores
  adjusted : AdjustedScores
  network : NetworkAxis
  fusionObject : JsonObj
  fusion : FusionAnswer
  decisionObject : JsonObj
  decision : DecisionAnswer
  afterSupervised : W
  afterAnomaly : W
  afterNetwork : W
  afterFusion : W
  afterDecision : W
  inputs_eq : analyst.buildInputs pipeline.store tx = .ok inputs
  supervised_eq : Effect.exec (analyst.client.supervisedScore tx.transactionId inputs.features)
    pipeline.world = (.ok supervised, afterSupervised)
  anomaly_eq : Effect.exec (analyst.client.anomalyScore tx.transactionId inputs.features)
    afterSupervised = (.ok anomaly, afterAnomaly)
  scores_eq : readModelScores analyst.platform supervised anomaly = .ok scores
  adjusted_eq : analyst.adjust pipeline.store tx.ccNum.val scores = .ok adjusted
  network_eq : Effect.exec (analyst.scoreNetwork (graphPayload pipeline.store tx))
    { pipeline with world := afterAnomaly } = (.ok network, { pipeline with world := afterNetwork })
  components_eq : analyst.checkedComponents scores adjusted network =
    .ok (analyst.fusionComponents scores adjusted network)
  fusion_call : Effect.exec (analyst.client.fuseRisk tx.transactionId
    (analyst.fusionComponents scores adjusted network)) afterNetwork =
      (.ok fusionObject, afterFusion)
  fusion_eq : readFusion analyst.platform fusionObject = .ok fusion
  decision_call : Effect.exec (analyst.client.decide {
      transactionId := tx.transactionId
      riskScore := fusion.unified
      riskBand := fusion.band
      riskTier := fusion.tier
      paymentRail := .card }) afterFusion = (.ok decisionObject, afterDecision)
  decision_eq : readDecision decisionObject = .ok decision

/-- A score that ran to its end. -/
structure ScoreRun (pipeline : Pipeline W) (tx : TransactionInput) extends
    analyst.ScoreStages pipeline tx where
  response : ScoreResponse
  response_eq : analyst.buildResponse tx inputs scores adjusted network fusion decision =
    .ok response

/-- The state such a score leaves. -/
def ScoreRun.final {analyst : AnalystOrchestrator W} {pipeline : Pipeline W} {tx : TransactionInput}
    (run : analyst.ScoreRun pipeline tx) : Pipeline W :=
  Pipeline.retain run.response (analyst.alertItem tx run.response)
    { pipeline with
      store := pipeline.store.addTransaction
        (storedTransaction tx (analyst.refinedDecision run.decision.action run.adjusted))
      world := (Effect.exec (analyst.client.graphObserve (graphPayload pipeline.store tx))
        run.afterDecision).2 }

theorem exec_call_ok {α : Type} {x : Effect W α} {pipeline : Pipeline W} {a : α} {world : W}
    (h : Effect.exec x pipeline.world = (.ok a, world)) :
    Effect.exec (Pipeline.call x) pipeline = (.ok a, { pipeline with world }) := by
  rw [Pipeline.call, Effect.exec_onPart, h]

theorem ScoreRun.exec_scoreFresh {analyst : AnalystOrchestrator W} {pipeline : Pipeline W}
    {tx : TransactionInput} (run : analyst.ScoreRun pipeline tx) :
    Effect.exec (analyst.scoreFresh tx) pipeline = (.ok run.response, run.final) := by
  rw [scoreFresh, Effect.exec_bind_ok (Effect.exec_get _), run.inputs_eq,
    Effect.exec_bind_ok (Effect.exec_lift _ _),
    Effect.exec_bind_ok (exec_call_ok run.supervised_eq),
    Effect.exec_bind_ok (exec_call_ok run.anomaly_eq), run.scores_eq,
    Effect.exec_bind_ok (Effect.exec_lift _ _), run.adjusted_eq,
    Effect.exec_bind_ok (Effect.exec_lift _ _), Effect.exec_bind_ok run.network_eq,
    run.components_eq, Effect.exec_bind_ok (Effect.exec_lift _ _),
    Effect.exec_bind_ok (exec_call_ok run.fusion_call), run.fusion_eq,
    Effect.exec_bind_ok (Effect.exec_lift _ _),
    Effect.exec_bind_ok (exec_call_ok run.decision_call), run.decision_eq,
    Effect.exec_bind_ok (Effect.exec_lift _ _), Effect.exec_bind_ok (Effect.exec_modify _ _),
    run.response_eq, Effect.exec_bind_ok (Effect.exec_lift _ _)]
  rfl

/-- The world after the two model calls. -/
def afterModels (tx : TransactionInput) (features : Features) (world : W) : W :=
  (Effect.exec (analyst.client.anomalyScore tx.transactionId features)
    (Effect.exec (analyst.client.supervisedScore tx.transactionId features) world).2).2

/-- The world after the graph calls on an answer. -/
def afterGraph (payload : GraphPayload) (world : W) : W :=
  let answer := Effect.exec (analyst.client.graphScore payload) world
  if (readGraph analyst.platform answer.1).available then
    (Effect.exec (analyst.client.graphCommunity payload.ccNum) answer.2).2
  else answer.2

/-- Fusion and decision answer whatever is in range, well-typed and in range. -/
structure EnginesSucceed : Prop where
  fusion : ∀ id scores adjusted network w,
    (0 ≤ adjusted.fraud ∧ adjusted.fraud ≤ 1) → (0 ≤ adjusted.anomaly ∧ adjusted.anomaly ≤ 1) →
    network.InRange → ∃ answer fusion,
      (Effect.exec (analyst.client.fuseRisk id
        (analyst.fusionComponents scores adjusted network)) w).1 = .ok answer ∧
      readFusion analyst.platform answer = .ok fusion ∧
      0 ≤ fusion.unified ∧ fusion.unified ≤ 100
  decision : ∀ payload w, (0 ≤ payload.riskScore ∧ payload.riskScore ≤ 100) →
    ∃ answer decision, (Effect.exec (analyst.client.decide payload) w).1 = .ok answer ∧
      readDecision answer = .ok decision

/-- The calls a score makes from this state answer, well-typed and in range. -/
structure CallsSucceed (pipeline : Pipeline W) (tx : TransactionInput)
    (features : Features) : Prop where
  supervised : ∃ answer,
    (Effect.exec (analyst.client.supervisedScore tx.transactionId features) pipeline.world).1 =
      .ok answer ∧ JsonInUnit analyst.platform answer "fraud_probability"
  anomaly : ∃ answer,
    (Effect.exec (analyst.client.anomalyScore tx.transactionId features)
      (Effect.exec (analyst.client.supervisedScore tx.transactionId features)
        pipeline.world).2).1 = .ok answer ∧ JsonInUnit analyst.platform answer "anomaly_score"
  graph : ∃ answer,
    (Effect.exec (analyst.client.graphScore (graphPayload pipeline.store tx))
      (analyst.afterModels tx features pipeline.world)).1 = .ok answer ∧
      (readGraph analyst.platform (.ok answer)).InRange
  engines : analyst.EnginesSucceed

theorem exec_scoreNetwork (payload : GraphPayload) (pipeline : Pipeline W) :
    Effect.exec (analyst.scoreNetwork payload) pipeline =
      (.ok (readGraph analyst.platform
          (Effect.exec (analyst.client.graphScore payload) pipeline.world).1),
        { pipeline with world := analyst.afterGraph payload pipeline.world }) := by
  rw [scoreNetwork, Effect.exec_bind_ok (Effect.exec_attempt _ _), Effect.exec_ite]
  have hanswer : (Effect.exec (Pipeline.call (analyst.client.graphScore payload)) pipeline).1 =
      (Effect.exec (analyst.client.graphScore payload) pipeline.world).1 := rfl
  rw [hanswer]
  cases havailable : (readGraph analyst.platform
      (Effect.exec (analyst.client.graphScore payload) pipeline.world).1).available with
  | true =>
    rw [if_pos rfl, Effect.exec_bind_ok (Effect.exec_attempt _ _)]
    simp only [afterGraph, havailable, if_true]
    rfl
  | false =>
    simp only [afterGraph, havailable]
    rfl

/-- The network axis of a score is read from the graph's answer. -/
theorem ScoreStages.network_eq_readGraph {analyst : AnalystOrchestrator W}
    {pipeline : Pipeline W} {tx : TransactionInput} (stages : analyst.ScoreStages pipeline tx) :
    stages.network = readGraph analyst.platform (Effect.exec
      (analyst.client.graphScore (graphPayload pipeline.store tx)) stages.afterAnomaly).1 := by
  have hnetwork := stages.network_eq
  rw [exec_scoreNetwork] at hnetwork
  exact (Except.ok.inj (congrArg Prod.fst hnetwork)).symm

/-- Past the drift check, the adjustment goes by its report. -/
theorem adjust_of_detectDrift {store : ProfileStore} {customer : ℕ} (scores : ModelScores)
    {report : Option DriftReport}
    (h : store.detectDrift analyst.platform customer = .ok report) :
    analyst.adjust store customer scores =
      .ok (analyst.adjustedFor store customer scores (report.map DriftReport.kind)) := by
  rw [adjust, h, Py.ok_bind]
  rfl

theorem ScoreStages.adjusted_of_detectDrift {analyst : AnalystOrchestrator W}
    {pipeline : Pipeline W} {tx : TransactionInput} (stages : analyst.ScoreStages pipeline tx)
    {report : Option DriftReport}
    (h : pipeline.store.detectDrift analyst.platform tx.ccNum.val = .ok report) :
    stages.adjusted = analyst.adjustedFor pipeline.store tx.ccNum.val stages.scores
      (report.map DriftReport.kind) := by
  have hadjusted := stages.adjusted_eq
  rw [analyst.adjust_of_detectDrift stages.scores h] at hadjusted
  exact (Except.ok.inj hadjusted).symm

/-- The computations of `score` itself that may raise: the feature builder before
any call, and the drift check. -/
def precheck (store : ProfileStore) (tx : TransactionInput) : Py (Option DriftReport) := do
  let _ ← analyst.buildInputs store tx
  store.detectDrift analyst.platform tx.ccNum.val

theorem history_of_no_transactions {store : ProfileStore} {customer : ℕ}
    (h : store.transactions customer = []) : store.history customer = .ok [] := by
  rw [ProfileStore.history, h]
  simp [DateTime.sortedBy]

theorem detectDrift_of_no_transactions (platform : Platform) {store : ProfileStore}
    {customer : ℕ} (h : store.transactions customer = []) :
    store.detectDrift platform customer = .ok none := by
  rw [ProfileStore.detectDrift, history_of_no_transactions h]
  rfl

/-- A request that brings its features, for a customer without transactions. -/
theorem precheck_of_no_history {store : ProfileStore} {tx : TransactionInput}
    (hempty : store.transactions tx.ccNum.val = []) {features : Features}
    (hfeatures : tx.modelFeatures = some features) :
    analyst.precheck store tx = .ok none := by
  rw [precheck, buildInputs, detectDrift_of_no_transactions _ hempty,
    history_of_no_transactions hempty, hfeatures]
  rfl

/-- The answer of a call that is known to return, with the world it leaves. -/
theorem exec_of_fst {α : Type} {x : Effect W α} {w : W} {a : α}
    (h : (Effect.exec x w).1 = .ok a) : Effect.exec x w = (.ok a, (Effect.exec x w).2) :=
  Prod.ext h rfl

/-- A score fails in the feature builder, before any call, or in the drift check,
after the two model calls; or it runs to its end. -/
theorem scoreFresh_cases (pipeline : Pipeline W) (tx : TransactionInput)
    (hcalls : ∀ inputs, analyst.buildInputs pipeline.store tx = .ok inputs →
      analyst.CallsSucceed pipeline tx inputs.features) :
    (∃ e, analyst.buildInputs pipeline.store tx = .error e ∧
      Effect.exec (analyst.scoreFresh tx) pipeline = (.error e, pipeline)) ∨
    (∃ inputs e, analyst.buildInputs pipeline.store tx = .ok inputs ∧
      pipeline.store.detectDrift analyst.platform tx.ccNum.val = .error e ∧
      Effect.exec (analyst.scoreFresh tx) pipeline = (.error e,
        { pipeline with
          world := analyst.afterModels tx inputs.features pipeline.world })) ∨
    (∃ inputs report, analyst.buildInputs pipeline.store tx = .ok inputs ∧
      pipeline.store.detectDrift analyst.platform tx.ccNum.val = .ok report ∧
      Nonempty (analyst.ScoreRun pipeline tx)) := by
  cases hinputs : analyst.buildInputs pipeline.store tx with
  | error e =>
    left
    refine ⟨e, rfl, ?_⟩
    rw [scoreFresh, Effect.exec_bind_ok (Effect.exec_get _), hinputs,
      Effect.exec_bind_error (Effect.exec_lift _ _)]
  | ok inputs =>
    right
    have hcalls := hcalls inputs hinputs
    obtain ⟨supervised, hsupervised, hfraud⟩ := hcalls.supervised
    obtain ⟨anomaly, hanomaly, hscore⟩ := hcalls.anomaly
    have hsupervised := exec_of_fst hsupervised
    have hanomaly := exec_of_fst hanomaly
    obtain ⟨scores, hscores, hscoresRange⟩ := readModelScores_inRange hfraud hscore
    cases hdrift : pipeline.store.detectDrift analyst.platform tx.ccNum.val with
    | error e =>
      left
      have hadjust : analyst.adjust pipeline.store tx.ccNum.val scores = .error e := by
        rw [adjust, hdrift, Py.error_bind]
      refine ⟨inputs, e, rfl, rfl, ?_⟩
      rw [scoreFresh, Effect.exec_bind_ok (Effect.exec_get _), hinputs,
        Effect.exec_bind_ok (Effect.exec_lift _ _),
        Effect.exec_bind_ok (exec_call_ok hsupervised),
        Effect.exec_bind_ok (exec_call_ok hanomaly), hscores,
        Effect.exec_bind_ok (Effect.exec_lift _ _), hadjust,
        Effect.exec_bind_error (Effect.exec_lift _ _)]
      rfl
    | ok report =>
      right
      refine ⟨inputs, report, rfl, rfl, ?_⟩
      have hadjust := analyst.adjust_of_detectDrift scores hdrift
      obtain ⟨hfraudUnit, hanomalyUnit⟩ := analyst.adjustedFor_bounds pipeline.store
        tx.ccNum.val scores (report.map DriftReport.kind)
      obtain ⟨graph, hgraph, hnetwork⟩ := hcalls.graph
      obtain ⟨fusionObject, fusion, hfusionCall, hfusion, hunified⟩ := hcalls.engines.fusion
        tx.transactionId scores _ _ (analyst.afterGraph (graphPayload pipeline.store tx)
          (analyst.afterModels tx inputs.features pipeline.world))
        hfraudUnit hanomalyUnit hnetwork
      have hfusionCall := exec_of_fst hfusionCall
      obtain ⟨decisionObject, decision, hdecisionCall, hdecision⟩ :=
        hcalls.engines.decision { transactionId := tx.transactionId
                                  riskScore := fusion.unified
                                  riskBand := fusion.band
                                  riskTier := fusion.tier
                                  paymentRail := .card } _ hunified
      obtain ⟨response, hresponse⟩ := analyst.buildResponse_ok tx inputs decision hscoresRange
        hfraudUnit hanomalyUnit hnetwork hunified
      refine ⟨⟨⟨inputs, supervised, anomaly, scores, _, _, fusionObject, fusion, decisionObject,
        decision, _, _, _, _, _, hinputs, hsupervised, hanomaly, hscores, hadjust, ?_,
        analyst.checkedComponents_adjustedFor _ _ scores _ (checkPercent_ok hnetwork.risk_bounds),
        hfusionCall, hfusion, exec_of_fst hdecisionCall, hdecision⟩, response, hresponse⟩⟩
      rw [exec_scoreNetwork]
      simp only [afterModels] at hgraph
      rw [hgraph]
      rfl

theorem exec_score_retained {pipeline : Pipeline W} {tx : TransactionInput}
    {response : ScoreResponse} (h : pipeline.scored tx.transactionId.val = some response) :
    Effect.exec (analyst.score tx) pipeline = (.ok response, pipeline) := by
  rw [score, Effect.exec_bind_ok (Effect.exec_get _), h]
  rfl

theorem exec_score_fresh {pipeline : Pipeline W} {tx : TransactionInput}
    (h : pipeline.scored tx.transactionId.val = none) :
    Effect.exec (analyst.score tx) pipeline = Effect.exec (analyst.scoreFresh tx) pipeline := by
  rw [score, Effect.exec_bind_ok (Effect.exec_get _), h]

end AnalystOrchestrator

/-- 2025-01-01 12:00 UTC. -/
def noon : DateTime :=
  { wall := 739251 * DateTime.microsPerDay + 12 * DateTime.microsPerHour, utcOffset := some 0 }

def confirmedFraud : NonEmptyStr := ⟨"confirmed_fraud", by decide⟩

def noonTx : TransactionInput where
  transactionId := ⟨"t1", by decide⟩
  ccNum := ⟨1, by decide⟩
  amount := ⟨80, by norm_num⟩
  merchant := ⟨"m", by decide⟩
  timestamp := noon
  modelFeatures := some []

/-- What Python gives for the numbers, texts and the one point in time of a run
at noon. -/
def Platform.atNoon : Platform where
  haversineKm := fun _ _ => 0
  log1p := fun _ => 0
  sqrt := fun _ => 0
  parseFloat := fun text => .error (.valueError ("could not convert string to float: " ++ text))
  parseInt := fun text => .error (.valueError ("invalid literal for int(): " ++ text))
  formatG := fun q => toString q
  formatFixed := fun _ _ => "0.10"
  formatGrouped := fun q => toString q
  formatFloat := fun q => toString q
  formatContainer := fun _ => "[]"
  isoformat := fun _ => "2025-01-01T12:00:00+00:00"
  formatMinutes := fun _ => "2025-01-01 12:00"

/-- A client that always answers the same. -/
def answeringClient (supervised anomaly graph : JsonObj) : PipelineClient Unit where
  supervisedScore := fun _ _ => pure supervised
  anomalyScore := fun _ _ => pure anomaly
  fuseRisk := fun _ _ => pure []
  decide := fun _ => pure []
  investigate := fun _ => pure []
  appendFeedback := fun _ => pure []
  recordMonitorLabel := fun _ _ => pure []
  graphScore := fun _ => pure graph
  graphObserve := fun _ => pure []
  graphCommunity := fun _ => pure []

/-- The same with answers of fusion and decision. -/
def steadyClient (supervised anomaly graph fusion decision : JsonObj) : PipelineClient Unit :=
  { answeringClient supervised anomaly graph with
    fuseRisk := fun _ _ => pure fusion
    decide := fun _ => pure decision }

/-- An answer of the decision service that comes to a block. -/
def blockAnswer : JsonObj :=
  [("action", .str DecisionAction.decline.value), ("risk_tier", .str RiskTier.high.value),
    ("risk_band", .str RiskBand.block.value)]

theorem readDecision_blockAnswer : readDecision blockAnswer =
    .ok { action := .decline, tier := .high, band := .block } := rfl

def fusedAnswer : JsonObj :=
  [("unified_score", .int 95), ("band", .str RiskBand.block.value),
    ("tier", .str RiskTier.high.value)]

end VeriPay.AnalystApi
