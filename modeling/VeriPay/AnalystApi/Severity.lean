import VeriPay.AnalystApi.Engines

/-!
Two scores of one request, with and without a confirmed-fraud verdict as the
customer's newest feedback. The verdict raises the adjusted fraud probability,
ends every trust boost, and so never lowers the fused score or its tier. Only
the four-quadrant refinement runs against that order.
-/

namespace VeriPay.AnalystApi

open Lib Common

theorem ProfileStore.feedbackForCustomer_record (store : ProfileStore) (verdict : StoredFeedback) :
    (store.recordFeedback verdict).feedbackForCustomer verdict.ccNum =
      store.feedbackForCustomer verdict.ccNum ++ [verdict.analystDecision] := by
  simp [feedbackForCustomer, recordFeedback]

theorem mem_lastItems_concat {α : Type} (n : ℕ) (items : List α) (newest : α) :
    newest ∈ lastItems n (items ++ [newest]) := by
  unfold lastItems
  split_ifs with hn
  · simp
  · have hle : (items ++ [newest]).length - n ≤ items.length := by
      simp only [List.length_append, List.length_singleton]
      omega
    rw [List.drop_append_of_le_length hle]
    simp

/-- The newest verdict is in every window, so the window is not benign. -/
theorem lastItems_not_benign {newest : String} (h : isConfirmedFraud newest = true) (window : ℕ)
    (labels : List String) : (lastItems window (labels ++ [newest])).all isBenign = false := by
  rw [List.all_eq_false]
  refine ⟨newest, mem_lastItems_concat window labels newest, ?_⟩
  rw [not_isBenign_of_isConfirmedFraud h]
  exact Bool.false_ne_true

theorem feedbackAdjustment_confirmed (platform : Platform) {newest : String}
    (h : isConfirmedFraud newest = true) (labels : List String) (window : ℕ)
    (trustFactor add : ℚ) :
    (feedbackAdjustment platform (labels ++ [newest]) window trustFactor add).anomalyFactor = 1 ∧
      (feedbackAdjustment platform (labels ++ [newest]) window trustFactor add).fraudAdd = add := by
  have hany : (labels ++ [newest]).any isConfirmedFraud = true := by
    rw [List.any_append, List.any_cons, h, Bool.true_or, Bool.or_true]
  have hboosted : trustBoosted window (labels ++ [newest]) = false := by
    simp [trustBoosted, lastItems_not_benign h window labels]
  simp [feedbackAdjustment, hany, hboosted]

theorem feedbackAdjustment_bounds (platform : Platform) (labels : List String) (window : ℕ)
    {trustFactor add : ℚ} (htrust : 0 ≤ trustFactor ∧ trustFactor ≤ 1) (hadd : 0 ≤ add) :
    (0 ≤ (feedbackAdjustment platform labels window trustFactor add).anomalyFactor ∧
      (feedbackAdjustment platform labels window trustFactor add).anomalyFactor ≤ 1) ∧
    (feedbackAdjustment platform labels window trustFactor add).fraudAdd ≤ add := by
  simp only [feedbackAdjustment]
  refine ⟨?_, ?_⟩
  · split_ifs
    · exact htrust
    · norm_num
  · split_ifs
    · exact le_rfl
    · exact hadd

/-- Without the confirmation of benign verdicts a drift factor is no lower. -/
theorem driftAdjustment_unconfirmed (platform : Platform) (driftKind : Option String)
    (confirmed : Bool) {gradualFactor suddenFactor : ℚ}
    (hgradual : 0 ≤ gradualFactor ∧ gradualFactor ≤ 1) (hsudden : 0 ≤ suddenFactor) :
    0 ≤ (driftAdjustment platform driftKind confirmed gradualFactor suddenFactor).anomalyFactor ∧
    (driftAdjustment platform driftKind confirmed gradualFactor suddenFactor).anomalyFactor ≤
      (driftAdjustment platform driftKind false gradualFactor suddenFactor).anomalyFactor := by
  unfold driftAdjustment
  by_cases hkind : driftKind = some "gradual"
  · cases confirmed with
    | true => simpa [hkind] using hgradual
    | false => simp [hkind]
  · by_cases hjump : driftKind = some "sudden"
    · simpa [hjump] using hsudden
    · simp [hkind, hjump]

theorem mapDecision_mono {a b : ℚ} (h : a ≤ b) :
    (mapDecision (DecisionEngine.actionForTier (classifyScore a))).severity ≤
      (mapDecision (DecisionEngine.actionForTier (classifyScore b))).severity := by
  unfold classifyScore
  split_ifs <;> first | decide | (exfalso; linarith)

namespace AnalystOrchestrator

variable {W : Type} (analyst : AnalystOrchestrator W)

/-- A confirmed-fraud verdict lowers neither adjusted score. -/
theorem adjustedFor_record (hsettings : analyst.settings = {}) (store : ProfileStore)
    (verdict : StoredFeedback) (hconfirmed : isConfirmedFraud verdict.analystDecision = true)
    (scores : ModelScores) (hraw : 0 ≤ scores.rawAnomaly) (driftKind : Option String) :
    (analyst.adjustedFor store verdict.ccNum scores driftKind).fraud ≤
        (analyst.adjustedFor (store.recordFeedback verdict) verdict.ccNum scores driftKind).fraud ∧
      (analyst.adjustedFor store verdict.ccNum scores driftKind).anomaly ≤
        (analyst.adjustedFor (store.recordFeedback verdict) verdict.ccNum scores
          driftKind).anomaly := by
  set labels := store.feedbackForCustomer verdict.ccNum with hlabels
  have hbenign : (store.recordFeedback verdict).recentBenign verdict.ccNum
      analyst.settings.trustBoostWindow = false := by
    simp [ProfileStore.recentBenign, store.feedbackForCustomer_record verdict,
      lastItems_not_benign hconfirmed]
  obtain ⟨hfactor, hadd⟩ := feedbackAdjustment_confirmed analyst.platform hconfirmed labels
    analyst.settings.trustBoostWindow analyst.settings.trustBoostFactor
    analyst.settings.heightenedAlertAdd
  have htrust : 0 ≤ analyst.settings.trustBoostFactor ∧
      analyst.settings.trustBoostFactor ≤ 1 := by rw [hsettings]; norm_num
  have halert : 0 ≤ analyst.settings.heightenedAlertAdd := by rw [hsettings]; norm_num
  have hgradual : 0 ≤ analyst.settings.gradualDriftFactor ∧
      analyst.settings.gradualDriftFactor ≤ 1 := by rw [hsettings]; norm_num
  have hsudden : 0 ≤ analyst.settings.suddenDriftFactor := by rw [hsettings]; norm_num
  obtain ⟨⟨hlow, hhigh⟩, haddBefore⟩ := feedbackAdjustment_bounds analyst.platform labels
    analyst.settings.trustBoostWindow htrust halert
  obtain ⟨hdrift, hdriftLe⟩ := driftAdjustment_unconfirmed analyst.platform driftKind
    (store.recentBenign verdict.ccNum analyst.settings.trustBoostWindow) hgradual hsudden
  simp only [adjustedFor, chain, store.feedbackForCustomer_record verdict, hbenign, hfactor, hadd,
    ← hlabels]
  constructor
  · apply clamp01_mono
    linarith
  · apply clamp01_mono
    apply mul_le_mul_of_nonneg_left _ hraw
    calc _ ≤ 1 * _ := mul_le_mul_of_nonneg_right hhigh hdrift
      _ ≤ 1 * _ := by rwa [one_mul, one_mul]

/-- The refinement newly applies: what was blocked comes over the fraud threshold, under that of the
anomaly. -/
structure NewlyRefined (settings : Settings) (decision : Decision)
    (adjusted adjusted' : AdjustedScores) : Prop where
  blocked : decision = .block
  fraud_low : adjusted.fraud < settings.fraudQuadrantThreshold
  fraud_high : settings.fraudQuadrantThreshold ≤ adjusted'.fraud
  anomaly_low : adjusted'.anomaly < settings.anomalyQuadrantThreshold

theorem refinedDecision_eq_block_iff {action : DecisionAction} {adjusted : AdjustedScores} :
    analyst.refinedDecision action adjusted = .block ↔ mapDecision action = .block ∧
      ¬ (analyst.settings.fraudQuadrantThreshold ≤ adjusted.fraud ∧
        adjusted.anomaly < analyst.settings.anomalyQuadrantThreshold) := by
  simp only [refinedDecision]
  split_ifs with hstealth
  · exact iff_of_false (by decide) fun h => h.2 hstealth.2
  · exact ⟨fun hblock => ⟨hblock, fun hquadrant => hstealth ⟨hblock, hquadrant⟩⟩, fun h => h.1⟩

section Refinement

variable {action action' : DecisionAction} {adjusted adjusted' : AdjustedScores}
  (hmapped : (mapDecision action).severity ≤ (mapDecision action').severity)

include hmapped

theorem refinedDecision_of_newlyRefined
    (h : NewlyRefined analyst.settings (analyst.refinedDecision action adjusted) adjusted
      adjusted') :
    analyst.refinedDecision action' adjusted' = .reviewStealth := by
  have hblock : mapDecision action = .block :=
    (analyst.refinedDecision_eq_block_iff.mp h.blocked).1
  have hblock' : mapDecision action' = .block := by
    rw [hblock] at hmapped
    cases hdecision : mapDecision action' with
    | block => rfl
    | _ => rw [hdecision] at hmapped; exact absurd hmapped (by decide)
  simp only [refinedDecision]
  exact if_pos ⟨hblock', h.fraud_high, h.anomaly_low⟩

/-- Otherwise the refinement keeps the order of two decisions. -/
theorem refinedDecision_severity (hanomaly : adjusted.anomaly ≤ adjusted'.anomaly)
    (h : ¬ NewlyRefined analyst.settings (analyst.refinedDecision action adjusted) adjusted
      adjusted') :
    (analyst.refinedDecision action adjusted).severity ≤
      (analyst.refinedDecision action' adjusted').severity := by
  by_cases hstealth' : mapDecision action' = .block ∧
      analyst.settings.fraudQuadrantThreshold ≤ adjusted'.fraud ∧
      adjusted'.anomaly < analyst.settings.anomalyQuadrantThreshold
  · have hdecision' : analyst.refinedDecision action' adjusted' = .reviewStealth := by
      simp only [refinedDecision]
      exact if_pos hstealth'
    rw [hdecision']
    obtain ⟨_, hfraudHigh, hanomalyLow⟩ := hstealth'
    cases hdecision : analyst.refinedDecision action adjusted with
    | block =>
      exfalso
      apply h
      refine ⟨hdecision, ?_, hfraudHigh, hanomalyLow⟩
      by_contra hhigh
      exact (analyst.refinedDecision_eq_block_iff.mp hdecision).2
        ⟨not_lt.mp hhigh, hanomaly.trans_lt hanomalyLow⟩
    | reviewStealth => exact le_rfl
    | reviewUnusual => decide
    | pass => decide
  · simp only [refinedDecision]
    rw [if_neg hstealth']
    split_ifs with hstealth
    · rw [hstealth.1] at hmapped
      exact le_trans (by decide) hmapped
    · exact hmapped

end Refinement

/-- The model and graph calls always give these answers, and they are in range. -/
structure FixedAnswers (supervised anomaly graph : JsonObj) : Prop where
  supervised_eq : ∀ id features w,
    (Effect.exec (analyst.client.supervisedScore id features) w).1 = .ok supervised
  anomaly_eq : ∀ id features w,
    (Effect.exec (analyst.client.anomalyScore id features) w).1 = .ok anomaly
  graph_eq : ∀ payload w, (Effect.exec (analyst.client.graphScore payload) w).1 = .ok graph
  fraud_unit : JsonInUnit analyst.platform supervised "fraud_probability"
  anomaly_unit : JsonInUnit analyst.platform anomaly "anomaly_score"
  network_inRange : (readGraph analyst.platform (.ok graph)).InRange

variable {analyst} {supervised anomaly graph : JsonObj} {client : PipelineClient W} {uuid : String}

theorem FixedAnswers.callsSucceed (h : analyst.FixedAnswers supervised anomaly graph)
    (hengines : analyst.EnginesSucceed) (pipeline : Pipeline W) (tx : TransactionInput)
    (features : Features) : analyst.CallsSucceed pipeline tx features where
  supervised := ⟨supervised, h.supervised_eq _ _ _, h.fraud_unit⟩
  anomaly := ⟨anomaly, h.anomaly_eq _ _ _, h.anomaly_unit⟩
  graph := ⟨graph, h.graph_eq _ _, h.network_inRange⟩
  engines := hengines

/-- Under fixed answers a fresh score raises what its own computations raise. -/
theorem FixedAnswers.score_error (h : analyst.FixedAnswers supervised anomaly graph)
    (hengines : analyst.EnginesSucceed) {pipeline : Pipeline W} {tx : TransactionInput}
    (hfresh : pipeline.scored tx.transactionId.val = none) {e : PyErr}
    (hprecheck : analyst.precheck pipeline.store tx = .error e) :
    (Effect.exec (analyst.score tx) pipeline).1 = .error e := by
  rw [analyst.exec_score_fresh hfresh]
  rcases analyst.scoreFresh_cases pipeline tx
    (fun inputs _ => h.callsSucceed hengines pipeline tx inputs.features) with
    ⟨e', hinputs, hexec⟩ | ⟨inputs, e', hinputs, hdrift, hexec⟩ |
    ⟨inputs, report, hinputs, hdrift, _⟩
  · rw [precheck, hinputs, Py.error_bind] at hprecheck
    rw [hexec, Except.error.inj hprecheck]
  · rw [precheck, hinputs, Py.ok_bind, hdrift] at hprecheck
    rw [hexec, Except.error.inj hprecheck]
  · rw [precheck, hinputs, Py.ok_bind, hdrift] at hprecheck
    cases hprecheck

theorem adjust_of_precheck (analyst : AnalystOrchestrator W) {store : ProfileStore}
    {tx : TransactionInput} (scores : ModelScores) {report : Option DriftReport}
    (h : analyst.precheck store tx = .ok report) :
    analyst.adjust store tx.ccNum.val scores =
      .ok (analyst.adjustedFor store tx.ccNum.val scores (report.map DriftReport.kind)) := by
  obtain ⟨_, _, hdrift⟩ := Py.bind_eq_ok.mp h
  exact analyst.adjust_of_detectDrift scores hdrift

/-- Otherwise it answers, with the refined decision of the fused score's tier. -/
theorem FixedAnswers.score_decision (h : analyst.FixedAnswers supervised anomaly graph)
    (hclient : analyst.client = client.withEngines uuid)
    (hweight : 0 < analyst.settings.networkFusionWeight ∧
      analyst.settings.networkFusionWeight ≤ 1) {pipeline : Pipeline W} {tx : TransactionInput}
    (hfresh : pipeline.scored tx.transactionId.val = none) {scores : ModelScores}
    (hscores : readModelScores analyst.platform supervised anomaly = .ok scores)
    {report : Option DriftReport} (hprecheck : analyst.precheck pipeline.store tx = .ok report) :
    ∃ response,
      ∃ haxes : analyst.AxesInRange (analyst.adjustedFor pipeline.store tx.ccNum.val scores
        (report.map DriftReport.kind)) (readGraph analyst.platform (.ok graph)),
      (Effect.exec (analyst.score tx) pipeline).1 = .ok response ∧
      response.decision = analyst.refinedDecision
        (DecisionEngine.actionForTier (classifyScore ((analyst.fusedScore scores haxes).val : ℚ)))
        (analyst.adjustedFor pipeline.store tx.ccNum.val scores
          (report.map DriftReport.kind)) := by
  rw [analyst.exec_score_fresh hfresh]
  have hengines := analyst.enginesSucceed hclient hweight
  rcases analyst.scoreFresh_cases pipeline tx
    (fun inputs _ => h.callsSucceed hengines pipeline tx inputs.features) with
    ⟨e', hinputs, _⟩ | ⟨inputs, e', hinputs, hdrift, _⟩ |
    ⟨inputs, report', hinputs, hdrift, ⟨run⟩⟩
  · rw [precheck, hinputs, Py.error_bind] at hprecheck
    cases hprecheck
  · rw [precheck, hinputs, Py.ok_bind, hdrift] at hprecheck
    cases hprecheck
  · rw [precheck, hinputs, Py.ok_bind, hdrift] at hprecheck
    cases hprecheck
    have hsupervised : run.supervised = supervised := by
      have heq := congrArg Prod.fst run.supervised_eq
      rw [h.supervised_eq] at heq
      exact (Except.ok.inj heq).symm
    have hanomaly : run.anomaly = anomaly := by
      have heq := congrArg Prod.fst run.anomaly_eq
      rw [h.anomaly_eq] at heq
      exact (Except.ok.inj heq).symm
    have hrunScores : run.scores = scores := by
      have heq := run.scores_eq
      rw [hsupervised, hanomaly, hscores] at heq
      exact (Except.ok.inj heq).symm
    have hadjusted : run.adjusted = analyst.adjustedFor pipeline.store tx.ccNum.val scores
        (report.map DriftReport.kind) := by
      rw [run.adjusted_of_detectDrift hdrift, hrunScores]
    have hnetwork : run.network = readGraph analyst.platform (.ok graph) := by
      rw [run.network_eq_readGraph, h.graph_eq]
    obtain ⟨hfraud, hanomaly⟩ := analyst.adjustedFor_bounds pipeline.store tx.ccNum.val scores
      (report.map DriftReport.kind)
    have haxes : analyst.AxesInRange (analyst.adjustedFor pipeline.store tx.ccNum.val scores
        (report.map DriftReport.kind)) (readGraph analyst.platform (.ok graph)) :=
      ⟨hfraud, hanomaly, h.network_inRange.risk_bounds, hweight⟩
    have haction := run.action_eq hclient (hadjusted ▸ hnetwork ▸ haxes)
    rw [analyst.fusedScore_congr hrunScores hadjusted hnetwork _ haxes] at haction
    have hdecision := (analyst.buildResponse_fields run.response_eq).2.2
    rw [haction, hadjusted] at hdecision
    exact ⟨run.response, haxes, by rw [run.exec_scoreFresh], hdecision⟩

/-- With the verdict as the newest feedback the score raises what it raises without
it; or it is a stealth review where the refinement newly applies, and decides at least as severely
everywhere else. -/
def SoftensOnlyToStealth (analyst : AnalystOrchestrator W) (supervised anomaly : JsonObj)
    (pipeline : Pipeline W) (tx : TransactionInput) (verdict : StoredFeedback) : Prop :=
  (∃ e, (Effect.exec (analyst.score tx) pipeline).1 = .error e ∧
    (Effect.exec (analyst.score tx) (pipeline.recordFeedback verdict)).1 = .error e) ∨
  ∃ scores adjusted adjusted' response response',
    readModelScores analyst.platform supervised anomaly = .ok scores ∧
    analyst.adjust pipeline.store tx.ccNum.val scores = .ok adjusted ∧
    analyst.adjust (pipeline.recordFeedback verdict).store tx.ccNum.val scores = .ok adjusted' ∧
    (Effect.exec (analyst.score tx) pipeline).1 = .ok response ∧
    (Effect.exec (analyst.score tx) (pipeline.recordFeedback verdict)).1 = .ok response' ∧
    (NewlyRefined analyst.settings response.decision adjusted adjusted' →
      response'.decision = .reviewStealth) ∧
    (¬ NewlyRefined analyst.settings response.decision adjusted adjusted' →
      response.decision.severity ≤ response'.decision.severity)

/-- Confirmed fraud, recorded as the newest feedback, softens no verdict beyond that. -/
theorem score_confirmed_fraud (hclient : analyst.client = client.withEngines uuid)
    (hsettings : analyst.settings = {}) (h : analyst.FixedAnswers supervised anomaly graph)
    (pipeline : Pipeline W) (tx : TransactionInput)
    (hfresh : pipeline.scored tx.transactionId.val = none) (verdict : StoredFeedback)
    (hcustomer : verdict.ccNum = tx.ccNum.val)
    (hconfirmed : isConfirmedFraud verdict.analystDecision = true) :
    analyst.SoftensOnlyToStealth supervised anomaly pipeline tx verdict := by
  have hweight : 0 < analyst.settings.networkFusionWeight ∧
      analyst.settings.networkFusionWeight ≤ 1 := by rw [hsettings]; norm_num
  have hengines := analyst.enginesSucceed hclient hweight
  have hprecheck' : analyst.precheck (pipeline.recordFeedback verdict).store tx =
      analyst.precheck pipeline.store tx := rfl
  have hfresh' : (pipeline.recordFeedback verdict).scored tx.transactionId.val = none := hfresh
  cases hprecheck : analyst.precheck pipeline.store tx with
  | error e =>
    exact .inl ⟨e, h.score_error hengines hfresh hprecheck,
      h.score_error hengines hfresh' (hprecheck'.trans hprecheck)⟩
  | ok report =>
    right
    obtain ⟨scores, hscores, hrange⟩ := readModelScores_inRange h.fraud_unit h.anomaly_unit
    obtain ⟨response, haxes, hanswer, hdecision⟩ :=
      h.score_decision hclient hweight hfresh hscores hprecheck
    obtain ⟨response', haxes', hanswer', hdecision'⟩ :=
      h.score_decision hclient hweight hfresh' hscores (hprecheck'.trans hprecheck)
    have hadjust := analyst.adjust_of_precheck scores hprecheck
    have hadjust' := analyst.adjust_of_precheck scores (hprecheck'.trans hprecheck)
    refine ⟨scores, _, _, response, response', hscores, hadjust, hadjust', hanswer, hanswer', ?_⟩
    obtain ⟨hfraud, hanomaly⟩ := analyst.adjustedFor_record hsettings pipeline.store verdict
      hconfirmed scores hrange.anomaly_bounds.1 (report.map DriftReport.kind)
    rw [hcustomer] at hfraud hanomaly
    have hfused : ((analyst.fusedScore scores haxes).val : ℚ) ≤
        (analyst.fusedScore scores haxes').val := by
      exact_mod_cast analyst.fusedScore_mono scores haxes haxes' hfraud hanomaly
    rw [hdecision, hdecision']
    exact ⟨analyst.refinedDecision_of_newlyRefined (mapDecision_mono hfused),
      analyst.refinedDecision_severity (mapDecision_mono hfused) hanomaly⟩

/-- What the refinement breaks. -/
def NeverSoftens (analyst : AnalystOrchestrator W) (pipeline : Pipeline W) (tx : TransactionInput)
    (verdict : StoredFeedback) : Prop :=
  ∀ response response', (Effect.exec (analyst.score tx) pipeline).1 = .ok response →
    (Effect.exec (analyst.score tx) (pipeline.recordFeedback verdict)).1 = .ok response' →
    response.decision.severity ≤ response'.decision.severity

end AnalystOrchestrator

/-- The graph's answer for a customer inside a fraud ring. -/
def ringAnswer : JsonObj :=
  [("network_risk_score", .float 1), ("available", .bool true), ("findings", .arr [])]

def ringAnalyst : AnalystOrchestrator Unit where
  client := (answeringClient [("fraud_probability", .float (45 / 100))]
    [("anomaly_score", .float (45 / 100))] ringAnswer).withEngines "0"
  platform := Platform.atNoon

def ringVerdict : StoredFeedback where
  transactionId := ⟨"t0", by decide⟩
  ccNum := 1
  analystDecision := "confirmed_fraud"
  decision := .pass
  notes := ""
  timestamp := noon

theorem ringAnalyst_fixedAnswers :
    ringAnalyst.FixedAnswers [("fraud_probability", .float (45 / 100))]
      [("anomaly_score", .float (45 / 100))] ringAnswer where
  supervised_eq := fun _ _ _ => rfl
  anomaly_eq := fun _ _ _ => rfl
  graph_eq := fun _ _ => rfl
  fraud_unit := ⟨45 / 100, rfl, by norm_num⟩
  anomaly_unit := ⟨45 / 100, rfl, by norm_num⟩
  network_inRange :=
    { risk_bounds := by
        have hrisk : (readGraph ringAnalyst.platform (.ok ringAnswer)).risk = 1 := rfl
        rw [hrisk]
        norm_num
      findings_texts := fun finding hfinding => absurd hfinding List.not_mem_nil
      ego_object := ⟨none, rfl⟩ }

theorem score_confirmed_fraud_ring :
    ringAnalyst.SoftensOnlyToStealth [("fraud_probability", .float (45 / 100))]
      [("anomaly_score", .float (45 / 100))] { world := () } noonTx ringVerdict :=
  AnalystOrchestrator.score_confirmed_fraud rfl rfl ringAnalyst_fixedAnswers _ _ rfl _ rfl
    (by decide)

def ringScores : ModelScores where
  rawFraud := 45 / 100
  rawAnomaly := 45 / 100
  supAvailable := true
  anomAvailable := true

theorem ringAnalyst_axes (store : ProfileStore) :
    ringAnalyst.AxesInRange (ringAnalyst.adjustedFor store 1 ringScores none)
      (readGraph ringAnalyst.platform (.ok ringAnswer)) where
  fraud_bounds := (ringAnalyst.adjustedFor_bounds store 1 ringScores none).1
  anomaly_bounds := (ringAnalyst.adjustedFor_bounds store 1 ringScores none).2
  risk_bounds := ringAnalyst_fixedAnswers.network_inRange.risk_bounds
  weight_bounds := by
    have hweight : ringAnalyst.settings.networkFusionWeight = 2 / 10 := rfl
    rw [hweight]
    norm_num

def ringDecision (store : ProfileStore) : Decision :=
  ringAnalyst.refinedDecision
    (DecisionEngine.actionForTier
      (classifyScore ((ringAnalyst.fusedScore ringScores (ringAnalyst_axes store)).val : ℚ)))
    (ringAnalyst.adjustedFor store 1 ringScores none)

/-- The fused score grows from 54 to 58, and BLOCK turns into a stealth review. -/
theorem not_neverSoftens_ring :
    ringAnalyst.FixedAnswers [("fraud_probability", .float (45 / 100))]
        [("anomaly_score", .float (45 / 100))] ringAnswer ∧
      isConfirmedFraud ringVerdict.analystDecision = true ∧
      ¬ ringAnalyst.NeverSoftens { world := () } noonTx ringVerdict := by
  refine ⟨ringAnalyst_fixedAnswers, by decide, ?_⟩
  intro hnever
  have hweight := (ringAnalyst_axes {}).weight_bounds
  have hscores : readModelScores ringAnalyst.platform
      [("fraud_probability", .float (45 / 100))] [("anomaly_score", .float (45 / 100))] =
      .ok ringScores := rfl
  let before : Pipeline Unit := { world := () }
  have hfresh : before.scored noonTx.transactionId.val = none := rfl
  have hfresh' : (before.recordFeedback ringVerdict).scored noonTx.transactionId.val = none := rfl
  obtain ⟨response, _, hanswer, hdecision⟩ := ringAnalyst_fixedAnswers.score_decision rfl hweight
    hfresh hscores (ringAnalyst.precheck_of_no_history rfl rfl)
  obtain ⟨response', _, hanswer', hdecision'⟩ := ringAnalyst_fixedAnswers.score_decision rfl
    hweight hfresh' hscores (ringAnalyst.precheck_of_no_history rfl rfl)
  have hle := hnever response response' hanswer hanswer'
  rw [show response.decision = ringDecision before.store from hdecision,
    show response'.decision = ringDecision (before.recordFeedback ringVerdict).store from
      hdecision'] at hle
  have hlt : (ringDecision (before.recordFeedback ringVerdict).store).severity <
      (ringDecision before.store).severity := by decide +kernel
  exact absurd hle (not_le.mpr hlt)

end VeriPay.AnalystApi
