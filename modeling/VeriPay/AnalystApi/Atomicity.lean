import VeriPay.AnalystApi.Scoring

/-!
What a score that raises leaves behind. Whatever its services answer, it changes
nothing of its own before the decision; then it records the transaction, and only
after that builds the response, whose field checks can still raise. Numbers too large
for a float or a percentage raise before, as a missing field does.
-/

namespace VeriPay.AnalystApi

open Lib Common

/-- A graph answer with the declared types: a list of texts, and an object or nothing. -/
structure GraphTyped (answer : JsonObj) : Prop where
  findings : ∃ texts : List String, answer.getD "findings" (.arr []) = .arr (texts.map .str)
  ego : ∃ ego, validateEgo (answer.get? "ego") = .ok ego

theorem readGraph_typed {platform : Platform} {answer : Py JsonObj}
    (h : ∀ graph, answer = .ok graph → GraphTyped graph) :
    (∀ finding ∈ (readGraph platform answer).findings, ∃ text, finding = .str text) ∧
      ∃ ego, validateEgo (readGraph platform answer).ego = .ok ego := by
  have hempty : (∀ finding ∈ ([] : List Json), ∃ text, finding = .str text) ∧
      ∃ ego, validateEgo none = .ok ego := ⟨by simp, none, rfl⟩
  cases answer with
  | error e => exact hempty
  | ok graph =>
    obtain ⟨texts, htexts⟩ := (h graph rfl).findings
    simp only [readGraph, htexts, Json.toList]
    cases (graph.getD "network_risk_score" (.float 0)).toFloat platform.parseFloat with
    | error e => exact hempty
    | ok risk =>
      refine ⟨?_, (h graph rfl).ego⟩
      intro finding hfinding
      obtain ⟨text, -, rfl⟩ := List.mem_map.mp hfinding
      exact ⟨text, rfl⟩

namespace AnalystOrchestrator

variable {W : Type} (analyst : AnalystOrchestrator W)

def GraphAnswersTyped : Prop :=
  ∀ payload w answer, (Effect.exec (analyst.client.graphScore payload) w).1 = .ok answer →
    GraphTyped answer

/-- The outcome is a raise that changed nothing but the services. -/
def Stops (pipeline : Pipeline W) {α : Type} (outcome : Py α × Pipeline W) : Prop :=
  ∃ e world, outcome = (.error e, { pipeline with world })

variable {analyst} {pipeline : Pipeline W} {w : W} {α β : Type} {P : Prop}

theorem stops_or_of_lift {x : Py α} {f : α → Effect (Pipeline W) β}
    (hnext : ∀ a, x = .ok a → Stops pipeline (Effect.exec (f a) { pipeline with world := w }) ∨ P) :
    Stops pipeline (Effect.exec (liftM x >>= f) { pipeline with world := w }) ∨ P := by
  cases x with
  | ok a => exact hnext a rfl
  | error e => exact Or.inl ⟨e, w, rfl⟩

theorem stops_or_of_call {x : Effect W α} {f : α → Effect (Pipeline W) β}
    (hnext : ∀ a world, Effect.exec x w = (.ok a, world) →
      Stops pipeline (Effect.exec (f a) { pipeline with world }) ∨ P) :
    Stops pipeline (Effect.exec (Pipeline.call x >>= f) { pipeline with world := w }) ∨ P := by
  rcases hx : Effect.exec x w with ⟨answer, world⟩
  have hcall : Effect.exec (Pipeline.call x) { pipeline with world := w } =
      (answer, { pipeline with world }) := by
    rw [Pipeline.call, Effect.exec_onPart, hx]
  cases answer with
  | ok a =>
    rw [Effect.exec_bind_ok hcall]
    exact hnext a world hx
  | error e => exact Or.inl ⟨e, world, Effect.exec_bind_error hcall⟩

/-- A score stops before it changed anything of its own, or it reaches its decision. -/
theorem scoreFresh_stops_or_stages (analyst : AnalystOrchestrator W) (pipeline : Pipeline W)
    (tx : TransactionInput) :
    Stops pipeline (Effect.exec (analyst.scoreFresh tx) pipeline) ∨
      Nonempty (analyst.ScoreStages pipeline tx) := by
  rw [scoreFresh, Effect.exec_bind_ok (Effect.exec_get _)]
  refine stops_or_of_lift (fun inputs hinputs => ?_)
  refine stops_or_of_call (fun supervised afterSupervised hsupervised => ?_)
  refine stops_or_of_call (fun anomaly afterAnomaly hanomaly => ?_)
  refine stops_or_of_lift (fun scores hscores => ?_)
  refine stops_or_of_lift (fun adjusted hadjusted => ?_)
  have hnetwork := analyst.exec_scoreNetwork (graphPayload pipeline.store tx)
    { pipeline with world := afterAnomaly }
  rw [Effect.exec_bind_ok hnetwork]
  refine stops_or_of_lift (fun components hcomponents => ?_)
  obtain ⟨-, -, -, rfl⟩ := analyst.checkedComponents_eq_ok_iff.mp hcomponents
  refine stops_or_of_call (fun fusionObject afterFusion hfusionCall => ?_)
  refine stops_or_of_lift (fun fusion hfusion => ?_)
  refine stops_or_of_call (fun decisionObject afterDecision hdecisionCall => ?_)
  refine stops_or_of_lift (fun decision hdecision => ?_)
  right
  exact ⟨⟨inputs, supervised, anomaly, scores, adjusted, _, fusionObject, fusion, decisionObject,
    decision, _, _, _, _, _, hinputs, hsupervised, hanomaly, hscores, hadjusted, hnetwork,
    hcomponents, hfusionCall, hfusion, hdecisionCall, hdecision⟩⟩

/-- The state with the transaction recorded, where the response is built. -/
def ScoreStages.recorded {tx : TransactionInput} (stages : analyst.ScoreStages pipeline tx) :
    Pipeline W :=
  { pipeline with
    store := pipeline.store.addTransaction
      (storedTransaction tx (analyst.refinedDecision stages.decision.action stages.adjusted))
    world := stages.afterDecision }

/-- A response that fails its checks leaves the transaction recorded. -/
theorem ScoreStages.exec_rejected {tx : TransactionInput}
    (stages : analyst.ScoreStages pipeline tx) {e : PyErr}
    (h : analyst.buildResponse tx stages.inputs stages.scores stages.adjusted stages.network
      stages.fusion stages.decision = .error e) :
    Effect.exec (analyst.scoreFresh tx) pipeline = (.error e, stages.recorded) := by
  rw [scoreFresh, Effect.exec_bind_ok (Effect.exec_get _), stages.inputs_eq,
    Effect.exec_bind_ok (Effect.exec_lift _ _),
    Effect.exec_bind_ok (exec_call_ok stages.supervised_eq),
    Effect.exec_bind_ok (exec_call_ok stages.anomaly_eq), stages.scores_eq,
    Effect.exec_bind_ok (Effect.exec_lift _ _), stages.adjusted_eq,
    Effect.exec_bind_ok (Effect.exec_lift _ _), Effect.exec_bind_ok stages.network_eq,
    stages.components_eq, Effect.exec_bind_ok (Effect.exec_lift _ _),
    Effect.exec_bind_ok (exec_call_ok stages.fusion_call), stages.fusion_eq,
    Effect.exec_bind_ok (Effect.exec_lift _ _),
    Effect.exec_bind_ok (exec_call_ok stages.decision_call), stages.decision_eq,
    Effect.exec_bind_ok (Effect.exec_lift _ _), Effect.exec_bind_ok (Effect.exec_modify _ _), h,
    Effect.exec_bind_error (Effect.exec_lift _ _)]
  rfl

theorem ScoreStages.recorded_ne {tx : TransactionInput}
    (stages : analyst.ScoreStages pipeline tx) (world : W) :
    stages.recorded ≠ { pipeline with world } := by
  intro h
  have hhistory := congrArg (fun p => (p.store.transactions tx.ccNum.val).length) h
  have hadded := congrArg List.length (ProfileStore.transactions_addTransaction_self
    pipeline.store
    (storedTransaction tx (analyst.refinedDecision stages.decision.action stages.adjusted)))
  rw [List.length_append, List.length_singleton] at hadded
  have hrecorded : (stages.recorded.store.transactions tx.ccNum.val).length =
      (pipeline.store.transactions tx.ccNum.val).length + 1 := hadded
  simp only at hhistory
  omega

theorem ScoreStages.adjusted_bounds {tx : TransactionInput}
    (stages : analyst.ScoreStages pipeline tx) :
    (0 ≤ stages.adjusted.fraud ∧ stages.adjusted.fraud ≤ 1) ∧
      0 ≤ stages.adjusted.anomaly ∧ stages.adjusted.anomaly ≤ 1 := by
  obtain ⟨report, -, hadjusted⟩ := Py.bind_eq_ok.mp stages.adjusted_eq
  rw [← Except.ok.inj hadjusted]
  exact analyst.adjustedFor_bounds pipeline.store tx.ccNum.val stages.scores _

theorem ScoreStages.network_typed {tx : TransactionInput}
    (stages : analyst.ScoreStages pipeline tx) (htyped : analyst.GraphAnswersTyped) :
    (∀ finding ∈ stages.network.findings, ∃ text, finding = .str text) ∧
      ∃ ego, validateEgo stages.network.ego = .ok ego := by
  rw [stages.network_eq_readGraph]
  exact readGraph_typed (htyped _ _)

/-- The response is built exactly when the four numbers it repeats are in range. -/
theorem ScoreStages.response_ok_iff {tx : TransactionInput}
    (stages : analyst.ScoreStages pipeline tx) (htyped : analyst.GraphAnswersTyped) :
    (∃ response, analyst.buildResponse tx stages.inputs stages.scores stages.adjusted
      stages.network stages.fusion stages.decision = .ok response) ↔
      AnswersInRange stages.scores stages.network stages.fusion := by
  obtain ⟨hfraud, hanomaly⟩ := stages.adjusted_bounds
  obtain ⟨hfindings, hego⟩ := stages.network_typed htyped
  exact analyst.buildResponse_ok_iff tx stages.inputs stages.decision hfraud hanomaly hfindings
    hego

/-- A score that raises leaves the profile store, the retained results, the alerts and
the lookup as they were. -/
def ScoreAtomic (analyst : AnalystOrchestrator W) (pipeline : Pipeline W)
    (tx : TransactionInput) : Prop :=
  ∀ e, (Effect.exec (analyst.score tx) pipeline).1 = .error e →
    ∃ world, (Effect.exec (analyst.score tx) pipeline).2 = { pipeline with world }

/-- All a score can do. -/
inductive ScoreOutcome (analyst : AnalystOrchestrator W) (pipeline : Pipeline W)
    (tx : TransactionInput) : Py ScoreResponse × Pipeline W → Prop
  | retained {response : ScoreResponse}
      (hretained : pipeline.scored tx.transactionId.val = some response) :
      ScoreOutcome analyst pipeline tx (.ok response, pipeline)
  | stopped (hfresh : pipeline.scored tx.transactionId.val = none) (e : PyErr) (world : W) :
      ScoreOutcome analyst pipeline tx (.error e, { pipeline with world })
  | rejected (hfresh : pipeline.scored tx.transactionId.val = none)
      (stages : analyst.ScoreStages pipeline tx) {e : PyErr}
      (hresponse : analyst.buildResponse tx stages.inputs stages.scores stages.adjusted
        stages.network stages.fusion stages.decision = .error e) :
      ScoreOutcome analyst pipeline tx (.error e, stages.recorded)
  | completed (hfresh : pipeline.scored tx.transactionId.val = none)
      (run : analyst.ScoreRun pipeline tx) :
      ScoreOutcome analyst pipeline tx (.ok run.response, run.final)

theorem score_outcome (analyst : AnalystOrchestrator W) (pipeline : Pipeline W)
    (tx : TransactionInput) :
    ScoreOutcome analyst pipeline tx (Effect.exec (analyst.score tx) pipeline) := by
  cases hretained : pipeline.scored tx.transactionId.val with
  | some response =>
    rw [analyst.exec_score_retained hretained]
    exact .retained hretained
  | none =>
    rw [analyst.exec_score_fresh hretained]
    rcases scoreFresh_stops_or_stages analyst pipeline tx with hstops | hstages
    · obtain ⟨e, world, hexec⟩ := hstops
      rw [hexec]
      exact .stopped hretained e world
    · obtain ⟨stages⟩ := hstages
      cases hresponse : analyst.buildResponse tx stages.inputs stages.scores stages.adjusted
          stages.network stages.fusion stages.decision with
      | error e =>
        rw [stages.exec_rejected hresponse]
        exact .rejected hretained stages hresponse
      | ok response =>
        rw [ScoreRun.exec_scoreFresh ⟨stages, response, hresponse⟩]
        exact .completed hretained ⟨stages, response, hresponse⟩

/-- An out-of-range answer raises after the transaction is recorded. -/
theorem ScoreStages.not_atomic {tx : TransactionInput} (stages : analyst.ScoreStages pipeline tx)
    (hfresh : pipeline.scored tx.transactionId.val = none) (htyped : analyst.GraphAnswersTyped)
    (hrange : ¬ AnswersInRange stages.scores stages.network stages.fusion) :
    ¬ analyst.ScoreAtomic pipeline tx := by
  intro hatomic
  cases hresponse : analyst.buildResponse tx stages.inputs stages.scores stages.adjusted
      stages.network stages.fusion stages.decision with
  | ok response => exact hrange ((stages.response_ok_iff htyped).mp ⟨response, hresponse⟩)
  | error e =>
    have hexec := (analyst.exec_score_fresh hfresh).trans (stages.exec_rejected hresponse)
    obtain ⟨world, hworld⟩ := hatomic e (congrArg Prod.fst hexec)
    rw [hexec] at hworld
    exact stages.recorded_ne world hworld

/-- A score is atomic exactly where the request is answered already or the answers that
reach the response are in range. -/
theorem scoreAtomic_iff (analyst : AnalystOrchestrator W) (pipeline : Pipeline W)
    (tx : TransactionInput) (htyped : analyst.GraphAnswersTyped) :
    analyst.ScoreAtomic pipeline tx ↔
      pipeline.scored tx.transactionId.val ≠ none ∨
        ∀ stages : analyst.ScoreStages pipeline tx,
          AnswersInRange stages.scores stages.network stages.fusion := by
  constructor
  · intro hatomic
    by_cases hretained : pipeline.scored tx.transactionId.val = none
    · right
      intro stages
      by_contra hrange
      exact stages.not_atomic hretained htyped hrange hatomic
    · exact Or.inl hretained
  · intro h e he
    have houtcome := score_outcome analyst pipeline tx
    generalize Effect.exec (analyst.score tx) pipeline = outcome at houtcome he ⊢
    cases houtcome with
    | retained hretained => cases he
    | stopped hfresh e' world => exact ⟨world, rfl⟩
    | rejected hfresh stages hresponse =>
      rcases h with hanswered | hrange
      · exact absurd hfresh hanswered
      · obtain ⟨response, hok⟩ := (stages.response_ok_iff htyped).mpr (hrange stages)
        rw [hok] at hresponse
        cases hresponse
    | completed hfresh run => cases he

/-- Services of which the fraud model answers with the given figure. -/
def answeringFraud (fraud : ℚ) : AnalystOrchestrator Unit where
  client := steadyClient [("fraud_probability", .float fraud)] [] [] fusedAnswer blockAnswer
  platform := .atNoon

theorem answeringFraud_typed (fraud : ℚ) : (answeringFraud fraud).GraphAnswersTyped := by
  intro payload w answer h
  cases h
  exact ⟨⟨[], rfl⟩, none, rfl⟩

/-- The stages of a first request at noon. -/
def noonStages (fraud : ℚ) : (answeringFraud fraud).ScoreStages { world := () } noonTx where
  inputs := {
    before := []
    featureMode := "basic"
    features := []
    featureRows := describeFeatures .atNoon [] {}
    features16Rows := [] }
  supervised := [("fraud_probability", .float fraud)]
  anomaly := []
  scores := { rawFraud := fraud, rawAnomaly := 0, supAvailable := true, anomAvailable := true }
  adjusted := (answeringFraud fraud).adjustedFor {} 1
    { rawFraud := fraud, rawAnomaly := 0, supAvailable := true, anomAvailable := true } none
  network := {}
  fusionObject := fusedAnswer
  fusion := { unified := 95, band := .block, tier := .high }
  decisionObject := blockAnswer
  decision := { action := .decline, tier := .high, band := .block }
  afterSupervised := ()
  afterAnomaly := ()
  afterNetwork := ()
  afterFusion := ()
  afterDecision := ()
  inputs_eq := by
    rw [buildInputs, history_of_no_transactions rfl]
    rfl
  supervised_eq := rfl
  anomaly_eq := rfl
  scores_eq := rfl
  adjusted_eq := by
    rw [adjust, detectDrift_of_no_transactions _ rfl]
    rfl
  network_eq := rfl
  components_eq := checkedComponents_adjustedFor _ _ _ _ _ (checkPercent_ok ⟨le_rfl, zero_le_one⟩)
  fusion_call := rfl
  fusion_eq := rfl
  decision_call := rfl
  decision_eq := rfl

/-- A fraud probability of two is clamped on the way to the decision, and rejected only
after the transaction is recorded. -/
theorem scoreAtomic_fails : (answeringFraud 2).GraphAnswersTyped ∧
    ¬ (answeringFraud 2).ScoreAtomic { world := () } noonTx := by
  refine ⟨answeringFraud_typed 2, (noonStages 2).not_atomic rfl (answeringFraud_typed 2) ?_⟩
  intro hrange
  have hfraud : roundTo 4 (2 : ℚ) ≤ 1 := hrange.fraud_bounds.2
  have htwo : roundTo 4 (2 : ℚ) = 2 := by exact_mod_cast roundTo_intCast 4 2
  rw [htwo] at hfraud
  norm_num at hfraud

theorem scoreAtomic_iff_noon :
    (answeringFraud 2).ScoreAtomic { world := () } noonTx ↔
      (none : Option ScoreResponse) ≠ none ∨
        ∀ stages : (answeringFraud 2).ScoreStages { world := () } noonTx,
          AnswersInRange stages.scores stages.network stages.fusion :=
  scoreAtomic_iff _ _ _ (answeringFraud_typed 2)

end AnalystOrchestrator

end VeriPay.AnalystApi
