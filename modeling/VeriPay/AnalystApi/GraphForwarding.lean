import VeriPay.Lib.Machine
import VeriPay.AnalystApi.Engines
import VeriPay.GraphEngine.Service

/-!
The orchestrator against the real graph engine. The flag of a customer travels
only inside the payload of a score, as the verdicts stood before it, and the graph
keeps the first payload of each transaction. So a verdict flags its customer only
through a later score of another transaction.
-/

namespace VeriPay.AnalystApi

open Lib GraphEngine

variable {R : Type}

/-- Validation of a graph body. -/
def toObserveRequest (payload : GraphPayload) : Py GraphObserveRequest :=
  if h : 1 ≤ payload.ccNum ∧ 0 ≤ payload.amount then
    .ok
      { transactionId := payload.transactionId
        ccNum := ⟨payload.ccNum, h.1⟩
        merchant := payload.merchant
        amount := ⟨payload.amount, h.2⟩
        timestamp := payload.timestamp
        flagged := payload.flagged }
  else .error httpError

/-- The client whose graph calls reach the real engine. -/
def PipelineClient.withGraphEngine (client : PipelineClient R) (views : GraphViews) :
    PipelineClient (GraphStore × R) :=
  { client.onPart Prod.snd (fun rest world => (world.1, rest)) with
    graphScore := fun payload =>
      Effect.onPart Prod.fst (fun store world => (store, world.2)) (do
        let request ← liftM (toObserveRequest payload)
        scoreEndpoint views request)
    graphObserve := fun payload =>
      Effect.onPart Prod.fst (fun store world => (store, world.2)) (do
        let request ← liftM (toObserveRequest payload)
        observeEndpoint request)
    graphCommunity := fun customer =>
      Effect.onPart Prod.fst (fun store world => (store, world.2))
        (communityEndpoint views customer) }

/-- Fusion and decision do not depend on the graph engine. -/
theorem PipelineClient.withEngines_withGraphEngine (client : PipelineClient R) (uuid : String)
    (views : GraphViews) :
    (client.withEngines uuid).withGraphEngine views =
      (client.withGraphEngine views).withEngines uuid := rfl

def AnalystOrchestrator.withGraphEngine (analyst : AnalystOrchestrator R) (views : GraphViews) :
    AnalystOrchestrator (GraphStore × R) where
  client := analyst.client.withGraphEngine views
  settings := analyst.settings
  platform := analyst.platform

inductive AnalystCall
  | score (tx : TransactionInput)
  | submitFeedback (feedback : FeedbackInput) (received : DateTime)

inductive AnalystAnswer
  | score (answer : Py ScoreResponse)
  | submitFeedback (answer : Py FeedbackResult)

def analystMachine {W : Type} (analyst : AnalystOrchestrator W) :
    Machine (Pipeline W) AnalystCall AnalystAnswer where
  step := fun pipeline call =>
    match call with
    | .score tx =>
      let (answer, pipeline') := Effect.exec (analyst.score tx) pipeline
      (.score answer, pipeline')
    | .submitFeedback feedback received =>
      let (answer, pipeline') :=
        Effect.exec (analyst.submitFeedback feedback received) pipeline
      (.submitFeedback answer, pipeline')

/-- What the graph records of a score. -/
def observedTransaction (store : ProfileStore) (tx : TransactionInput) : ObservedTransaction where
  transactionId := tx.transactionId.val
  ccNum := tx.ccNum.val
  merchant := tx.merchant.val
  amount := tx.amount.val
  timestamp := clock tx.timestamp
  flagged := store.hasConfirmedFraud tx.ccNum.val

/-- A score's payload passes the engine's checks. -/
theorem toObserveRequest_graphPayload (store : ProfileStore) (tx : TransactionInput) :
    ∃ request, toObserveRequest (AnalystOrchestrator.graphPayload store tx) = .ok request ∧
      request.observed = observedTransaction store tx ∧ request.ccNum = tx.ccNum :=
  ⟨_, dif_pos ⟨tx.ccNum.property, tx.amount.property⟩, rfl, rfl⟩

namespace AnalystOrchestrator

variable (analyst : AnalystOrchestrator R) (views : GraphViews)

/-- Both graph calls of a score leave its transaction observed. -/
theorem exec_graphScore (store : ProfileStore) (tx : TransactionInput) (world : GraphStore × R) :
    Effect.exec ((analyst.withGraphEngine views).client.graphScore (graphPayload store tx))
        world =
      (views.networkContext (world.1.observe (observedTransaction store tx)) tx.ccNum.val,
        (world.1.observe (observedTransaction store tx), world.2)) := by
  obtain ⟨request, hrequest, hobserved, hcustomer⟩ := toObserveRequest_graphPayload store tx
  simp only [withGraphEngine, PipelineClient.withGraphEngine, Effect.exec_onPart, hrequest,
    Effect.exec_bind_ok (Effect.exec_lift _ _), exec_scoreEndpoint, hobserved, hcustomer]

theorem graphObserve_world (store : ProfileStore) (tx : TransactionInput)
    (world : GraphStore × R) :
    (Effect.exec ((analyst.withGraphEngine views).client.graphObserve (graphPayload store tx))
      world).2 = (world.1.observe (observedTransaction store tx), world.2) := by
  obtain ⟨request, hrequest, hobserved, _⟩ := toObserveRequest_graphPayload store tx
  simp only [withGraphEngine, PipelineClient.withGraphEngine, Effect.exec_onPart, hrequest,
    Effect.exec_bind_ok (Effect.exec_lift _ _), ← hobserved]
  rfl

theorem afterGraph_world (store : ProfileStore) (tx : TransactionInput) (world : GraphStore × R) :
    (analyst.withGraphEngine views).afterGraph (graphPayload store tx) world =
      (world.1.observe (observedTransaction store tx), world.2) := by
  simp only [afterGraph, exec_graphScore]
  split_ifs <;> rfl

variable {analyst views} {pipeline : Pipeline (GraphStore × R)} {tx : TransactionInput}

/-- A completed score leaves its transaction in the graph, and the graph as it was
otherwise. -/
theorem ScoreRun.final_graph (run : (analyst.withGraphEngine views).ScoreRun pipeline tx) :
    run.final.world.1 = pipeline.world.1.observe (observedTransaction pipeline.store tx) := by
  have hsupervised : run.afterSupervised.1 = pipeline.world.1 :=
    congrArg (fun exec => exec.2.1) run.supervised_eq.symm
  have hanomaly : run.afterAnomaly.1 = run.afterSupervised.1 :=
    congrArg (fun exec => exec.2.1) run.anomaly_eq.symm
  have hnetwork : run.afterNetwork.1 =
      run.afterAnomaly.1.observe (observedTransaction pipeline.store tx) := by
    have heq := run.network_eq
    rw [exec_scoreNetwork, afterGraph_world] at heq
    exact congrArg (fun exec => exec.2.world.1) heq.symm
  have hfusion : run.afterFusion.1 = run.afterNetwork.1 :=
    congrArg (fun exec => exec.2.1) run.fusion_call.symm
  have hdecision : run.afterDecision.1 = run.afterFusion.1 :=
    congrArg (fun exec => exec.2.1) run.decision_call.symm
  have hfinal : run.final.world = (run.afterDecision.1.observe
      (observedTransaction pipeline.store tx), run.afterDecision.2) :=
    analyst.graphObserve_world views pipeline.store tx run.afterDecision
  rw [hfinal, hdecision, hfusion, hnetwork, hanomaly, hsupervised]
  exact GraphStore.observe_observe _ _

/-- A fresh score that raises leaves store and graph; one that passes its own checks
adds its transaction to both. -/
theorem score_effect (hfresh : pipeline.scored tx.transactionId.val = none)
    (hcalls : ∀ inputs, (analyst.withGraphEngine views).buildInputs pipeline.store tx =
      .ok inputs → (analyst.withGraphEngine views).CallsSucceed pipeline tx inputs.features) :
    let after := (Effect.exec ((analyst.withGraphEngine views).score tx) pipeline).2
    ((∃ e, (analyst.withGraphEngine views).precheck pipeline.store tx = .error e) ∧
      after.store = pipeline.store ∧ after.world.1 = pipeline.world.1) ∨
    ((∃ report, (analyst.withGraphEngine views).precheck pipeline.store tx = .ok report) ∧
      (∃ decision, after.store =
        pipeline.store.addTransaction (storedTransaction tx decision)) ∧
      after.world.1 = pipeline.world.1.observe (observedTransaction pipeline.store tx)) := by
  rw [exec_score_fresh _ hfresh]
  rcases scoreFresh_cases _ pipeline tx hcalls with ⟨e, hinputs, hexec⟩ |
    ⟨inputs, e, hinputs, hdrift, hexec⟩ | ⟨inputs, report, hinputs, hdrift, ⟨run⟩⟩
  · left
    rw [hexec, precheck, hinputs]
    exact ⟨⟨e, rfl⟩, rfl, rfl⟩
  · left
    rw [hexec, precheck, hinputs, Py.ok_bind, hdrift]
    exact ⟨⟨e, rfl⟩, rfl, rfl⟩
  · right
    rw [run.exec_scoreFresh, precheck, hinputs, Py.ok_bind, hdrift]
    exact ⟨⟨report, rfl⟩, ⟨_, rfl⟩, run.final_graph⟩

end AnalystOrchestrator

/-- Every customer with a confirmed-fraud verdict and a scored transaction is flagged. -/
def FraudFlagged (pipeline : Pipeline (GraphStore × R)) : Prop :=
  ∀ customer, pipeline.store.hasConfirmedFraud customer = true →
    pipeline.store.transactions customer ≠ [] → pipeline.world.1.isFlagged customer = true

/-- Where a call keeps that: a confirmed-fraud verdict on a customer without scored
transaction or flagged already, and the score of a confirmed customer, unless it is
flagged already, under a transaction id the graph has not seen. -/
def KeepsFlags (analyst : AnalystOrchestrator (GraphStore × R))
    (pipeline : Pipeline (GraphStore × R)) : AnalystCall → Prop
  | .score tx =>
    pipeline.scored tx.transactionId.val = none →
    (∃ report, analyst.precheck pipeline.store tx = .ok report) →
    pipeline.store.hasConfirmedFraud tx.ccNum.val = true →
      pipeline.world.1.knows tx.transactionId.val = false ∨
        pipeline.world.1.isFlagged tx.ccNum.val = true
  | .submitFeedback feedback _ =>
    isConfirmedFraud feedback.analystDecision.val = true →
      pipeline.store.transactions feedback.ccNum.val = [] ∨
        pipeline.world.1.isFlagged feedback.ccNum.val = true

/-- The calls of a score that is not retained yet succeed. -/
def ScoreCallsSucceed {W : Type} (analyst : AnalystOrchestrator W) (pipeline : Pipeline W) :
    AnalystCall → Prop
  | .score tx => pipeline.scored tx.transactionId.val = none → ∀ inputs,
    analyst.buildInputs pipeline.store tx = .ok inputs →
      analyst.CallsSucceed pipeline tx inputs.features
  | .submitFeedback _ _ => True

theorem ProfileStore.hasConfirmedFraud_record (store : ProfileStore) (verdict : StoredFeedback)
    (customer : ℕ) :
    (store.recordFeedback verdict).hasConfirmedFraud customer = true ↔
      store.hasConfirmedFraud customer = true ∨
        (customer = verdict.ccNum ∧ isConfirmedFraud verdict.analystDecision = true) := by
  by_cases hcustomer : verdict.ccNum = customer
  · simp [hasConfirmedFraud, feedbackForCustomer, recordFeedback, hcustomer]
  · simp [hasConfirmedFraud, feedbackForCustomer, recordFeedback, hcustomer, Ne.symm hcustomer]

theorem ProfileStore.transactions_add_ne_nil (store : ProfileStore) (tx : StoredTransaction) :
    (store.addTransaction tx).transactions tx.ccNum ≠ [] := by
  simp [addTransaction]

variable (analyst : AnalystOrchestrator R) (views : GraphViews)

theorem fraudFlagged_score_iff {pipeline : Pipeline (GraphStore × R)}
    (hflagged : FraudFlagged pipeline)
    (tx : TransactionInput)
    (hcalls : ScoreCallsSucceed (analyst.withGraphEngine views) pipeline (.score tx)) :
    FraudFlagged ((analystMachine (analyst.withGraphEngine views)).next pipeline (.score tx)) ↔
      KeepsFlags (analyst.withGraphEngine views) pipeline (.score tx) := by
  have hnext : (analystMachine (analyst.withGraphEngine views)).next pipeline (.score tx) =
      (Effect.exec ((analyst.withGraphEngine views).score tx) pipeline).2 := rfl
  rw [hnext]
  cases hretained : pipeline.scored tx.transactionId.val with
  | some response =>
    rw [AnalystOrchestrator.exec_score_retained _ hretained]
    refine iff_of_true hflagged ?_
    intro hfresh
    rw [hretained] at hfresh
    cases hfresh
  | none =>
    rcases AnalystOrchestrator.score_effect hretained (hcalls hretained) with
      ⟨⟨e, hprecheck⟩, hstore, hgraph⟩ | ⟨hprecheck, ⟨decision, hstore⟩, hgraph⟩
    · refine iff_of_true ?_ ?_
      · unfold FraudFlagged
        rw [hstore, hgraph]
        exact hflagged
      · rintro _ ⟨report, hreport⟩
        rw [hprecheck] at hreport
        cases hreport
    · unfold FraudFlagged
      rw [hstore, hgraph]
      constructor
      · intro hafter _ _ hconfirmed
        have hself := hafter tx.ccNum.val hconfirmed
          (ProfileStore.transactions_add_ne_nil _
            (AnalystOrchestrator.storedTransaction tx decision))
        rcases (GraphStore.isFlagged_observe _ _ _).mp hself with hold | ⟨_, hnew, _⟩
        · exact .inr hold
        · exact .inl hnew
      · intro hkeeps customer hconfirmed hscored
        rw [GraphStore.isFlagged_observe]
        by_cases hcustomer : customer = tx.ccNum.val
        · subst hcustomer
          rcases hkeeps hretained hprecheck hconfirmed with hnew | hold
          · exact .inr ⟨rfl, hnew, hconfirmed⟩
          · exact .inl hold
        · left
          apply hflagged customer hconfirmed
          simpa [ProfileStore.addTransaction, AnalystOrchestrator.storedTransaction,
            Function.update_of_ne hcustomer] using hscored

/-- A verdict reaches the profile store and not the graph. -/
theorem fraudFlagged_feedback_iff {pipeline : Pipeline (GraphStore × R)}
    (hflagged : FraudFlagged pipeline) (feedback : FeedbackInput) (received : DateTime) :
    FraudFlagged ((analystMachine (analyst.withGraphEngine views)).next pipeline
        (.submitFeedback feedback received)) ↔
      KeepsFlags (analyst.withGraphEngine views) pipeline
        (.submitFeedback feedback received) := by
  set after := (analystMachine (analyst.withGraphEngine views)).next pipeline
    (.submitFeedback feedback received) with hafter
  have hstore : after.store = pipeline.store.recordFeedback
      (AnalystOrchestrator.storedFeedback feedback received) := rfl
  have hgraph : after.world.1 = pipeline.world.1 := rfl
  clear_value after
  unfold FraudFlagged
  rw [hstore, hgraph]
  constructor
  · intro hall hconfirmed
    by_cases hempty : pipeline.store.transactions feedback.ccNum.val = []
    · exact .inl hempty
    · exact .inr (hall feedback.ccNum.val
        ((ProfileStore.hasConfirmedFraud_record _ _ _).mpr (.inr ⟨rfl, hconfirmed⟩)) hempty)
  · intro hkeeps customer hconfirmed hscored
    rcases (ProfileStore.hasConfirmedFraud_record _ _ _).mp hconfirmed with hold | ⟨rfl, hnew⟩
    · exact hflagged customer hold hscored
    · rcases hkeeps hnew with hempty | hflag
      · exact absurd hempty hscored
      · exact hflag

/-- From an empty profile store and any graph: confirmed fraud is flagged in every
reached state exactly when every call of the run keeps the flags. -/
theorem fraudFlagged_iff (graph : GraphStore) (rest : R) (calls : List AnalystCall)
    (hcalls : ∀ event ∈ (analystMachine (analyst.withGraphEngine views)).trace
      { world := (graph, rest) } calls,
      ScoreCallsSucceed (analyst.withGraphEngine views) event.before event.call) :
    (∀ event ∈ (analystMachine (analyst.withGraphEngine views)).trace
      { world := (graph, rest) } calls, FraudFlagged event.after) ↔
    ∀ event ∈ (analystMachine (analyst.withGraphEngine views)).trace
      { world := (graph, rest) } calls,
      KeepsFlags (analyst.withGraphEngine views) event.before event.call := by
  apply Machine.invariant_iff_guarded
  · intro customer hconfirmed
    simp [ProfileStore.hasConfirmedFraud, ProfileStore.feedbackForCustomer] at hconfirmed
  · intro event hevent hbefore
    have hsucceed := hcalls event hevent
    obtain ⟨made, call, later, -, rfl⟩ := (Machine.mem_trace_iff _ _ _ _).mp hevent
    cases call with
    | score tx => exact fraudFlagged_score_iff analyst views hbefore tx hsucceed
    | submitFeedback feedback received =>
      exact fraudFlagged_feedback_iff analyst views hbefore feedback received

/-- The engine's answers for a customer alone at its one merchant. -/
def isolatedViews : GraphViews where
  networkContext := fun _ _ => .ok
    [("transaction_id", .str "t1"), ("cc_num", .int 1), ("network_risk_score", .float 0),
      ("available", .bool false), ("findings", .arr []),
      ("features", .obj [("merchant_degree", .int 1), ("merchant_fan_in", .int 0),
        ("shared_counterparty_count", .int 0), ("co_occurrence_count", .int 0),
        ("flagged_neighbor_count", .int 0), ("flagged_exposure", .float 0),
        ("cluster_size", .int 1), ("cluster_flagged_ratio", .float 0)]),
      ("ego", .obj [
        ("nodes", .arr [
          .obj [("id", .str "c:1"), ("kind", .str "customer"), ("label", .str "1"),
            ("status", .str "self")],
          .obj [("id", .str "m:m"), ("kind", .str "merchant"), ("label", .str "m"),
            ("status", .str "normal")]]),
        ("edges", .arr [
          .obj [("from", .str "c:1"), ("to", .str "m:m"), ("weight", .float 80)]])])]
  community := fun _ _ => .ok []

def lowRiskAnalyst : AnalystOrchestrator Unit where
  client := (answeringClient [("fraud_probability", .float (1 / 10))]
    [("anomaly_score", .float (1 / 10))] []).withEngines "0"
  platform := Platform.atNoon

/-- A score, and after it the verdict that confirms fraud on the transaction. -/
def lateVerdict : List AnalystCall :=
  [.score noonTx,
    .submitFeedback
      { transactionId := noonTx.transactionId
        ccNum := noonTx.ccNum
        analystDecision := confirmedFraud } noon]

theorem lowRiskAnalyst_weight :
    0 < (lowRiskAnalyst.withGraphEngine isolatedViews).settings.networkFusionWeight ∧
      (lowRiskAnalyst.withGraphEngine isolatedViews).settings.networkFusionWeight ≤ 1 := by
  have hweight : (lowRiskAnalyst.withGraphEngine isolatedViews).settings.networkFusionWeight =
      2 / 10 := rfl
  rw [hweight]
  norm_num

theorem isolatedViews_inRange (store : GraphStore) (customer : ℕ) :
    (readGraph Platform.atNoon (isolatedViews.networkContext store customer)).InRange where
  risk_bounds := by
    have hrisk : (readGraph Platform.atNoon (isolatedViews.networkContext store customer)).risk =
        0 := rfl
    rw [hrisk]
    norm_num
  findings_texts := fun finding hfinding => absurd hfinding List.not_mem_nil
  ego_object := ⟨_, rfl⟩

theorem lateVerdict_succeeds :
    ∀ event ∈ (analystMachine (lowRiskAnalyst.withGraphEngine isolatedViews)).trace
      { world := ({}, ()) } lateVerdict,
      ScoreCallsSucceed (lowRiskAnalyst.withGraphEngine isolatedViews) event.before
        event.call := by
  intro event hevent
  simp only [lateVerdict, Machine.trace_cons, Machine.trace_nil, List.mem_cons,
    List.not_mem_nil, or_false] at hevent
  rcases hevent with rfl | rfl
  · intro _ inputs _
    have hrisk : (0 : ℚ) ≤ 1 / 10 ∧ (1 / 10 : ℚ) ≤ 1 := by norm_num
    exact
      { supervised := ⟨_, rfl, 1 / 10, rfl, hrisk⟩
        anomaly := ⟨_, rfl, 1 / 10, rfl, hrisk⟩
        graph := ⟨_, congrArg Prod.fst (lowRiskAnalyst.exec_graphScore isolatedViews _ _ _),
          isolatedViews_inRange {} 1⟩
        engines := AnalystOrchestrator.enginesSucceed _
          (PipelineClient.withEngines_withGraphEngine _ "0" _) lowRiskAnalyst_weight }
  · trivial

theorem fraudFlagged_iff_lateVerdict :
    (∀ event ∈ (analystMachine (lowRiskAnalyst.withGraphEngine isolatedViews)).trace
      { world := ({}, ()) } lateVerdict, FraudFlagged event.after) ↔
    ∀ event ∈ (analystMachine (lowRiskAnalyst.withGraphEngine isolatedViews)).trace
      { world := ({}, ()) } lateVerdict,
      KeepsFlags (lowRiskAnalyst.withGraphEngine isolatedViews) event.before event.call :=
  fraudFlagged_iff lowRiskAnalyst isolatedViews {} () lateVerdict lateVerdict_succeeds

/-- Every call succeeds, and the verdict comes after the customer's only score, so
nothing flags it. -/
theorem not_fraudFlagged_lateVerdict :
    (∀ event ∈ (analystMachine (lowRiskAnalyst.withGraphEngine isolatedViews)).trace
      { world := ({}, ()) } lateVerdict,
      ScoreCallsSucceed (lowRiskAnalyst.withGraphEngine isolatedViews) event.before
        event.call) ∧
    ¬ ∀ event ∈ (analystMachine (lowRiskAnalyst.withGraphEngine isolatedViews)).trace
      { world := ({}, ()) } lateVerdict, FraudFlagged event.after := by
  refine ⟨lateVerdict_succeeds, ?_⟩
  intro hall
  have hsucceed := lateVerdict_succeeds
  simp only [lateVerdict, Machine.trace_cons, Machine.trace_nil, List.forall_mem_cons]
    at hall hsucceed
  obtain ⟨hscored, hverdict, -⟩ := hall
  have hkeeps := (fraudFlagged_feedback_iff lowRiskAnalyst isolatedViews hscored _ _).mp hverdict
    (by decide)
  rcases AnalystOrchestrator.score_effect rfl (hsucceed.1 rfl) with
    ⟨⟨e, hprecheck⟩, _⟩ | ⟨_, ⟨decision, hstore⟩, hgraph⟩
  · rw [AnalystOrchestrator.precheck_of_no_history _ rfl rfl] at hprecheck
    cases hprecheck
  · rcases hkeeps with hempty | hflag
    · have hadded := hempty.symm.trans
        (congrArg (fun store : ProfileStore => store.transactions 1) hstore)
      exact ProfileStore.transactions_add_ne_nil _ _ hadded.symm
    · have hgraphFlag := hflag.symm.trans
        (congrArg (fun graph : GraphStore => graph.isFlagged 1) hgraph)
      exact absurd hgraphFlag (by decide)

end VeriPay.AnalystApi
