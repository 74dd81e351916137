import VeriPay.Lib.Machine
import VeriPay.AnalystApi.Atomicity
import VeriPay.AnalystApi.Explain

/-!
The books of the pipeline: what is recorded, retained, alerted and looked up. Scores,
explanations and verdicts change them at one point only, where a score completes, and
there all of them together; so they agree in every state a run reaches, whichever
calls fail.
-/

namespace VeriPay.AnalystApi

open Lib AnalystOrchestrator

inductive PipelineCall
  | score (tx : TransactionInput)
  | explain (tx : TransactionInput)
  | submitFeedback (feedback : FeedbackInput) (received : DateTime)

inductive PipelineAnswer
  | score (answer : Py ScoreResponse)
  | explain (answer : Py ExplainResponse)
  | submitFeedback (answer : Py FeedbackResult)

def pipelineMachine {W : Type} (analyst : AnalystOrchestrator W) :
    Machine (Pipeline W) PipelineCall PipelineAnswer where
  step := fun pipeline call =>
    match call with
    | .score tx =>
      let (answer, pipeline') := Effect.exec (analyst.score tx) pipeline
      (.score answer, pipeline')
    | .explain tx =>
      let (answer, pipeline') := Effect.exec (analyst.explain tx) pipeline
      (.explain answer, pipeline')
    | .submitFeedback feedback received =>
      let (answer, pipeline') :=
        Effect.exec (analyst.submitFeedback feedback received) pipeline
      (.submitFeedback answer, pipeline')

variable {W : Type} {analyst : AnalystOrchestrator W} {pipeline pipeline' : Pipeline W}

/-- The histories, the retained scores, the alerts and the lookup are the same. -/
structure SameBooks (pipeline pipeline' : Pipeline W) : Prop where
  transactions : pipeline'.store.transactions = pipeline.store.transactions
  customerByTx : pipeline'.store.customerByTx = pipeline.store.customerByTx
  scored : pipeline'.scored = pipeline.scored
  lookupByCustomer : pipeline'.lookupByCustomer = pipeline.lookupByCustomer
  alerts : pipeline'.alerts = pipeline.alerts

namespace AnalystOrchestrator

/-- Past its score, an explanation only retains itself. -/
theorem explainScored_books (analyst : AnalystOrchestrator W) (pipeline : Pipeline W)
    (tx : TransactionInput) (score : ScoreResponse) :
    SameBooks pipeline (Effect.exec (analyst.explainScored tx score) pipeline).2 := by
  rw [explainScored, Effect.exec_bind_ok (Effect.exec_get _)]
  cases pipeline.store.history tx.ccNum.val with
  | error e => exact ⟨rfl, rfl, rfl, rfl, rfl⟩
  | ok history =>
    rw [Effect.exec_bind_ok (Effect.exec_lift _ _), Effect.exec_bind]
    rcases hcall : Effect.exec (Pipeline.call (analyst.client.investigate
      (investigatePayload tx score (history.filter fun h => h.transactionId ≠ tx.transactionId))))
      pipeline with ⟨answer, after⟩
    have hafter : after = { pipeline with world := after.world } := by
      rw [Pipeline.call, Effect.exec_onPart] at hcall
      obtain ⟨-, hworld⟩ := Prod.mk.inj hcall
      rw [← hworld]
    rw [hafter]
    cases answer with
    | error e => exact ⟨rfl, rfl, rfl, rfl, rfl⟩
    | ok investigation => exact ⟨rfl, rfl, rfl, rfl, rfl⟩

/-- An explanation keeps the books its score leaves. -/
theorem explain_books (analyst : AnalystOrchestrator W) (pipeline : Pipeline W)
    (tx : TransactionInput) :
    SameBooks (Effect.exec (analyst.score tx) pipeline).2
      (Effect.exec (analyst.explain tx) pipeline).2 := by
  rw [explain, Effect.exec_bind]
  rcases Effect.exec (analyst.score tx) pipeline with ⟨answer, after⟩
  cases answer with
  | error e => exact ⟨rfl, rfl, rfl, rfl, rfl⟩
  | ok score => exact analyst.explainScored_books after tx score

/-- What the services return is well-typed and within its declared ranges; any of them
may raise. -/
structure AnswersDeclared (analyst : AnalystOrchestrator W) : Prop where
  supervised : ∀ id features w answer,
    (Effect.exec (analyst.client.supervisedScore id features) w).1 = .ok answer →
      JsonInUnit analyst.platform answer "fraud_probability"
  anomaly : ∀ id features w answer,
    (Effect.exec (analyst.client.anomalyScore id features) w).1 = .ok answer →
      JsonInUnit analyst.platform answer "anomaly_score"
  graph : ∀ payload w answer,
    (Effect.exec (analyst.client.graphScore payload) w).1 = .ok answer →
      (readGraph analyst.platform (.ok answer)).InRange
  fusion : ∀ id components w answer,
    (Effect.exec (analyst.client.fuseRisk id components) w).1 = .ok answer →
      ∃ fusion, readFusion analyst.platform answer = .ok fusion ∧
        0 ≤ fusion.unified ∧ fusion.unified ≤ 100

/-- Such answers always make a response. -/
theorem ScoreStages.response_of_declared {tx : TransactionInput}
    (stages : analyst.ScoreStages pipeline tx) (h : analyst.AnswersDeclared) :
    ∃ response, analyst.buildResponse tx stages.inputs stages.scores stages.adjusted
      stages.network stages.fusion stages.decision = .ok response := by
  obtain ⟨hfraud, hanomaly⟩ := stages.adjusted_bounds
  have hscores : stages.scores.InRange := by
    obtain ⟨scores, hscores, hrange⟩ := readModelScores_inRange
      (h.supervised _ _ _ _ (congrArg Prod.fst stages.supervised_eq))
      (h.anomaly _ _ _ _ (congrArg Prod.fst stages.anomaly_eq))
    rw [stages.scores_eq] at hscores
    rwa [← Except.ok.inj hscores] at hrange
  have hnetwork : stages.network.InRange := by
    rw [stages.network_eq_readGraph]
    cases hanswer : (Effect.exec (analyst.client.graphScore (graphPayload pipeline.store tx))
        stages.afterAnomaly).1 with
    | error e => exact ⟨⟨le_rfl, zero_le_one⟩, by simp [readGraph], none, rfl⟩
    | ok answer => exact h.graph _ _ _ hanswer
  have hunified : 0 ≤ stages.fusion.unified ∧ stages.fusion.unified ≤ 100 := by
    obtain ⟨fusion, hfusion, hrange⟩ := h.fusion _ _ _ _ (congrArg Prod.fst stages.fusion_call)
    rw [stages.fusion_eq] at hfusion
    rwa [← Except.ok.inj hfusion] at hrange
  exact analyst.buildResponse_ok tx stages.inputs stages.decision hscores hfraud hanomaly
    hnetwork hunified

/-- The books change only where a score of a new transaction completes. -/
theorem score_books (h : analyst.AnswersDeclared) (pipeline : Pipeline W)
    (tx : TransactionInput) :
    SameBooks pipeline (Effect.exec (analyst.score tx) pipeline).2 ∨
      pipeline.scored tx.transactionId.val = none ∧ ∃ run : analyst.ScoreRun pipeline tx,
        (Effect.exec (analyst.score tx) pipeline).2 = run.final := by
  have houtcome := score_outcome analyst pipeline tx
  generalize Effect.exec (analyst.score tx) pipeline = outcome at houtcome ⊢
  cases houtcome with
  | retained hretained => exact Or.inl ⟨rfl, rfl, rfl, rfl, rfl⟩
  | stopped hfresh e world => exact Or.inl ⟨rfl, rfl, rfl, rfl, rfl⟩
  | rejected hfresh stages hresponse =>
    obtain ⟨response, hok⟩ := stages.response_of_declared h
    rw [hok] at hresponse
    cases hresponse
  | completed hfresh run => exact Or.inr ⟨hfresh, run, rfl⟩

end AnalystOrchestrator

/-- How often the customer's history names the transaction. -/
def ProfileStore.occurrences (store : ProfileStore) (customer : ℕ) (id : String) : ℕ :=
  (store.transactions customer).countP fun tx => tx.transactionId.val = id

/-- How often it should: once in the history of the customer it is recorded for. -/
def occurrencesDue (owner : Option ℕ) (customer : ℕ) : ℕ :=
  if owner = some customer then 1 else 0

/-- How many alerts a result owes: one unless it passed. -/
def alertsDue : Option ScoreResponse → ℕ
  | none => 0
  | some response => if response.decision = .pass then 0 else 1

/-- The books agree: a transaction is retained when it is recorded, then once, in the
history of one customer, with the alert it owes; and a lookup names a retained result of
its customer. -/
structure Bookkept (pipeline : Pipeline W) : Prop where
  retained_iff_recorded : ∀ id,
    pipeline.scored id ≠ none ↔ pipeline.store.customerByTx id ≠ none
  recorded_once : ∀ id customer, pipeline.store.occurrences customer id =
    occurrencesDue (pipeline.store.customerByTx id) customer
  alerts_due : ∀ id, (pipeline.alerts.countP fun alert => alert.transactionId.val = id) =
    alertsDue (pipeline.scored id)
  lookup_retained : ∀ customer id, pipeline.lookupByCustomer customer = some id →
    ∃ response, pipeline.scored id = some response ∧ response.ccNum = customer

theorem bookkept_empty (world : W) : Bookkept ({ world } : Pipeline W) where
  retained_iff_recorded := by simp
  recorded_once := by simp [ProfileStore.occurrences, occurrencesDue]
  alerts_due := by simp [alertsDue]
  lookup_retained := by simp

theorem SameBooks.bookkept (hsame : SameBooks pipeline pipeline') (h : Bookkept pipeline) :
    Bookkept pipeline' where
  retained_iff_recorded := by
    rw [hsame.scored, hsame.customerByTx]
    exact h.retained_iff_recorded
  recorded_once := by
    unfold ProfileStore.occurrences
    rw [hsame.transactions, hsame.customerByTx]
    exact h.recorded_once
  alerts_due := by
    rw [hsame.alerts, hsame.scored]
    exact h.alerts_due
  lookup_retained := by
    rw [hsame.lookupByCustomer, hsame.scored]
    exact h.lookup_retained

theorem occurrences_addTransaction (store : ProfileStore) (tx : StoredTransaction)
    (customer : ℕ) (id : String) :
    (store.addTransaction tx).occurrences customer id = store.occurrences customer id +
      if customer = tx.ccNum ∧ tx.transactionId.val = id then 1 else 0 := by
  unfold ProfileStore.occurrences
  by_cases hcustomer : customer = tx.ccNum
  · subst hcustomer
    rw [ProfileStore.transactions_addTransaction_self, List.countP_append]
    simp [List.countP_singleton]
  · rw [store.transactions_addTransaction_of_ne hcustomer, if_neg (fun h => hcustomer h.1),
      Nat.add_zero]

/-- Where a score of a new transaction completes, all the books change together. -/
theorem AnalystOrchestrator.ScoreRun.final_bookkept {tx : TransactionInput}
    (run : analyst.ScoreRun pipeline tx) (hfresh : pipeline.scored tx.transactionId.val = none)
    (h : Bookkept pipeline) : Bookkept run.final := by
  obtain ⟨hid, hcustomer, -⟩ := analyst.buildResponse_fields run.response_eq
  have hunrecorded : pipeline.store.customerByTx tx.transactionId.val = none := by
    by_contra hrecorded
    exact (h.retained_iff_recorded _).mpr hrecorded hfresh
  refine ⟨?_, ?_, ?_, ?_⟩
  · intro id
    have hbefore := h.retained_iff_recorded id
    simp only [ScoreRun.final, Pipeline.retain, ProfileStore.addTransaction, storedTransaction, hid]
    by_cases hsame : id = tx.transactionId.val
    · subst hsame
      simp
    · simpa [Function.update_of_ne hsame] using hbefore
  · intro id customer
    have hbefore := h.recorded_once id customer
    simp only [ScoreRun.final, Pipeline.retain, occurrences_addTransaction,
      ProfileStore.customerByTx_addTransaction, storedTransaction]
    by_cases hsame : id = tx.transactionId.val
    · subst hsame
      rw [hunrecorded] at hbefore
      rw [hbefore, Function.update_self]
      simp [occurrencesDue, eq_comm]
    · rw [Function.update_of_ne hsame, hbefore, if_neg (fun hnew => hsame hnew.2.symm),
        Nat.add_zero]
  · intro id
    have hbefore := h.alerts_due id
    simp only [ScoreRun.final, Pipeline.retain, hid]
    by_cases hsame : id = tx.transactionId.val
    · subst hsame
      rw [hfresh] at hbefore
      rw [Function.update_self]
      simp only [alertsDue]
      split_ifs with hpass
      · exact hbefore
      · rw [List.countP_append, hbefore]
        simp [alertsDue, AnalystOrchestrator.alertItem]
    · rw [Function.update_of_ne hsame, ← hbefore]
      split_ifs with hpass
      · rfl
      · rw [List.countP_append]
        simp [AnalystOrchestrator.alertItem, Ne.symm hsame]
  · intro customer id hlookup
    simp only [ScoreRun.final, Pipeline.retain, hid, hcustomer] at hlookup ⊢
    by_cases hnamed : customer = tx.ccNum.val
    · subst hnamed
      rw [Function.update_self] at hlookup
      cases hlookup
      exact ⟨run.response, Function.update_self .., hcustomer⟩
    · rw [Function.update_of_ne hnamed] at hlookup
      obtain ⟨response, hresponse, hnames⟩ := h.lookup_retained customer id hlookup
      have hother : id ≠ tx.transactionId.val := by
        intro heq
        rw [heq, hfresh] at hresponse
        cases hresponse
      exact ⟨response, by rw [Function.update_of_ne hother, hresponse], hnames⟩

/-- A step keeps the books, or completes the score of a new transaction. -/
theorem next_books (h : analyst.AnswersDeclared) (pipeline : Pipeline W) (call : PipelineCall) :
    SameBooks pipeline ((pipelineMachine analyst).next pipeline call) ∨
      ∃ tx, pipeline.scored tx.transactionId.val = none ∧
        ∃ run : analyst.ScoreRun pipeline tx,
          SameBooks run.final ((pipelineMachine analyst).next pipeline call) := by
  cases call with
  | score tx =>
    rcases analyst.score_books h pipeline tx with hsame | hrun
    · exact Or.inl hsame
    · obtain ⟨hfresh, run, hfinal⟩ := hrun
      exact Or.inr ⟨tx, hfresh, run, by rw [← hfinal]; exact ⟨rfl, rfl, rfl, rfl, rfl⟩⟩
  | explain tx =>
    have hexplain := analyst.explain_books pipeline tx
    rcases analyst.score_books h pipeline tx with hsame | hrun
    · left
      exact ⟨hexplain.transactions.trans hsame.transactions,
        hexplain.customerByTx.trans hsame.customerByTx, hexplain.scored.trans hsame.scored,
        hexplain.lookupByCustomer.trans hsame.lookupByCustomer,
        hexplain.alerts.trans hsame.alerts⟩
    · obtain ⟨hfresh, run, hfinal⟩ := hrun
      rw [hfinal] at hexplain
      exact Or.inr ⟨tx, hfresh, run, hexplain⟩
  | submitFeedback feedback received => exact Or.inl ⟨rfl, rfl, rfl, rfl, rfl⟩

theorem next_bookkept (h : analyst.AnswersDeclared) {pipeline : Pipeline W}
    (hbooks : Bookkept pipeline) (call : PipelineCall) :
    Bookkept ((pipelineMachine analyst).next pipeline call) := by
  rcases next_books h pipeline call with hsame | hrun
  · exact hsame.bookkept hbooks
  · obtain ⟨tx, hfresh, run, hsame⟩ := hrun
    exact hsame.bookkept (run.final_bookkept hfresh hbooks)

/-- A retained score is not replaced by a step. -/
theorem next_retained (h : analyst.AnswersDeclared) {pipeline : Pipeline W} {id : String}
    {response : ScoreResponse} (hretained : pipeline.scored id = some response)
    (call : PipelineCall) :
    ((pipelineMachine analyst).next pipeline call).scored id = some response := by
  rcases next_books h pipeline call with hsame | hrun
  · rw [hsame.scored, hretained]
  · obtain ⟨tx, hfresh, run, hsame⟩ := hrun
    obtain ⟨hid, -⟩ := analyst.buildResponse_fields run.response_eq
    have hother : id ≠ tx.transactionId.val := by
      intro heq
      rw [heq, hfresh] at hretained
      cases hretained
    rw [hsame.scored]
    simp only [AnalystOrchestrator.ScoreRun.final, Pipeline.retain, hid]
    rw [Function.update_of_ne hother, hretained]

theorem run_retained (h : analyst.AnswersDeclared) {pipeline : Pipeline W} {id : String}
    {response : ScoreResponse} (hretained : pipeline.scored id = some response)
    (calls : List PipelineCall) :
    ((pipelineMachine analyst).run pipeline calls).scored id = some response := by
  induction calls generalizing pipeline with
  | nil => exact hretained
  | cons call rest ih => exact ih (next_retained h hretained call)

/-- In every state a run reaches the books agree, and a score retained on the way there
is retained as it was. -/
theorem run_books (analyst : AnalystOrchestrator W) (h : analyst.AnswersDeclared) (world : W)
    (calls : List PipelineCall) :
    Bookkept ((pipelineMachine analyst).run { world } calls) ∧
      ∀ earlier later, calls = earlier ++ later → ∀ id response,
        ((pipelineMachine analyst).run { world } earlier).scored id = some response →
          ((pipelineMachine analyst).run { world } calls).scored id = some response := by
  constructor
  · refine Machine.run_history_invariant _ (P := fun _ pipeline => Bookkept pipeline)
      (bookkept_empty world) calls ?_
    intro pre call post _ hbooks
    exact next_bookkept h hbooks call
  · intro earlier later hcalls id response hretained
    rw [hcalls, Machine.run_append]
    exact run_retained h hretained later

section Retained

/-- Every retained score has the property. -/
def AllRetained (P : ScoreResponse → Prop) (pipeline : Pipeline W) : Prop :=
  ∀ id response, pipeline.scored id = some response → P response

variable {P : ScoreResponse → Prop}

theorem AllRetained.mono {Q : ScoreResponse → Prop} (h : AllRetained P pipeline)
    (himp : ∀ response, P response → Q response) : AllRetained Q pipeline :=
  fun id response hresponse => himp response (h id response hresponse)

/-- What a score completed here has, a score returns and retains only with it. -/
theorem score_allRetained {tx : TransactionInput}
    (hruns : ∀ run : analyst.ScoreRun pipeline tx, P run.response)
    (h : AllRetained P pipeline) :
    AllRetained P (Effect.exec (analyst.score tx) pipeline).2 ∧
      ∀ response, (Effect.exec (analyst.score tx) pipeline).1 = .ok response → P response := by
  have houtcome := score_outcome analyst pipeline tx
  generalize Effect.exec (analyst.score tx) pipeline = outcome at houtcome ⊢
  cases houtcome with
  | retained hretained =>
    refine ⟨h, ?_⟩
    intro response hresponse
    cases hresponse
    exact h _ _ hretained
  | stopped hfresh e world => exact ⟨h, by simp⟩
  | rejected hfresh stages hresponse => exact ⟨h, by simp⟩
  | completed hfresh run =>
    have hrun := hruns run
    refine ⟨?_, ?_⟩
    · intro id response hresponse
      simp only [ScoreRun.final, Pipeline.retain] at hresponse
      by_cases hid : id = run.response.transactionId.val
      · rw [hid, Function.update_self] at hresponse
        cases hresponse
        exact hrun
      · rw [Function.update_of_ne hid] at hresponse
        exact h id response hresponse
    · intro response hresponse
      cases hresponse
      exact hrun

theorem next_allRetained
    (hruns : ∀ (tx : TransactionInput) (run : analyst.ScoreRun pipeline tx), P run.response)
    (h : AllRetained P pipeline) (call : PipelineCall) :
    AllRetained P ((pipelineMachine analyst).next pipeline call) := by
  cases call with
  | score tx => exact (score_allRetained (hruns tx) h).1
  | explain tx =>
    intro id response hresponse
    refine (score_allRetained (hruns tx) h).1 id response ?_
    rwa [← (analyst.explain_books pipeline tx).scored]
  | submitFeedback feedback received => exact h

/-- The response of a score that completed at some point of the calls. -/
def ScoredAlong (analyst : AnalystOrchestrator W) (world : W) (calls : List PipelineCall)
    (response : ScoreResponse) : Prop :=
  ∃ earlier, earlier <+: calls ∧ ∃ tx,
    ∃ run : analyst.ScoreRun ((pipelineMachine analyst).run { world } earlier) tx,
      run.response = response

/-- What is retained was scored on the way. -/
theorem run_scoredAlong (world : W) (calls : List PipelineCall) :
    AllRetained (ScoredAlong analyst world calls)
      ((pipelineMachine analyst).run { world } calls) := by
  refine Machine.run_history_invariant _
    (P := fun past state => AllRetained (ScoredAlong analyst world past) state) ?_ calls ?_
  · intro id response hresponse
    cases hresponse
  · intro pre call post _ hretained
    refine next_allRetained ?_ (hretained.mono ?_) call
    · intro tx run
      exact ⟨pre, List.prefix_append pre [call], tx, run, rfl⟩
    · rintro response ⟨earlier, hearlier, hscored⟩
      exact ⟨earlier, hearlier.trans (List.prefix_append pre [call]), hscored⟩

/-- What a score returns was scored on the way, or just now. -/
theorem score_scoredAlong {world : W} {calls : List PipelineCall} {tx : TransactionInput}
    {response : ScoreResponse}
    (h : (Effect.exec (analyst.score tx) ((pipelineMachine analyst).run { world } calls)).1 =
      .ok response) : ScoredAlong analyst world calls response :=
  (score_allRetained (fun run => ⟨calls, List.prefix_rfl, tx, run, rfl⟩)
    (run_scoredAlong world calls)).2 response h

end Retained

theorem answeringFraud_declared {fraud : ℚ} (hfraud : 0 ≤ fraud ∧ fraud ≤ 1) :
    (answeringFraud fraud).AnswersDeclared where
  supervised := by
    intro id features w answer hanswer
    cases hanswer
    exact ⟨fraud, rfl, hfraud⟩
  anomaly := by
    intro id features w answer hanswer
    cases hanswer
    exact ⟨0, rfl, le_rfl, zero_le_one⟩
  graph := by
    intro payload w answer hanswer
    cases hanswer
    exact ⟨⟨le_rfl, zero_le_one⟩, by simp [readGraph, JsonObj.getD, Json.toFloat, Json.toList],
      none, rfl⟩
  fusion := by
    intro id components w answer hanswer
    cases hanswer
    exact ⟨⟨95, .block, .high⟩, rfl, by decide⟩

/-- A score and its explanation at noon. -/
theorem run_books_noon :
    Bookkept ((pipelineMachine (answeringFraud 0)).run { world := () }
        [.score noonTx, .explain noonTx]) ∧
      ∀ earlier later, [.score noonTx, .explain noonTx] = earlier ++ later → ∀ id response,
        ((pipelineMachine (answeringFraud 0)).run { world := () } earlier).scored id =
          some response →
        ((pipelineMachine (answeringFraud 0)).run { world := () }
          [.score noonTx, .explain noonTx]).scored id = some response :=
  run_books (answeringFraud 0) (answeringFraud_declared ⟨le_rfl, zero_le_one⟩) () _

end VeriPay.AnalystApi
