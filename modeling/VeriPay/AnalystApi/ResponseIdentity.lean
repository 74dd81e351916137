import VeriPay.AnalystApi.Clocks

/-!
Which request a response describes. Results are retained under the transaction's id
alone, so a response names the customer of the request it answers exactly where the
id, if it is retained already, is retained for that customer.
-/

namespace VeriPay.AnalystApi

open Lib AnalystOrchestrator

/-- A returned response names the customer of the request; an explanation does so with
the score it embeds. -/
def AnswersRequest : PipelineCall → PipelineAnswer → Prop
  | .score tx, .score (.ok response) => response.ccNum = tx.ccNum.val
  | .explain tx, .explain (.ok result) =>
    result.ccNum = tx.ccNum.val ∧ result.score.ccNum = tx.ccNum.val
  | _, _ => True

/-- The id is not retained for another customer. -/
def IdOfCustomer {W : Type} (pipeline : Pipeline W) : PipelineCall → Prop
  | .score tx => ∀ response, pipeline.scored tx.transactionId.val = some response →
    response.ccNum = tx.ccNum.val
  | .explain tx => ∀ response, pipeline.scored tx.transactionId.val = some response →
    response.ccNum = tx.ccNum.val
  | .submitFeedback _ _ => True

variable {W : Type} {analyst : AnalystOrchestrator W} {pipeline : Pipeline W}

/-- A score returns the retained response, or one of the request's own customer. -/
theorem score_names {tx : TransactionInput} {response : ScoreResponse}
    (h : (Effect.exec (analyst.score tx) pipeline).1 = .ok response) :
    pipeline.scored tx.transactionId.val = some response ∨
      pipeline.scored tx.transactionId.val = none ∧ response.ccNum = tx.ccNum.val := by
  have houtcome := score_outcome analyst pipeline tx
  generalize Effect.exec (analyst.score tx) pipeline = outcome at houtcome h
  cases houtcome with
  | retained hretained =>
    cases h
    exact Or.inl hretained
  | stopped hfresh e world => cases h
  | rejected hfresh stages hresponse => cases h
  | completed hfresh run =>
    cases h
    exact Or.inr ⟨hfresh, (analyst.buildResponse_fields run.response_eq).2.1⟩

theorem score_names_iff (analyst : AnalystOrchestrator W) (tx : TransactionInput) :
    (∀ response, (Effect.exec (analyst.score tx) pipeline).1 = .ok response →
      response.ccNum = tx.ccNum.val) ↔
      ∀ response, pipeline.scored tx.transactionId.val = some response →
        response.ccNum = tx.ccNum.val := by
  constructor
  · intro h response hretained
    refine h response ?_
    rw [analyst.exec_score_retained hretained]
  · intro h response hresponse
    rcases score_names hresponse with hretained | hfresh
    · exact h response hretained
    · exact hfresh.2

/-- An explanation that returns embeds what the score returned, under the request's own
customer. -/
theorem explain_ok {tx : TransactionInput} {result : ExplainResponse}
    (h : (Effect.exec (analyst.explain tx) pipeline).1 = .ok result) :
    result.ccNum = tx.ccNum.val ∧
      (Effect.exec (analyst.score tx) pipeline).1 = .ok result.score := by
  obtain ⟨score, hscore, h⟩ := Effect.exec_bind_fst_ok h
  obtain ⟨_, -, h⟩ := Effect.exec_bind_fst_ok h
  obtain ⟨history, -, h⟩ := Effect.exec_bind_fst_ok h
  obtain ⟨investigation, -, h⟩ := Effect.exec_bind_fst_ok h
  obtain ⟨_, -, h⟩ := Effect.exec_bind_fst_ok h
  cases h
  exact ⟨rfl, hscore⟩

/-- Where the investigation answers and the history sorts, a retained score is explained. -/
theorem explain_retained
    (hinvestigate : ∀ payload w, ∃ answer,
      (Effect.exec (analyst.client.investigate payload) w).1 = .ok answer)
    (hclocks : ClocksKept pipeline.store) {tx : TransactionInput} {response : ScoreResponse}
    (hretained : pipeline.scored tx.transactionId.val = some response) :
    ∃ result, (Effect.exec (analyst.explain tx) pipeline).1 = .ok result ∧
      result.score = response := by
  obtain ⟨history, hhistory⟩ := DateTime.sortedBy_ok (hclocks tx.ccNum.val)
  obtain ⟨investigation, hanswer⟩ := hinvestigate (investigatePayload tx response
    (history.filter fun h => h.transactionId ≠ tx.transactionId)) pipeline.world
  have hstore : pipeline.store.history tx.ccNum.val = .ok history := hhistory
  rw [explain, Effect.exec_bind_ok (analyst.exec_score_retained hretained), explainScored,
    Effect.exec_bind_ok (Effect.exec_get _), hstore,
    Effect.exec_bind_ok (Effect.exec_lift _ _),
    Effect.exec_bind_ok (exec_call_ok (exec_of_fst hanswer))]
  exact ⟨_, rfl, rfl⟩

/-- One call: its response describes the request exactly where its id is not another
customer's. -/
theorem step_answersRequest_iff
    (hinvestigate : ∀ payload w, ∃ answer,
      (Effect.exec (analyst.client.investigate payload) w).1 = .ok answer)
    (hclocks : ClocksKept pipeline.store) (call : PipelineCall) :
    AnswersRequest call ((pipelineMachine analyst).step pipeline call).1 ↔
      IdOfCustomer pipeline call := by
  cases call with
  | score tx =>
    refine Iff.trans ?_ (score_names_iff analyst tx)
    show AnswersRequest (.score tx) (.score (Effect.exec (analyst.score tx) pipeline).1) ↔ _
    cases (Effect.exec (analyst.score tx) pipeline).1 with
    | ok response => simp [AnswersRequest]
    | error e => simp [AnswersRequest]
  | explain tx =>
    show AnswersRequest (.explain tx) (.explain (Effect.exec (analyst.explain tx) pipeline).1) ↔ _
    constructor
    · intro h response hretained
      obtain ⟨result, hresult, hscore⟩ := explain_retained hinvestigate hclocks hretained
      rw [hresult] at h
      rw [← hscore]
      exact h.2
    · intro h
      cases hresult : (Effect.exec (analyst.explain tx) pipeline).1 with
      | error e => trivial
      | ok result =>
        obtain ⟨hcustomer, hscore⟩ := explain_ok hresult
        exact ⟨hcustomer, (score_names_iff analyst tx).mpr h result.score hscore⟩
  | submitFeedback feedback received => exact iff_of_true trivial trivial

/-- In every run each response describes its request exactly where the request's id is
not retained for another customer. -/
theorem run_answersRequest_iff (analyst : AnalystOrchestrator W)
    (hinvestigate : ∀ payload w, ∃ answer,
      (Effect.exec (analyst.client.investigate payload) w).1 = .ok answer)
    (world : W) (calls : List PipelineCall) :
    ∀ e ∈ (pipelineMachine analyst).trace { world } calls,
      AnswersRequest e.call e.answer ↔ IdOfCustomer e.before e.call := by
  intro e he
  obtain ⟨pre, call, post, -, rfl⟩ := (Machine.mem_trace_iff _ _ _ _).mp he
  exact step_answersRequest_iff hinvestigate (run_clocks world pre) call

/-- The second customer, who submits the id of the first. -/
def sharedIdTx : TransactionInput := { noonTx with ccNum := ⟨2, one_le_two⟩ }

/-- The second customer is answered with the first one's response. -/
theorem run_answersRequest_fails :
    ¬ ∀ e ∈ (pipelineMachine (answeringFraud 0)).trace { world := () }
        [.score noonTx, .score sharedIdTx], AnswersRequest e.call e.answer := by
  obtain ⟨response, hresponse⟩ := (noonStages 0).response_of_declared
    (answeringFraud_declared ⟨le_rfl, zero_le_one⟩)
  have hcustomer : response.ccNum = 1 :=
    ((answeringFraud 0).buildResponse_fields hresponse).2.1
  have hid : response.transactionId = noonTx.transactionId :=
    ((answeringFraud 0).buildResponse_fields hresponse).1
  have hfirst : (pipelineMachine (answeringFraud 0)).next { world := () } (.score noonTx) =
      ScoreRun.final ⟨noonStages 0, response, hresponse⟩ := by
    show (Effect.exec ((answeringFraud 0).score noonTx) { world := () }).2 = _
    rw [(answeringFraud 0).exec_score_fresh rfl,
      ScoreRun.exec_scoreFresh ⟨noonStages 0, response, hresponse⟩]
  have hretained : (ScoreRun.final ⟨noonStages 0, response, hresponse⟩).scored
      sharedIdTx.transactionId.val = some response := by
    simp only [ScoreRun.final, Pipeline.retain, hid]
    exact Function.update_self ..
  intro h
  have hsecond := h ((pipelineMachine (answeringFraud 0)).event
    (ScoreRun.final ⟨noonStages 0, response, hresponse⟩) (.score sharedIdTx))
    (by rw [Machine.trace_cons, hfirst]; simp)
  have hanswer : (Effect.exec ((answeringFraud 0).score sharedIdTx)
      (ScoreRun.final ⟨noonStages 0, response, hresponse⟩)).1 = .ok response := by
    rw [(answeringFraud 0).exec_score_retained hretained]
  have hnames : response.ccNum = 2 := by
    have hdescribes : AnswersRequest (.score sharedIdTx) (.score (Effect.exec
        ((answeringFraud 0).score sharedIdTx)
        (ScoreRun.final ⟨noonStages 0, response, hresponse⟩)).1) := hsecond
    rw [hanswer] at hdescribes
    exact hdescribes
  omega

theorem run_answersRequest_iff_noon :
    AnswersRequest (.score sharedIdTx)
        (.score (Effect.exec ((answeringFraud 0).score sharedIdTx)
          ((pipelineMachine (answeringFraud 0)).next { world := () } (.score noonTx))).1) ↔
      IdOfCustomer ((pipelineMachine (answeringFraud 0)).next { world := () } (.score noonTx))
        (.score sharedIdTx) :=
  run_answersRequest_iff (answeringFraud 0) (fun _ _ => ⟨[], rfl⟩) ()
    [.score noonTx, .score sharedIdTx] _ (List.mem_cons_of_mem _ List.mem_cons_self)

end VeriPay.AnalystApi
