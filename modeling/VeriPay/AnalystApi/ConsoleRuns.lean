import VeriPay.AnalystApi.Console
import VeriPay.Lib.DictTotals

/-!
What the console shows after a run. A transaction is scored once: what it was scored with then is
what every later lookup finds, and its customer leads to it until another one of the customer is
scored. The queue has an alert for every score that did not pass.
-/

namespace VeriPay.AnalystApi

open Lib Common AnalystOrchestrator

variable {W : Type} {analyst : AnalystOrchestrator W} {pipeline after : Pipeline W}

abbrev ConsoleEvent (W : Type) :=
  Machine.Event (Pipeline W) ConsoleCall (Except HTTPException ConsoleBody)

/-- The transaction a call sends. -/
def ConsoleCall.transaction : ConsoleCall → Option TransactionInput
  | .score request => request.transaction
  | .explain request => request.transaction
  | _ => none

/-- The transaction that a call is the first to score, and its score. -/
def completion (event : ConsoleEvent W) : Option (TransactionInput × ScoreResponse) :=
  event.call.transaction.bind fun tx =>
    match event.before.scored tx.transactionId.val, event.after.scored tx.transactionId.val with
    | none, some response => some (tx, response)
    | _, _ => none

/-- The explanation that is answered for a transaction that was sent. -/
def explanationOf (transaction : Option TransactionInput) :
    Except HTTPException ConsoleBody → Option (String × ExplainResponse)
  | .ok (.explain response) => transaction.map fun tx => (tx.transactionId.val, response)
  | _ => none

/-- The explanation that a call returns of the transaction it sends. -/
def explanation (event : ConsoleEvent W) : Option (String × ExplainResponse) :=
  explanationOf event.call.transaction event.answer

/-- The alert that a score owes. -/
def owedAlert (analyst : AnalystOrchestrator W) (scored : TransactionInput × ScoreResponse) :
    Option AlertItem :=
  if scored.2.decision = .pass then none else some (analyst.alertItem scored.1 scored.2)

section Steps

/-- Nothing is retained, alerted or named for lookup. -/
structure Undisturbed (pipeline after : Pipeline W) : Prop where
  scored : after.scored = pipeline.scored
  lookupByCustomer : after.lookupByCustomer = pipeline.lookupByCustomer
  alerts : after.alerts = pipeline.alerts

theorem Undisturbed.of_eq (h : after = pipeline) : Undisturbed pipeline after := by
  rw [h]
  exact ⟨rfl, rfl, rfl⟩

/-- A transaction is scored that was not before. -/
structure Completes (analyst : AnalystOrchestrator W) (tx : TransactionInput)
    (response : ScoreResponse) (pipeline after : Pipeline W) : Prop where
  fresh : pipeline.scored tx.transactionId.val = none
  scored : after.scored =
    Function.update pipeline.scored tx.transactionId.val (some response)
  lookupByCustomer : after.lookupByCustomer =
    Function.update pipeline.lookupByCustomer tx.ccNum.val (some tx.transactionId.val)
  alerts : after.alerts = pipeline.alerts ++ (owedAlert analyst (tx, response)).toList

theorem AnalystOrchestrator.ScoreRun.final_completes {tx : TransactionInput}
    (run : analyst.ScoreRun pipeline tx) (hfresh : pipeline.scored tx.transactionId.val = none) :
    Completes analyst tx run.response pipeline run.final := by
  obtain ⟨hid, hcustomer, -⟩ := analyst.buildResponse_fields run.response_eq
  refine ⟨hfresh, ?_, ?_, ?_⟩
  · rw [← hid]
    rfl
  · rw [← hid, ← hcustomer]
    rfl
  · show (if run.response.decision = .pass then pipeline.alerts else pipeline.alerts ++ [_]) = _
    unfold owedAlert
    split_ifs
    · exact (List.append_nil _).symm
    · rfl

variable (analyst) in
theorem score_completes (pipeline : Pipeline W) (tx : TransactionInput) :
    Undisturbed pipeline (Effect.exec (analyst.score tx) pipeline).2 ∨
      ∃ response, Completes analyst tx response pipeline
        (Effect.exec (analyst.score tx) pipeline).2 := by
  have houtcome := score_outcome analyst pipeline tx
  generalize Effect.exec (analyst.score tx) pipeline = outcome at houtcome ⊢
  cases houtcome with
  | retained hretained => exact Or.inl ⟨rfl, rfl, rfl⟩
  | stopped hfresh e world => exact Or.inl ⟨rfl, rfl, rfl⟩
  | rejected hfresh stages hresponse => exact Or.inl ⟨rfl, rfl, rfl⟩
  | completed hfresh run => exact Or.inr ⟨run.response, run.final_completes hfresh⟩

theorem SameBooks.undisturbed {final : Pipeline W} (hbooks : SameBooks after final)
    (h : Undisturbed pipeline after) : Undisturbed pipeline final where
  scored := hbooks.scored.trans h.scored
  lookupByCustomer := hbooks.lookupByCustomer.trans h.lookupByCustomer
  alerts := hbooks.alerts.trans h.alerts

theorem SameBooks.completes {final : Pipeline W} (hbooks : SameBooks after final)
    {tx : TransactionInput} {response : ScoreResponse}
    (h : Completes analyst tx response pipeline after) :
    Completes analyst tx response pipeline final where
  fresh := h.fresh
  scored := hbooks.scored.trans h.scored
  lookupByCustomer := hbooks.lookupByCustomer.trans h.lookupByCustomer
  alerts := hbooks.alerts.trans h.alerts

variable (analyst) in
theorem explain_completes (pipeline : Pipeline W) (tx : TransactionInput) :
    Undisturbed pipeline (Effect.exec (analyst.explain tx) pipeline).2 ∨
      ∃ response, Completes analyst tx response pipeline
        (Effect.exec (analyst.explain tx) pipeline).2 := by
  have hbooks := analyst.explain_books pipeline tx
  exact (score_completes analyst pipeline tx).imp hbooks.undisturbed
    fun ⟨response, h⟩ => ⟨response, hbooks.completes h⟩

variable {add : ℚ → ℚ → ℚ} {call : ConsoleCall}

theorem console_score {request : AnalystScoreRequest} {tx : TransactionInput}
    (htx : request.transaction = some tx) :
    (consoleMachine analyst add).next pipeline (.score request) =
      (Effect.exec (analyst.score tx) pipeline).2 := by
  show (postScore analyst request pipeline).2 = _
  rw [postScore, htx]
  rfl

variable (analyst pipeline add) in
theorem console_score_lookup {request : AnalystScoreRequest} (htx : request.transaction = none) :
    (consoleMachine analyst add).next pipeline (.score request) = pipeline := by
  show (postScore analyst request pipeline).2 = _
  rw [postScore, htx]
  rfl

theorem console_explain {request : AnalystScoreRequest} {tx : TransactionInput}
    (htx : request.transaction = some tx) :
    (consoleMachine analyst add).next pipeline (.explain request) =
      (Effect.exec (analyst.explain tx) pipeline).2 := by
  show (postExplain analyst request pipeline).2 = _
  rw [postExplain, htx]
  rfl

variable (analyst pipeline add) in
theorem console_explain_lookup {request : AnalystScoreRequest}
    (htx : request.transaction = none) :
    (consoleMachine analyst add).next pipeline (.explain request) = pipeline := by
  show (postExplain analyst request pipeline).2 = _
  rw [postExplain, htx]
  rfl

theorem completion_of_undisturbed
    (h : Undisturbed pipeline ((consoleMachine analyst add).next pipeline call)) :
    completion ((consoleMachine analyst add).event pipeline call) = none := by
  unfold completion
  show call.transaction.bind _ = none
  cases call.transaction with
  | none => rfl
  | some tx =>
    show (match pipeline.scored tx.transactionId.val,
      ((consoleMachine analyst add).next pipeline call).scored tx.transactionId.val with
      | none, some response => some (tx, response)
      | _, _ => none) = none
    rw [h.scored]
    cases pipeline.scored tx.transactionId.val <;> rfl

theorem completion_of_completes {tx : TransactionInput} {response : ScoreResponse}
    (htx : call.transaction = some tx)
    (h : Completes analyst tx response pipeline ((consoleMachine analyst add).next pipeline call)) :
    completion ((consoleMachine analyst add).event pipeline call) = some (tx, response) := by
  unfold completion
  show call.transaction.bind _ = _
  rw [htx]
  show (match pipeline.scored tx.transactionId.val,
    ((consoleMachine analyst add).next pipeline call).scored tx.transactionId.val with
    | none, some response => some (tx, response)
    | _, _ => none) = _
  rw [h.fresh, h.scored, Function.update_self]

variable (analyst add) in
/-- A call completes the score it is said to complete, and disturbs nothing otherwise. -/
theorem next_completes (pipeline : Pipeline W) (call : ConsoleCall) :
    completion ((consoleMachine analyst add).event pipeline call) = none ∧
        Undisturbed pipeline ((consoleMachine analyst add).next pipeline call) ∨
      ∃ tx response,
        completion ((consoleMachine analyst add).event pipeline call) = some (tx, response) ∧
        Completes analyst tx response pipeline
          ((consoleMachine analyst add).next pipeline call) := by
  suffices h : Undisturbed pipeline ((consoleMachine analyst add).next pipeline call) ∨
      ∃ tx response, call.transaction = some tx ∧ Completes analyst tx response pipeline
        ((consoleMachine analyst add).next pipeline call) by
    rcases h with h | ⟨tx, response, htx, h⟩
    · exact Or.inl ⟨completion_of_undisturbed h, h⟩
    · exact Or.inr ⟨tx, response, completion_of_completes htx h, h⟩
  cases call with
  | score request =>
    cases htx : request.transaction with
    | none =>
      exact Or.inl (Undisturbed.of_eq (console_score_lookup analyst pipeline add htx))
    | some tx =>
      rw [console_score htx]
      exact (score_completes analyst pipeline tx).imp_right fun ⟨response, h⟩ =>
        ⟨tx, response, htx, h⟩
  | explain request =>
    cases htx : request.transaction with
    | none =>
      exact Or.inl (Undisturbed.of_eq (console_explain_lookup analyst pipeline add htx))
    | some tx =>
      rw [console_explain htx]
      exact (explain_completes analyst pipeline tx).imp_right fun ⟨response, h⟩ =>
        ⟨tx, response, htx, h⟩
  | submitFeedback feedback received => exact Or.inl ⟨rfl, rfl, rfl⟩
  | alerts => exact Or.inl ⟨rfl, rfl, rfl⟩

variable (analyst) in
theorem score_scoredExplain (pipeline : Pipeline W) (tx : TransactionInput) :
    (Effect.exec (analyst.score tx) pipeline).2.scoredExplain = pipeline.scoredExplain := by
  have houtcome := score_outcome analyst pipeline tx
  generalize Effect.exec (analyst.score tx) pipeline = outcome at houtcome ⊢
  cases houtcome <;> rfl

/-- The explanation is retained if there is one, and then under its transaction. -/
def RetainsExplain (tx : TransactionInput) (explained : String → Option ExplainResponse)
    (outcome : Py ExplainResponse × Pipeline W) : Prop :=
  outcome.2.scoredExplain =
    match outcome.1 with
    | .ok response => Function.update explained tx.transactionId.val (some response)
    | .error _ => explained

theorem explainScored_retains (pipeline : Pipeline W) (tx : TransactionInput)
    (score : ScoreResponse) :
    RetainsExplain tx pipeline.scoredExplain
      (Effect.exec (analyst.explainScored tx score) pipeline) := by
  rw [explainScored, Effect.exec_bind_ok (Effect.exec_get _)]
  cases pipeline.store.history tx.ccNum.val with
  | error e =>
    rw [Effect.exec_bind_error (Effect.exec_lift _ _)]
    rfl
  | ok history =>
    rw [Effect.exec_bind_ok (Effect.exec_lift _ _)]
    rcases hcall : Effect.exec (Pipeline.call (analyst.client.investigate
      (investigatePayload tx score (history.filter fun h => h.transactionId ≠ tx.transactionId))))
      pipeline with ⟨answer, called⟩
    have hcalled : called.scoredExplain = pipeline.scoredExplain := by
      rw [Pipeline.call, Effect.exec_onPart] at hcall
      rw [← (Prod.mk.inj hcall).2]
    rw [← hcalled]
    cases answer with
    | error e =>
      rw [Effect.exec_bind_error hcall]
      rfl
    | ok investigation =>
      rw [Effect.exec_bind_ok hcall]
      rfl

variable (analyst) in
theorem explain_retains (pipeline : Pipeline W) (tx : TransactionInput) :
    RetainsExplain tx pipeline.scoredExplain (Effect.exec (analyst.explain tx) pipeline) := by
  have hscore := score_scoredExplain analyst pipeline tx
  rcases hexec : Effect.exec (analyst.score tx) pipeline with ⟨answer, scored⟩
  rw [hexec] at hscore
  rw [explain, ← hscore]
  cases answer with
  | error e =>
    rw [Effect.exec_bind_error hexec]
    rfl
  | ok score =>
    rw [Effect.exec_bind_ok hexec]
    exact explainScored_retains scored tx score

/-- The explanations retained are those that calls return. -/
theorem next_scoredExplain (pipeline : Pipeline W) (call : ConsoleCall) :
    ((consoleMachine analyst add).next pipeline call).scoredExplain =
      match explanation ((consoleMachine analyst add).event pipeline call) with
      | some (id, response) => Function.update pipeline.scoredExplain id (some response)
      | none => pipeline.scoredExplain := by
  cases call with
  | score request =>
    show (postScore analyst request pipeline).2.scoredExplain =
      match explanationOf request.transaction (postScore analyst request pipeline).1 with
      | some (id, response) => Function.update pipeline.scoredExplain id (some response)
      | none => pipeline.scoredExplain
    rw [postScore]
    have hnone : ∀ outcome : Py ScoreResponse × Pipeline W,
        explanationOf request.transaction (surfacedCall "Scoring" .score outcome).1 = none := by
      rintro ⟨answer, _⟩
      cases answer with
      | ok response => rfl
      | error e =>
        simp only [surfacedCall, surfaced]
        split_ifs <;> rfl
    rw [hnone]
    cases request.transaction with
    | none => rfl
    | some tx => exact score_scoredExplain analyst pipeline tx
  | explain request =>
    show (postExplain analyst request pipeline).2.scoredExplain =
      match explanationOf request.transaction (postExplain analyst request pipeline).1 with
      | some (id, response) => Function.update pipeline.scoredExplain id (some response)
      | none => pipeline.scoredExplain
    rw [postExplain]
    cases request.transaction with
    | none =>
      have hnone : ∀ answer, explanationOf none answer = none := by
        intro answer
        unfold explanationOf
        split <;> rfl
      rw [hnone]
      rfl
    | some tx =>
      have hretains := explain_retains analyst pipeline tx
      rw [RetainsExplain] at hretains
      show (Effect.exec (analyst.explain tx) pipeline).2.scoredExplain = _
      rw [hretains]
      dsimp only [surfacedCall]
      cases (Effect.exec (analyst.explain tx) pipeline).1 with
      | ok response => rfl
      | error e =>
        simp only [surfaced]
        split_ifs <;> rfl
  | submitFeedback feedback received => rfl
  | alerts => rfl

end Steps

section Runs

/-- Scores by the ids of their transactions. -/
def byId (scores : List (TransactionInput × ScoreResponse)) :
    List (String × (TransactionInput × ScoreResponse)) :=
  scores.map fun scored => (scored.1.transactionId.val, scored)

/-- Scores by their customers. -/
def byCustomer (scores : List (TransactionInput × ScoreResponse)) :
    List (ℕ × (TransactionInput × ScoreResponse)) :=
  scores.map fun scored => (scored.1.ccNum.val, scored)

/-- The books are those of the scores and explanations that the calls came to. -/
structure Recalls (analyst : AnalystOrchestrator W) (events : List (ConsoleEvent W))
    (pipeline : Pipeline W) : Prop where
  scored : ∀ id, pipeline.scored id =
    (lastWins (byId (events.filterMap completion)) id).map Prod.snd
  once : ((byId (events.filterMap completion)).map Prod.fst).Nodup
  lookupByCustomer : ∀ customer, pipeline.lookupByCustomer customer =
    (lastWins (byCustomer (events.filterMap completion)) customer).map
      fun scored => scored.1.transactionId.val
  alerts : pipeline.alerts = (events.filterMap completion).filterMap (owedAlert analyst)
  scoredExplain : pipeline.scoredExplain = lastWins (events.filterMap explanation)

variable {add : ℚ → ℚ → ℚ} {events : List (ConsoleEvent W)}

/-- Where a new transaction is scored, its score is the last of all. -/
theorem Completes.reflects {tx : TransactionInput} {response : ScoreResponse}
    (h : Completes analyst tx response pipeline after)
    {scores : List (TransactionInput × ScoreResponse)}
    (hscored : ∀ id, pipeline.scored id = (lastWins (byId scores) id).map Prod.snd)
    (honce : ((byId scores).map Prod.fst).Nodup)
    (hlookup : ∀ customer, pipeline.lookupByCustomer customer =
      (lastWins (byCustomer scores) customer).map fun scored => scored.1.transactionId.val) :
    (∀ id, after.scored id =
        (lastWins (byId (scores ++ [(tx, response)])) id).map Prod.snd) ∧
      ((byId (scores ++ [(tx, response)])).map Prod.fst).Nodup ∧
      ∀ customer, after.lookupByCustomer customer =
        (lastWins (byCustomer (scores ++ [(tx, response)])) customer).map
          fun scored => scored.1.transactionId.val := by
  have hbyId : byId (scores ++ [(tx, response)]) =
      byId scores ++ [(tx.transactionId.val, (tx, response))] := List.map_append
  have hbyCustomer : byCustomer (scores ++ [(tx, response)]) =
      byCustomer scores ++ [(tx.ccNum.val, (tx, response))] := List.map_append
  refine ⟨?_, ?_, ?_⟩
  · intro id
    rw [h.scored, hbyId, lastWins_concat, Function.update_apply, Function.update_apply]
    split_ifs
    · rfl
    · exact hscored id
  · rw [hbyId, List.map_append]
    refine honce.append (List.nodup_singleton _) ?_
    rw [List.map_singleton, List.disjoint_singleton]
    intro hmem
    -- An id that was completed before is retained.
    have hkeys : tx.transactionId.val ∈ keysOf (byId scores) := List.mem_toFinset.mpr hmem
    have hfresh := h.fresh
    rw [hscored, Option.map_eq_none_iff] at hfresh
    exact (lastWins_ne_none_iff _ _).mpr hkeys hfresh
  · intro customer
    rw [h.lookupByCustomer, hbyCustomer, lastWins_concat, Function.update_apply,
      Function.update_apply]
    split_ifs
    · rfl
    · exact hlookup customer

theorem Recalls.next (h : Recalls analyst events pipeline) (call : ConsoleCall) :
    Recalls analyst (events ++ [(consoleMachine analyst add).event pipeline call])
      ((consoleMachine analyst add).next pipeline call) := by
  have hexplain : ((consoleMachine analyst add).next pipeline call).scoredExplain =
      lastWins ((events ++ [(consoleMachine analyst add).event pipeline call]).filterMap
        explanation) := by
    rw [next_scoredExplain, List.filterMap_append, h.scoredExplain]
    cases hevent : explanation ((consoleMachine analyst add).event pipeline call) with
    | none => simp [hevent]
    | some explained => simp [hevent, lastWins_concat]
  rcases next_completes analyst add pipeline call with
    ⟨hnone, hsame⟩ | ⟨tx, response, hsome, hcompletes⟩
  · have hevents : (events ++ [(consoleMachine analyst add).event pipeline call]).filterMap
        completion = events.filterMap completion := by
      rw [List.filterMap_append]
      simp [hnone]
    refine ⟨?_, ?_, ?_, ?_, hexplain⟩
    · rw [hevents, hsame.scored]
      exact h.scored
    · rw [hevents]
      exact h.once
    · rw [hevents, hsame.lookupByCustomer]
      exact h.lookupByCustomer
    · rw [hevents, hsame.alerts]
      exact h.alerts
  · have hevents : (events ++ [(consoleMachine analyst add).event pipeline call]).filterMap
        completion = events.filterMap completion ++ [(tx, response)] := by
      rw [List.filterMap_append]
      simp [hsome]
    obtain ⟨hscored, honce, hlookup⟩ :=
      hcompletes.reflects h.scored h.once h.lookupByCustomer
    refine ⟨?_, ?_, ?_, ?_, hexplain⟩
    · rwa [hevents]
    · rwa [hevents]
    · rwa [hevents]
    · rw [hevents, hcompletes.alerts, List.filterMap_append, h.alerts]
      cases hdue : owedAlert analyst (tx, response) <;> simp [hdue]

theorem run_reflects (analyst : AnalystOrchestrator W) (add : ℚ → ℚ → ℚ) (world : W)
    (calls : List ConsoleCall) :
    Recalls analyst ((consoleMachine analyst add).trace { world } calls)
      ((consoleMachine analyst add).run { world } calls) := by
  refine Machine.run_history_invariant _
    (P := fun past state =>
      Recalls analyst ((consoleMachine analyst add).trace { world } past) state) ?_ calls ?_
  · refine ⟨fun _ => rfl, List.nodup_nil, fun _ => rfl, rfl, rfl⟩
  · intro pre call post _ h
    rw [Machine.trace_append]
    exact h.next call

/-- The id that a lookup is about. -/
def subject (scores : List (TransactionInput × ScoreResponse)) (request : AnalystScoreRequest) :
    Option String :=
  match request.transactionId.filter (fun id => id ≠ "") with
  | some id => some id
  | none => request.ccNum.bind fun customer =>
      (lastWins (byCustomer scores) customer.val).map fun scored => scored.1.transactionId.val

/-- What the console answers. -/
structure Shown (analyst : AnalystOrchestrator W) (add : ℚ → ℚ → ℚ)
    (events : List (ConsoleEvent W))
    (answer : ConsoleCall → Except HTTPException ConsoleBody) : Prop where
  once : ((events.filterMap completion).map fun scored => scored.1.transactionId.val).Nodup
  score_again : ∀ request tx, request.transaction = some tx →
    ∀ scored ∈ events.filterMap completion, scored.1.transactionId = tx.transactionId →
      answer (.score request) = .ok (.score scored.2)
  score_lookup : ∀ request, request.transaction = none →
    answer (.score request) =
      (found "Unknown scored transaction" ((subject (events.filterMap completion) request).bind
        fun id => (lastWins (byId (events.filterMap completion)) id).map Prod.snd)).map .score
  explain_lookup : ∀ request, request.transaction = none →
    answer (.explain request) =
      (found "Unknown scored transaction" ((subject (events.filterMap completion) request).bind
        (lastWins (events.filterMap explanation)))).map .explain
  queue : ∃ items, answer .alerts = .ok (.alerts items) ∧
    items.Perm ((events.filterMap completion).filterMap (owedAlert analyst)) ∧
    items.Pairwise (fun a b => suspicion add b ≤ suspicion add a) ∧
    ∀ k, items.filter (fun alert => suspicion add alert = k) =
      ((events.filterMap completion).filterMap (owedAlert analyst)).filter
        fun alert => suspicion add alert = k

theorem Recalls.lookupKey_eq {pipeline : Pipeline W} (h : Recalls analyst events pipeline)
    (request : AnalystScoreRequest) :
    lookupKey pipeline request.transactionId request.ccNum =
      subject (events.filterMap completion) request := by
  unfold lookupKey subject
  cases request.transactionId.filter fun id => id ≠ "" with
  | none => simp only [h.lookupByCustomer]
  | some id => rfl

/-- A lookup that fails is a 404, and no other answer. -/
theorem surfaced_lookup {α : Type} (service : String) (make : α → ConsoleBody)
    (pipeline : Pipeline W) (retained : String → Option α) (request : AnalystScoreRequest) :
    surfaced service make (lookup pipeline retained request.transactionId request.ccNum) =
      (found "Unknown scored transaction"
        ((lookupKey pipeline request.transactionId request.ccNum).bind retained)).map make := by
  unfold lookup
  cases (lookupKey pipeline request.transactionId request.ccNum).bind retained <;> rfl

/-- After any run the console shows what was scored and explained on the way. -/
theorem run_shown (analyst : AnalystOrchestrator W) (add : ℚ → ℚ → ℚ) (world : W)
    (calls : List ConsoleCall) :
    Shown analyst add ((consoleMachine analyst add).trace { world } calls) fun call =>
      (consoleStep analyst add ((consoleMachine analyst add).run { world } calls) call).1 := by
  have h := run_reflects analyst add world calls
  generalize (consoleMachine analyst add).run { world } calls = pipeline at h ⊢
  generalize (consoleMachine analyst add).trace { world } calls = events at h ⊢
  refine ⟨?_, ?_, ?_, ?_, ⟨_, rfl, ?_⟩⟩
  · have honce := h.once
    rwa [byId, List.map_map] at honce
  · intro request tx htx scored hscored hid
    show (postScore analyst request pipeline).1 = _
    have hmem : (tx.transactionId.val, scored) ∈ byId (events.filterMap completion) := by
      rw [← hid]
      exact List.mem_map_of_mem hscored
    have hretained : pipeline.scored tx.transactionId.val = some scored.2 := by
      rw [h.scored, (lastWins_eq_some_iff_of_nodup h.once).mpr hmem]
      rfl
    rw [postScore, htx]
    dsimp only
    rw [analyst.exec_score_retained hretained]
    rfl
  · intro request htx
    show (postScore analyst request pipeline).1 = _
    rw [postScore, htx, ← h.lookupKey_eq]
    simp only [← h.scored]
    exact surfaced_lookup "Scoring" .score pipeline pipeline.scored request
  · intro request htx
    show (postExplain analyst request pipeline).1 = _
    rw [postExplain, htx, ← h.lookupKey_eq, ← h.scoredExplain]
    exact surfaced_lookup "Explanation" .explain pipeline pipeline.scoredExplain request
  · rw [← h.alerts]
    let key : AlertItem → ℚᵒᵈ := fun alert => OrderDual.toDual (suspicion add alert)
    refine ⟨List.mergeSort_perm _ _, ?_, ?_⟩
    · exact @pairwise_mergeSort_key _ _ _ key pipeline.alerts
    · intro k
      exact @filter_mergeSort_key _ _ _ key pipeline.alerts (OrderDual.toDual k)

end Runs

end VeriPay.AnalystApi
