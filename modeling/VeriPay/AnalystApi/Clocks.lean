import VeriPay.AnalystApi.Bookkeeping
import VeriPay.AnalystApi.Causality

/-!
Naive and aware timestamps in a run of scores. What is recorded is normalised to UTC,
but the feature builders compare the request's own timestamp with it; so a naive
request returns only where its customer has no history, and there it is the same as
the request in UTC.
-/

namespace VeriPay.AnalystApi

open Lib AnalystOrchestrator

/-- Every recorded timestamp is timezone-aware. -/
def ClocksKept (store : ProfileStore) : Prop :=
  ∀ customer, ∀ t ∈ store.transactions customer, t.timestamp.isAware = true

variable {W : Type} {analyst : AnalystOrchestrator W} {pipeline : Pipeline W}

theorem ClocksKept.addTransaction {store : ProfileStore} (h : ClocksKept store)
    {t : StoredTransaction} (ht : t.timestamp.isAware = true) :
    ClocksKept (store.addTransaction t) := by
  intro customer u hu
  by_cases hcustomer : customer = t.ccNum
  · subst hcustomer
    rw [ProfileStore.transactions_addTransaction_self] at hu
    rcases List.mem_append.mp hu with hold | hnew
    · exact h _ u hold
    · rw [List.mem_singleton.mp hnew]
      exact ht
  · rw [store.transactions_addTransaction_of_ne hcustomer] at hu
    exact h customer u hu

/-- A score records normalised timestamps, whether it then returns or raises. -/
theorem score_clocks (analyst : AnalystOrchestrator W) (pipeline : Pipeline W)
    (tx : TransactionInput) (h : ClocksKept pipeline.store) :
    ClocksKept (Effect.exec (analyst.score tx) pipeline).2.store := by
  have houtcome := score_outcome analyst pipeline tx
  generalize Effect.exec (analyst.score tx) pipeline = outcome at houtcome ⊢
  cases houtcome with
  | retained hretained => exact h
  | stopped hfresh e world => exact h
  | rejected hfresh stages hresponse => exact h.addTransaction (DateTime.orUtc_isAware _)
  | completed hfresh run => exact h.addTransaction (DateTime.orUtc_isAware _)

theorem next_clocks (h : ClocksKept pipeline.store) (call : PipelineCall) :
    ClocksKept ((pipelineMachine analyst).next pipeline call).store := by
  cases call with
  | score tx => exact score_clocks analyst pipeline tx h
  | explain tx =>
    intro customer t ht
    refine score_clocks analyst pipeline tx h customer t ?_
    rwa [← (analyst.explain_books pipeline tx).transactions]
  | submitFeedback feedback received => exact h

theorem run_clocks (world : W) (calls : List PipelineCall) :
    ClocksKept ((pipelineMachine analyst).run { world } calls).store := by
  refine Machine.run_history_invariant _ (P := fun _ state => ClocksKept (Pipeline.store state))
    ?_ calls ?_
  · intro customer t ht
    cases ht
  · intro pre call post _ hclocks
    exact next_clocks hclocks call

/-- Where the clocks allow a request: it is answered already; or it is aware or its
customer's first, and thirty days before the customer's latest of five or more earlier
transactions is still a date. -/
def ClocksAllow (pipeline : Pipeline W) (tx : TransactionInput) : Prop :=
  pipeline.scored tx.transactionId.val ≠ none ∨
    (tx.timestamp.isAware = true ∨ pipeline.store.transactions tx.ccNum.val = []) ∧
      ∀ history last, pipeline.store.history tx.ccNum.val = .ok history →
        history.getLast? = some last → 5 ≤ history.length →
          DateTime.InCalendar (last.timestamp.wall - 30 * DateTime.microsPerDay)

theorem suddenDrift_ok (platform : Platform)
    {pairs : List (StoredTransaction × StoredTransaction)}
    (h : ∀ pair ∈ pairs, pair.2.timestamp.Comparable pair.1.timestamp) :
    ∃ report, ProfileStore.suddenDrift platform pairs = .ok report := by
  induction pairs with
  | nil => exact ⟨none, rfl⟩
  | cons pair rest ih =>
    obtain ⟨prev, curr⟩ := pair
    obtain ⟨later, hlater⟩ := ih (fun other hother => h other (List.mem_cons_of_mem _ hother))
    rw [ProfileStore.suddenDrift, DateTime.sub_ok (h _ List.mem_cons_self), Py.ok_bind]
    split
    · exact ⟨later, hlater⟩
    · split
      · dsimp only
        split
        · exact ⟨_, rfl⟩
        · exact ⟨later, hlater⟩
      · exact ⟨later, hlater⟩

/-- The recent transactions of a customer are among its history. -/
theorem recent_ok {store : ProfileStore} {customer : ℕ} {days : ℤ}
    {history : List StoredTransaction} {last : StoredTransaction}
    (hhistory : store.history customer = .ok history) (hlast : history.getLast? = some last)
    (hcalendar : DateTime.InCalendar (last.timestamp.wall + -(days * DateTime.microsPerDay))) :
    ∃ recent, store.recent customer days = .ok recent ∧ ∀ t ∈ recent, t ∈ history := by
  have hcompare := fun t ht => DateTime.comparable_of_sortedBy_ok hhistory
    (List.mem_of_getLast? hlast) (b := t) ht
  rw [ProfileStore.recent, hhistory, Py.ok_bind, hlast]
  simp only [DateTime.addMicros_ok hcalendar, Py.ok_bind]
  refine ⟨_, filterPy_ok (fun t ht => DateTime.le_ok (hcompare t ht)), ?_⟩
  intro t ht
  exact List.mem_of_mem_filter ht

/-- On a history that sorts, the drift check raises only for want of a date thirty days
back. -/
theorem detectDrift_ok_iff (platform : Platform) {store : ProfileStore} {customer : ℕ}
    {history : List StoredTransaction} (hhistory : store.history customer = .ok history) :
    (∃ report, store.detectDrift platform customer = .ok report) ↔
      ∀ last, history.getLast? = some last → 5 ≤ history.length →
        DateTime.InCalendar (last.timestamp.wall - 30 * DateTime.microsPerDay) := by
  constructor
  · intro h last hlast hlong
    obtain ⟨report, hreport⟩ := h
    simp only [ProfileStore.detectDrift, hhistory, Py.ok_bind, hlast,
      if_neg (Nat.not_lt.mpr hlong)] at hreport
    obtain ⟨recent, hrecent, -⟩ := Py.bind_eq_ok.mp hreport
    simp only [ProfileStore.recent, hhistory, Py.ok_bind, hlast] at hrecent
    obtain ⟨cutoff, hcutoff, -⟩ := Py.bind_eq_ok.mp hrecent
    exact DateTime.inCalendar_of_addMicros_ok hcutoff
  · intro h
    rw [ProfileStore.detectDrift, hhistory, Py.ok_bind]
    cases hlast : history.getLast? with
    | none => exact ⟨none, rfl⟩
    | some last =>
      simp only
      split_ifs with hshort
      · exact ⟨none, rfl⟩
      · obtain ⟨recent, hrecent, hsubset⟩ := recent_ok hhistory hlast
          (h last hlast (Nat.not_lt.mp hshort))
        have hlong : filterPy (fun t => do
            let age ← last.timestamp.sub t.timestamp
            return DateTime.days age ≤ 90) history =
            .ok (history.filter fun t =>
              DateTime.days (last.timestamp.instant - t.timestamp.instant) ≤ 90) := by
          refine filterPy_ok ?_
          intro t ht
          rw [DateTime.sub_ok (DateTime.comparable_of_sortedBy_ok hhistory
            (List.mem_of_getLast? hlast) ht)]
          rfl
        have hpairs : ∀ pair ∈ recent.zip recent.tail,
            pair.2.timestamp.Comparable pair.1.timestamp := by
          intro pair hpair
          obtain ⟨hprev, hcurr⟩ := List.of_mem_zip hpair
          exact DateTime.comparable_of_sortedBy_ok hhistory
            (hsubset _ (List.mem_of_mem_tail hcurr)) (hsubset _ hprev)
        obtain ⟨sudden, hsudden⟩ := suddenDrift_ok platform hpairs
        rw [hrecent, Py.ok_bind, hlong, Py.ok_bind, hsudden, Py.ok_bind]
        cases sudden with
        | some report => exact ⟨some report, rfl⟩
        | none => exact ⟨_, rfl⟩

/-- Every call of a score succeeds, with a well-typed payload in range. -/
structure ClientAnswers (analyst : AnalystOrchestrator W) : Prop where
  supervised : ∀ id features w, ∃ answer,
    (Effect.exec (analyst.client.supervisedScore id features) w).1 = .ok answer ∧
      JsonInUnit analyst.platform answer "fraud_probability"
  anomaly : ∀ id features w, ∃ answer,
    (Effect.exec (analyst.client.anomalyScore id features) w).1 = .ok answer ∧
      JsonInUnit analyst.platform answer "anomaly_score"
  graph : ∀ payload w, ∃ answer,
    (Effect.exec (analyst.client.graphScore payload) w).1 = .ok answer ∧
      (readGraph analyst.platform (.ok answer)).InRange
  engines : analyst.EnginesSucceed

theorem ClientAnswers.callsSucceed (h : ClientAnswers analyst) (pipeline : Pipeline W)
    (tx : TransactionInput) (features : Features) :
    analyst.CallsSucceed pipeline tx features where
  supervised := h.supervised _ _ _
  anomaly := h.anomaly _ _ _
  graph := h.graph _ _
  engines := h.engines

/-- A feature builder that returns has compared the request with the history. -/
theorem comparable_of_buildInputs_ok {store : ProfileStore} {tx : TransactionInput}
    {history : List StoredTransaction} {inputs : ScoringInputs}
    (hvector : tx.modelFeatures = none) (hhistory : store.history tx.ccNum.val = .ok history)
    (h : analyst.buildInputs store tx = .ok inputs) : HistoryComparable tx history := by
  have hprior : ∃ prior, priorTransactions tx history = .ok prior := by
    rw [buildInputs, hhistory, Py.ok_bind, filterPy_ninetyDays, Py.ok_bind, hvector] at h
    simp only at h
    split_ifs at h
    · obtain ⟨rich, hrich, -⟩ := Py.bind_eq_ok.mp h
      obtain ⟨prior, hprior, -⟩ := Py.bind_eq_ok.mp hrich
      exact ⟨prior, hprior⟩
    · obtain ⟨features, hfeatures, -⟩ := Py.bind_eq_ok.mp h
      obtain ⟨prior, hprior, -⟩ := Py.bind_eq_ok.mp hfeatures
      exact ⟨prior, hprior⟩
  obtain ⟨prior, hprior⟩ := hprior
  exact historyComparable_of_prior_ok hprior

/-- The feature builder returns exactly where the request compares with the history. -/
theorem buildInputs_ok_iff (analyst : AnalystOrchestrator W) {store : ProfileStore}
    {tx : TransactionInput} (hvector : tx.modelFeatures = none) (hclocks : ClocksKept store) :
    (∃ inputs, analyst.buildInputs store tx = .ok inputs) ↔
      tx.timestamp.isAware = true ∨ store.transactions tx.ccNum.val = [] := by
  obtain ⟨history, hsorted⟩ := DateTime.sortedBy_ok (hclocks tx.ccNum.val)
  have hhistory : store.history tx.ccNum.val = .ok history := hsorted
  have hperm := DateTime.sortedBy_perm hsorted
  constructor
  · intro h
    obtain ⟨inputs, hinputs⟩ := h
    cases hstored : store.transactions tx.ccNum.val with
    | nil => exact Or.inr rfl
    | cons t rest =>
      left
      have ht : t ∈ store.transactions tx.ccNum.val := by
        rw [hstored]
        exact List.mem_cons_self
      have hcompare := comparable_of_buildInputs_ok hvector hhistory hinputs t
        (hperm.symm.subset ht)
      exact hcompare.symm.trans (hclocks _ t ht)
  · intro h
    have hcomparable : HistoryComparable tx history := by
      intro t ht
      have hmem := hperm.subset ht
      rcases h with haware | hempty
      · exact (hclocks _ t hmem).trans haware.symm
      · rw [hempty] at hmem
        cases hmem
    obtain ⟨inputs, hinputs, -⟩ := buildInputs_features analyst analyst.settings.useRichFeatures
      hvector hhistory hcomparable
    exact ⟨inputs, hinputs⟩

/-- A new request is scored exactly where its features are built and the drift check
passes. -/
theorem score_returns_of_fresh_iff (hclient : ClientAnswers analyst) {tx : TransactionInput}
    (hfresh : pipeline.scored tx.transactionId.val = none) :
    (∃ response, (Effect.exec (analyst.score tx) pipeline).1 = .ok response) ↔
      (∃ inputs, analyst.buildInputs pipeline.store tx = .ok inputs) ∧
        ∃ report, pipeline.store.detectDrift analyst.platform tx.ccNum.val = .ok report := by
  rw [analyst.exec_score_fresh hfresh]
  rcases analyst.scoreFresh_cases pipeline tx
    (fun inputs _ => hclient.callsSucceed pipeline tx inputs.features) with
    hinputs | hdrift | hruns
  · obtain ⟨e, hinputs, hexec⟩ := hinputs
    rw [hexec, hinputs]
    simp
  · obtain ⟨inputs, e, -, hdrift, hexec⟩ := hdrift
    rw [hexec, hdrift]
    simp
  · obtain ⟨inputs, report, hinputs, hdrift, hrun⟩ := hruns
    obtain ⟨run⟩ := hrun
    rw [run.exec_scoreFresh]
    exact iff_of_true ⟨_, rfl⟩ ⟨⟨inputs, hinputs⟩, report, hdrift⟩

/-- A score returns exactly where the clocks allow it. -/
theorem score_returns_iff (hclient : ClientAnswers analyst) {tx : TransactionInput}
    (hvector : tx.modelFeatures = none) (hclocks : ClocksKept pipeline.store) :
    (∃ response, (Effect.exec (analyst.score tx) pipeline).1 = .ok response) ↔
      ClocksAllow pipeline tx := by
  cases hretained : pipeline.scored tx.transactionId.val with
  | some response =>
    rw [analyst.exec_score_retained hretained]
    refine iff_of_true ⟨response, rfl⟩ (Or.inl ?_)
    rw [hretained]
    exact Option.some_ne_none response
  | none =>
    obtain ⟨history, hsorted⟩ := DateTime.sortedBy_ok (hclocks tx.ccNum.val)
    have hhistory : pipeline.store.history tx.ccNum.val = .ok history := hsorted
    rw [score_returns_of_fresh_iff hclient hretained, buildInputs_ok_iff analyst hvector hclocks,
      detectDrift_ok_iff analyst.platform hhistory, ClocksAllow, hretained]
    constructor
    · intro h
      refine Or.inr ⟨h.1, ?_⟩
      intro history' last hhistory'
      rw [hhistory] at hhistory'
      cases hhistory'
      exact h.2 last
    · intro h
      rcases h with habsurd | hallowed
      · exact absurd rfl habsurd
      · exact ⟨hallowed.1, fun last => hallowed.2 history last hhistory⟩

/-- The steady client answers in range on every platform. -/
theorem steadyClient_answers (platform : Platform) {fraud : ℚ}
    (hfraud : 0 ≤ fraud ∧ fraud ≤ 1) :
    ClientAnswers (W := Unit) {
      client := steadyClient [("fraud_probability", .float fraud)] [] [] fusedAnswer blockAnswer
      platform } where
  supervised := fun _ _ _ => ⟨_, rfl, fraud, rfl, hfraud⟩
  anomaly := fun _ _ _ => ⟨_, rfl, 0, rfl, le_rfl, zero_le_one⟩
  graph := fun _ _ => ⟨[], rfl, ⟨⟨le_rfl, zero_le_one⟩,
    by simp [readGraph, JsonObj.getD, Json.toFloat, Json.toList], none, rfl⟩⟩
  engines := {
    fusion := fun _ _ _ _ _ _ _ _ => ⟨fusedAnswer, ⟨95, .block, .high⟩, rfl, rfl, by decide⟩
    decision := fun _ _ _ => ⟨blockAnswer, ⟨.decline, .high, .block⟩, rfl, rfl⟩ }

theorem answeringFraud_answers {fraud : ℚ} (hfraud : 0 ≤ fraud ∧ fraud ≤ 1) :
    ClientAnswers (answeringFraud fraud) :=
  steadyClient_answers .atNoon hfraud

end VeriPay.AnalystApi
