import VeriPay.Lib.Majority
import VeriPay.AnalystApi.Clocks

/-!
The feature rows a response reports. The baseline beside the features summarises the
customer's history up to ninety days before the request, and what comes after it; so
enough later transactions of one hour of the day make that hour the typical one, in
both feature modes, and no store and request are safe from them.
-/

namespace VeriPay.AnalystApi

open Lib AnalystOrchestrator

section Baseline

variable {values all : List ℕ} {hour copies : ℕ}

theorem pairwise_mergeSort_le (values : List ℕ) :
    (values.mergeSort (· ≤ ·)).Pairwise (· ≤ ·) := by
  have hsorted : (values.mergeSort fun a b => decide (a ≤ b)).Pairwise
      (fun a b => decide (a ≤ b) = true) := List.pairwise_mergeSort
    (by intro a b c hab hbc; simp only [decide_eq_true_eq] at *; omega)
    (by intro a b; simp only [Bool.or_eq_true, decide_eq_true_eq]; omega) values
  exact hsorted.imp (by simp)

/-- The first two quartiles are a value repeated four times as often as all others. -/
theorem quartile_of_majority (hperm : all.Perm (values ++ .replicate copies hour))
    (hmany : 4 * values.length + 8 ≤ copies) {i : ℕ} (hi : i = 1 ∨ i = 2) :
    quartile all i = hour := by
  have hlength : (all.mergeSort (· ≤ ·)).length = values.length + copies := by
    rw [List.length_mergeSort, hperm.length_eq, List.length_append, List.length_replicate]
  have hmiddle : ∀ {j : ℕ}, values.length ≤ j → j < copies →
      (all.mergeSort (· ≤ ·)).getD j 0 = hour := fun hlow hhigh =>
    sorted_getD_of_majority 0 (pairwise_mergeSort_le all)
      ((List.mergeSort_perm _ _).trans hperm) hlow hhigh
  unfold quartile
  simp only [hlength]
  set j := max 1 (min (values.length + copies - 1) (i * (values.length + copies + 1) / 4)) with hj
  have hbefore : (all.mergeSort (· ≤ ·)).getD (j - 1) 0 = hour := by
    refine hmiddle ?_ ?_
    · rcases hi with rfl | rfl <;> omega
    · rcases hi with rfl | rfl <;> omega
  have hat : (all.mergeSort (· ≤ ·)).getD j 0 = hour := by
    refine hmiddle ?_ ?_
    · rcases hi with rfl | rfl <;> omega
    · rcases hi with rfl | rfl <;> omega
  rw [hbefore, hat]
  ring

theorem clampHour_natCast (h : hour ≤ 23) : clampHour (hour : ℚ) = hour := by
  have htruncate : truncate (hour : ℚ) = hour := by
    rw [truncate, if_pos (Nat.cast_nonneg _)]
    exact Int.floor_natCast hour
  rw [clampHour, htruncate]
  omega

/-- Enough transactions of one hour make it the whole baseline of hours. -/
theorem metrics_of_majority (platform : Platform) {history : List StoredTransaction}
    (hperm : (history.map fun tx => tx.timestamp.hour).Perm (values ++ .replicate copies hour))
    (hmany : 4 * values.length + 8 ≤ copies) (hhour : hour ≤ 23) :
    (metrics platform history).count ≠ 0 ∧ (metrics platform history).hourLow = hour ∧
      (metrics platform history).hourHigh = hour ∧
      (metrics platform history).hourMode = hour := by
  have hlength : (history.map fun tx => tx.timestamp.hour).length = values.length + copies := by
    rw [hperm.length_eq, List.length_append, List.length_replicate]
  have hcount : history.length = values.length + copies := by
    rw [← hlength, List.length_map]
  have hne : history ≠ [] := by
    intro hempty
    rw [hempty] at hcount
    simp only [List.length_nil] at hcount
    omega
  have hfour : 4 ≤ (history.map fun tx => tx.timestamp.hour).length := by omega
  have hmode : mostCommon (history.map fun tx => tx.timestamp.hour) = some hour :=
    argmax_count_of_majority hperm (by omega)
  unfold metrics
  rw [if_neg hne]
  refine ⟨?_, ?_, ?_, ?_⟩
  · simp only
    omega
  · simp only [if_pos hfour, quartile_of_majority hperm hmany (Or.inl rfl),
      clampHour_natCast hhour]
  · simp only [if_pos hfour, quartile_of_majority hperm hmany (Or.inr rfl),
      clampHour_natCast hhour]
  · simp only [hmode, Option.map_some, Option.getD_some]
    rfl

end Baseline

/-- What the last row of a response shows as the baseline. -/
def shownBaseline (rows : List FeatureRow) : Option String :=
  rows.getLast?.map FeatureRow.customerBaseline

/-- The text of a baseline whose every hour is this one. -/
def shownHour (rich : Bool) (hour : ℕ) : String :=
  if rich then twoDigits hour ++ ":00 usual hour"
  else twoDigits hour ++ ":00–" ++ twoDigits hour ++ ":00"

theorem shownHour_zero_ne_one (rich : Bool) : shownHour rich 0 ≠ shownHour rich 1 := by
  cases rich <;> decide

/-- Some hour is not the one shown. -/
theorem exists_other_hour (rich : Bool) (shown : Option String) :
    ∃ hour, hour ≤ 1 ∧ some (shownHour rich hour) ≠ shown := by
  by_cases h : some (shownHour rich 0) = shown
  · refine ⟨1, le_rfl, ?_⟩
    intro h'
    exact shownHour_zero_ne_one rich (Option.some.inj (h.trans h'.symm))
  · exact ⟨0, zero_le_one, h⟩

variable {W : Type} {analyst : AnalystOrchestrator W} {pipeline : Pipeline W}
  {tx : TransactionInput} {hour : ℕ}

theorem describeFeatures_shown (platform : Platform) (features : Features)
    {baseline : BaselineMetrics} (hcount : baseline.count ≠ 0) (hlow : baseline.hourLow = hour)
    (hhigh : baseline.hourHigh = hour) :
    shownBaseline (describeFeatures platform features baseline) = some (shownHour false hour) := by
  simp [shownBaseline, describeFeatures, shownHour, hcount, hlow, hhigh]

theorem describeFeatures16_shown (platform : Platform) (features16 : Features16)
    {baseline : BaselineMetrics} (hmode : baseline.hourMode = hour) :
    shownBaseline (describeFeatures16 platform features16 baseline) =
      some (shownHour true hour) := by
  simp [shownBaseline, describeFeatures16, shownHour, hmode]

/-- Whether a request is scored with the causal features. -/
def scoredRich (analyst : AnalystOrchestrator W) (tx : TransactionInput) : Bool :=
  tx.modelFeatures.isNone && analyst.settings.useRichFeatures

/-- With a baseline of one hour, that hour is shown in the rows of either mode. -/
theorem buildInputs_shown (analyst : AnalystOrchestrator W) {store : ProfileStore}
    {tx : TransactionInput} {history : List StoredTransaction}
    (hhistory : store.history tx.ccNum.val = .ok history)
    (hcomparable : tx.modelFeatures = none → HistoryComparable tx history)
    (hcount : (metrics analyst.platform (lastNinetyDays tx history)).count ≠ 0)
    (hlow : (metrics analyst.platform (lastNinetyDays tx history)).hourLow = hour)
    (hhigh : (metrics analyst.platform (lastNinetyDays tx history)).hourHigh = hour)
    (hmode : (metrics analyst.platform (lastNinetyDays tx history)).hourMode = hour) :
    ∃ inputs, analyst.buildInputs store tx = .ok inputs ∧
      shownBaseline inputs.featureRows = some (shownHour (scoredRich analyst tx) hour) := by
  rw [buildInputs, hhistory, Py.ok_bind, filterPy_ninetyDays, Py.ok_bind]
  cases hvector : tx.modelFeatures with
  | some features =>
    have hbasic : scoredRich analyst tx = false := by simp [scoredRich, hvector]
    rw [hbasic]
    exact ⟨_, rfl, describeFeatures_shown analyst.platform features hcount hlow hhigh⟩
  | none =>
    have hcompare := hcomparable hvector
    have hrich : scoredRich analyst tx = analyst.settings.useRichFeatures := by
      simp [scoredRich, hvector]
    rw [hrich]
    cases analyst.settings.useRichFeatures with
    | true =>
      obtain ⟨features16, hfeatures, -, -⟩ := computeFeatures16_ok analyst.platform
        (metrics analyst.platform (lastNinetyDays tx history)) hcompare
      obtain ⟨features, hmap⟩ := mapToModel_ok analyst.platform features16 hcompare
      simp only [if_true, hfeatures, hmap, Py.ok_bind]
      exact ⟨_, rfl, describeFeatures16_shown analyst.platform features16 hmode⟩
    | false =>
      simp only [Bool.false_eq_true, if_false, buildFeatures_ok analyst.platform hcompare,
        Py.ok_bind]
      exact ⟨_, rfl, describeFeatures_shown analyst.platform _ hcount hlow hhigh⟩

/-- The client's answers do not depend on what it is sent. -/
structure FixedAnswers (analyst : AnalystOrchestrator W) : Prop where
  supervised : ∃ answer, ∀ id features w,
    (Effect.exec (analyst.client.supervisedScore id features) w).1 = answer
  anomaly : ∃ answer, ∀ id features w,
    (Effect.exec (analyst.client.anomalyScore id features) w).1 = answer
  graph : ∃ answer, ∀ payload w, (Effect.exec (analyst.client.graphScore payload) w).1 = answer
  fusion : ∃ answer, ∀ id components w,
    (Effect.exec (analyst.client.fuseRisk id components) w).1 = answer
  decision : ∃ answer, ∀ payload w, (Effect.exec (analyst.client.decide payload) w).1 = answer

/-- Whether a response passes its checks does not depend on the features and on what the
scores were adjusted by. -/
theorem buildResponse_of_ok {inputs : ScoringInputs} (inputs' : ScoringInputs)
    {scores : ModelScores} {adjusted adjusted' : AdjustedScores} {network : NetworkAxis}
    {fusion : FusionAnswer} {decision : DecisionAnswer} {response : ScoreResponse}
    (h : analyst.buildResponse tx inputs scores adjusted network fusion decision = .ok response)
    (hfraud : 0 ≤ adjusted'.fraud ∧ adjusted'.fraud ≤ 1)
    (hanomaly : 0 ≤ adjusted'.anomaly ∧ adjusted'.anomaly ≤ 1) :
    ∃ response', analyst.buildResponse tx inputs' scores adjusted' network fusion decision =
      .ok response' ∧ response'.features = inputs'.featureRows ∧
        response'.features16 = inputs'.features16Rows := by
  simp only [buildResponse, Py.bind_eq_ok] at h
  obtain ⟨_, _, _, hscore, _, _, _, _, _, hraw, _, hrawAnomaly, _, hrisk, _, hfindings, _, hego,
    -⟩ := h
  obtain ⟨shares, hshares⟩ := anomalyContributors_ok inputs'.features
  simp only [buildResponse, hshares, hscore, unitFloat_validate_ok (roundTo_unit hfraud),
    unitFloat_validate_ok (roundTo_unit hanomaly), hraw, hrawAnomaly, hrisk, hfindings, hego,
    Py.ok_bind]
  exact ⟨_, rfl, rfl, rfl⟩

theorem buildResponse_rows {inputs : ScoringInputs} {scores : ModelScores}
    {adjusted : AdjustedScores} {network : NetworkAxis} {fusion : FusionAnswer}
    {decision : DecisionAnswer} {response : ScoreResponse}
    (h : analyst.buildResponse tx inputs scores adjusted network fusion decision =
      .ok response) : response.features = inputs.featureRows := by
  simp only [buildResponse, Py.bind_eq_ok] at h
  obtain ⟨_, _, _, _, _, _, _, _, _, _, _, _, _, _, _, _, _, _, h⟩ := h
  cases h
  rfl

/-- Under fixed answers a score that ran from one store runs from another, where its own
computations return, and reports the rows of that store. -/
theorem AnalystOrchestrator.ScoreRun.from_store (run : analyst.ScoreRun pipeline tx)
    (hfixed : FixedAnswers analyst)
    (hfresh : pipeline.scored tx.transactionId.val = none) {store : ProfileStore}
    {inputs : ScoringInputs} (hinputs : analyst.buildInputs store tx = .ok inputs)
    (hdrift : ∃ report, store.detectDrift analyst.platform tx.ccNum.val = .ok report) :
    ∃ response, (Effect.exec (analyst.score tx) { pipeline with store }).1 = .ok response ∧
      response.features = inputs.featureRows ∧ response.features16 = inputs.features16Rows := by
  obtain ⟨supervised, hsupervised⟩ := hfixed.supervised
  obtain ⟨anomaly, hanomaly⟩ := hfixed.anomaly
  obtain ⟨graph, hgraph⟩ := hfixed.graph
  obtain ⟨fusion, hfusion⟩ := hfixed.fusion
  obtain ⟨decision, hdecision⟩ := hfixed.decision
  obtain ⟨report, hreport⟩ := hdrift
  have hadjust := analyst.adjust_of_detectDrift run.scores hreport
  have hbounds := analyst.adjustedFor_bounds store tx.ccNum.val run.scores
    (report.map DriftReport.kind)
  obtain ⟨response, hresponse, hrows, hrows16⟩ := buildResponse_of_ok inputs run.response_eq
    hbounds.1 hbounds.2
  have hsupervisedOk : supervised = .ok run.supervised := by
    rw [← hsupervised tx.transactionId run.inputs.features pipeline.world, run.supervised_eq]
  have hanomalyOk : anomaly = .ok run.anomaly := by
    rw [← hanomaly tx.transactionId run.inputs.features run.afterSupervised, run.anomaly_eq]
  have hnetwork : run.network = readGraph analyst.platform graph := by
    rw [run.network_eq_readGraph, hgraph]
  have hfusionOk : fusion = .ok run.fusionObject := by
    rw [← hfusion _ _ run.afterNetwork, run.fusion_call]
  have hdecisionOk : decision = .ok run.decisionObject := by
    rw [← hdecision _ run.afterFusion, run.decision_call]
  obtain ⟨afterSupervised, hsupervisedCall⟩ : ∃ w, Effect.exec
      (analyst.client.supervisedScore tx.transactionId inputs.features) pipeline.world =
        (.ok run.supervised, w) := ⟨_, exec_of_fst ((hsupervised _ _ _).trans hsupervisedOk)⟩
  obtain ⟨afterAnomaly, hanomalyCall⟩ : ∃ w, Effect.exec
      (analyst.client.anomalyScore tx.transactionId inputs.features) afterSupervised =
        (.ok run.anomaly, w) := ⟨_, exec_of_fst ((hanomaly _ _ _).trans hanomalyOk)⟩
  obtain ⟨afterNetwork, hnetworkCall⟩ : ∃ w, Effect.exec
      (analyst.scoreNetwork (graphPayload store tx))
        { pipeline with store := store, world := afterAnomaly } =
        (.ok run.network, { pipeline with store := store, world := w }) := by
    rw [exec_scoreNetwork, hgraph, hnetwork]
    exact ⟨_, rfl⟩
  obtain ⟨-, -, hrisk, -⟩ := analyst.checkedComponents_eq_ok_iff.mp run.components_eq
  have hcomponents := analyst.checkedComponents_adjustedFor store tx.ccNum.val run.scores
    (report.map DriftReport.kind) hrisk
  obtain ⟨afterFusion, hfusionCall⟩ : ∃ w, Effect.exec (analyst.client.fuseRisk tx.transactionId
      (analyst.fusionComponents run.scores (analyst.adjustedFor store tx.ccNum.val run.scores
        (report.map DriftReport.kind)) run.network)) afterNetwork = (.ok run.fusionObject, w) :=
    ⟨_, exec_of_fst ((hfusion _ _ _).trans hfusionOk)⟩
  obtain ⟨afterDecision, hdecisionCall⟩ : ∃ w, Effect.exec (analyst.client.decide {
      transactionId := tx.transactionId
      riskScore := run.fusion.unified
      riskBand := run.fusion.band
      riskTier := run.fusion.tier
      paymentRail := .card }) afterFusion = (.ok run.decisionObject, w) :=
    ⟨_, exec_of_fst ((hdecision _ _).trans hdecisionOk)⟩
  have again : ∃ again : analyst.ScoreRun { pipeline with store := store } tx,
      again.response = response :=
    ⟨⟨⟨inputs, run.supervised, run.anomaly, run.scores, _, run.network, run.fusionObject,
      run.fusion, run.decisionObject, run.decision, afterSupervised, afterAnomaly, afterNetwork,
      afterFusion, afterDecision, hinputs, hsupervisedCall, hanomalyCall, run.scores_eq, hadjust,
      hnetworkCall, hcomponents, hfusionCall, run.fusion_eq, hdecisionCall, run.decision_eq⟩,
      response, hresponse⟩, rfl⟩
  obtain ⟨again, hagain⟩ := again
  have hfresh' : ({ pipeline with store := store } : Pipeline W).scored tx.transactionId.val =
      none := hfresh
  have hexec := (analyst.exec_score_fresh hfresh').trans again.exec_scoreFresh
  exact ⟨response, by rw [hexec, hagain], hrows, hrows16⟩

/-- Transactions of the request's customer that are not before it. -/
def LaterTransactions (tx : TransactionInput) (added : List StoredTransaction) : Prop :=
  ∀ t ∈ added, t.ccNum = tx.ccNum.val ∧ t.timestamp.Representable ∧
    tx.timestamp.instant ≤ t.timestamp.instant

/-- No set of later transactions in the store changes the rows a response reports. -/
def RowsCausal (analyst : AnalystOrchestrator W) (pipeline : Pipeline W)
    (tx : TransactionInput) : Prop :=
  ∀ added, LaterTransactions tx added → ∀ response response',
    (Effect.exec (analyst.score tx) pipeline).1 = .ok response →
    (Effect.exec (analyst.score tx)
      { pipeline with store := pipeline.store.addAll added }).1 = .ok response' →
    response'.features = response.features ∧ response'.features16 = response.features16

/-- The request's transaction again at an hour of a later day. -/
def laterAt (tx : TransactionInput) (aware : Bool) (hour : ℕ) : StoredTransaction :=
  { storedTransaction tx .pass with
    timestamp := .atHour aware (max (tx.timestamp.date + 2) 32) hour }

theorem laterAt_later (hour : ℕ) (aware : Bool) (hrep : tx.timestamp.Representable) :
    tx.timestamp.instant ≤ (laterAt tx aware hour).timestamp.instant := by
  have hdate := tx.timestamp.date_bounds
  have hinstant := hrep.instant_bounds
  rw [laterAt, DateTime.atHour_instant]
  simp only [DateTime.microsPerDay, DateTime.microsPerHour, DateTime.microsPerSecond] at *
  omega

theorem laterAt_representable (aware : Bool) (hhour : hour ≤ 1)
    (hrep : tx.timestamp.Representable)
    (hroom : tx.timestamp.wall + 3 * DateTime.microsPerDay ≤ DateTime.maxWall) :
    (laterAt tx aware hour).timestamp.Representable := by
  have hdate := tx.timestamp.date_bounds
  have hcalendar := hrep.calendar.1
  refine DateTime.atHour_representable aware ⟨?_, ?_⟩
  · simp only [DateTime.microsPerDay, DateTime.microsPerHour, DateTime.microsPerSecond]
    omega
  · simp only [DateTime.maxWall, DateTime.microsPerDay, DateTime.microsPerHour,
      DateTime.microsPerSecond] at *
    omega

/-- What is not before the request is in its last ninety days. -/
theorem lastNinetyDays_of_later {t : StoredTransaction}
    (h : tx.timestamp.instant ≤ t.timestamp.instant) (copies : ℕ) :
    lastNinetyDays tx (.replicate copies t) = .replicate copies t := by
  refine List.filter_eq_self.mpr ?_
  intro u hu
  rw [List.eq_of_mem_replicate hu, decide_eq_true_eq]
  simp only [DateTime.days, DateTime.microsPerDay, DateTime.microsPerSecond]
  omega

/-- A history that was sorted, and compared with the request if it had to be, is all naive
or all aware, and the request with it. -/
theorem exists_kind {store : ProfileStore} {history : List StoredTransaction}
    (hhistory : store.history tx.ccNum.val = .ok history)
    (hcomparable : tx.modelFeatures = none → HistoryComparable tx history) :
    ∃ aware : Bool, (∀ t ∈ store.transactions tx.ccNum.val, t.timestamp.isAware = aware) ∧
      (tx.modelFeatures = none → tx.timestamp.isAware = aware) := by
  have hperm := DateTime.sortedBy_perm hhistory
  cases hstored : store.transactions tx.ccNum.val with
  | nil => exact ⟨tx.timestamp.isAware, by simp, fun _ => rfl⟩
  | cons first rest =>
    have hmem : ∀ t ∈ first :: rest, t ∈ history := by
      intro t ht
      rw [← hstored] at ht
      exact hperm.symm.subset ht
    refine ⟨first.timestamp.isAware, ?_, ?_⟩
    · intro t ht
      exact DateTime.comparable_of_sortedBy_ok hhistory (hmem t ht)
        (hmem first List.mem_cons_self)
    · intro hvector
      exact (hcomparable hvector first (hmem first List.mem_cons_self)).symm

/-- The hours of the last ninety days, once later transactions of an hour are stored. -/
theorem hours_of_laterAt {stored history : List StoredTransaction} (hhour : hour ≤ 1)
    (hrep : tx.timestamp.Representable) (aware : Bool) {copies : ℕ}
    (hperm : history.Perm (stored ++ .replicate copies (laterAt tx aware hour))) :
    ((lastNinetyDays tx history).map fun t => t.timestamp.hour).Perm
      ((lastNinetyDays tx stored).map (fun t => t.timestamp.hour) ++ .replicate copies hour) := by
  have hfiltered : (lastNinetyDays tx history).Perm
      (lastNinetyDays tx stored ++ .replicate copies (laterAt tx aware hour)) := by
    have hlater := lastNinetyDays_of_later (laterAt_later hour aware hrep) copies
    unfold lastNinetyDays at hlater ⊢
    have hfilter := hperm.filter fun t =>
      DateTime.days (tx.timestamp.instant - t.timestamp.instant) ≤ 90
    rwa [List.filter_append, hlater] at hfilter
  have hmap := hfiltered.map fun t => t.timestamp.hour
  rwa [List.map_append, List.map_replicate,
    show (laterAt tx aware hour).timestamp.hour = hour from
      DateTime.atHour_hour _ _ (by omega)] at hmap

/-- Enough later transactions of an hour in the store, all of the kind of the history, and
the request is scored with that hour as its baseline. -/
theorem buildInputs_addAll_laterAt (analyst : AnalystOrchestrator W) {store : ProfileStore}
    {aware : Bool} (hhour : hour ≤ 1) (hrep : tx.timestamp.Representable)
    (hkind : ∀ t ∈ store.transactions tx.ccNum.val, t.timestamp.isAware = aware)
    (hsame : tx.modelFeatures = none → tx.timestamp.isAware = aware) {copies : ℕ}
    (hmany : 4 * (store.transactions tx.ccNum.val).length + 8 ≤ copies) :
    ∃ history inputs,
      (store.addAll (.replicate copies (laterAt tx aware hour))).history tx.ccNum.val =
        .ok history ∧
      history.Perm (store.transactions tx.ccNum.val ++
        .replicate copies (laterAt tx aware hour)) ∧
      analyst.buildInputs (store.addAll (.replicate copies (laterAt tx aware hour))) tx =
        .ok inputs ∧
      shownBaseline inputs.featureRows = some (shownHour (scoredRich analyst tx) hour) := by
  have htransactions : (store.addAll (.replicate copies (laterAt tx aware hour))).transactions
      tx.ccNum.val =
        store.transactions tx.ccNum.val ++ .replicate copies (laterAt tx aware hour) := by
    refine store.transactions_addAll ?_
    intro t ht
    rw [List.eq_of_mem_replicate ht]
    rfl
  have hall : ∀ t ∈ store.transactions tx.ccNum.val ++
      .replicate copies (laterAt tx aware hour), t.timestamp.isAware = aware := by
    intro t ht
    rcases List.mem_append.mp ht with hold | hnew
    · exact hkind t hold
    · rw [List.eq_of_mem_replicate hnew]
      exact DateTime.atHour_isAware ..
  obtain ⟨history, hsorted⟩ := DateTime.sortedBy_ok_of_same hall
  have hperm := DateTime.sortedBy_perm hsorted
  have hhistory : (store.addAll (.replicate copies (laterAt tx aware hour))).history
      tx.ccNum.val = .ok history := by
    rw [ProfileStore.history, htransactions]
    exact hsorted
  have hcomparable : tx.modelFeatures = none → HistoryComparable tx history := by
    intro hvector t ht
    exact (hall t (hperm.subset ht)).trans (hsame hvector).symm
  have hhours := hours_of_laterAt hhour hrep aware hperm
  have hfew : 4 * ((lastNinetyDays tx (store.transactions tx.ccNum.val)).map
      fun t => t.timestamp.hour).length + 8 ≤ copies := by
    have hlength := List.length_filter_le
      (fun t => DateTime.days (tx.timestamp.instant - t.timestamp.instant) ≤ 90)
      (store.transactions tx.ccNum.val)
    rw [List.length_map, lastNinetyDays]
    omega
  obtain ⟨hcount, hlow, hhigh, hmode⟩ := metrics_of_majority analyst.platform hhours hfew (by omega)
  obtain ⟨inputs, hinputs, hshown⟩ := buildInputs_shown analyst hhistory hcomparable hcount hlow
    hhigh hmode
  exact ⟨history, inputs, hhistory, hperm, hinputs, hshown⟩

/-- With them the drift check still has its date thirty days back. -/
theorem detectDrift_addAll_laterAt (platform : Platform) {store : ProfileStore} {aware : Bool}
    (hhour : hour ≤ 1) (hrep : tx.timestamp.Representable)
    (hroom : tx.timestamp.wall + 3 * DateTime.microsPerDay ≤ DateTime.maxWall)
    (hstored : ∀ t ∈ store.transactions tx.ccNum.val, t.timestamp.Representable) {copies : ℕ}
    (hsome : 0 < copies) {added : ProfileStore} {history : List StoredTransaction}
    (hhistory : added.history tx.ccNum.val = .ok history)
    (hperm : history.Perm (store.transactions tx.ccNum.val ++
      .replicate copies (laterAt tx aware hour))) :
    ∃ report, added.detectDrift platform tx.ccNum.val = .ok report := by
  refine (detectDrift_ok_iff platform hhistory).mpr ?_
  intro last hlast _
  have hcopy : laterAt tx aware hour ∈ history :=
    hperm.symm.subset (List.mem_append_right _ (List.mem_replicate.mpr ⟨by omega, rfl⟩))
  have hlatest := DateTime.instant_le_getLast hhistory hcopy hlast
  have hlastRep : last.timestamp.Representable := by
    rcases List.mem_append.mp (hperm.subset (List.mem_of_getLast? hlast)) with hold | hnew
    · exact hstored last hold
    · rw [List.eq_of_mem_replicate hnew]
      exact laterAt_representable aware hhour hrep hroom
  have hbounds := hlastRep.instant_bounds
  have hcalendar := hlastRep.calendar
  rw [laterAt, DateTime.atHour_instant] at hlatest
  refine ⟨?_, ?_⟩
  · simp only [DateTime.microsPerDay, DateTime.microsPerHour, DateTime.microsPerSecond] at *
    omega
  · have hmax := hcalendar.2
    simp only [DateTime.microsPerDay, DateTime.microsPerSecond]
    omega

/-- Where a new request is scored, some later transactions change the rows. -/
theorem not_rowsCausal (hfixed : FixedAnswers analyst)
    (hfresh : pipeline.scored tx.transactionId.val = none)
    (hreturns : ∃ response, (Effect.exec (analyst.score tx) pipeline).1 = .ok response)
    (hrep : tx.timestamp.Representable)
    (hroom : tx.timestamp.wall + 3 * DateTime.microsPerDay ≤ DateTime.maxWall)
    (hstored : ∀ t ∈ pipeline.store.transactions tx.ccNum.val, t.timestamp.Representable) :
    ¬ RowsCausal analyst pipeline tx := by
  intro hcausal
  obtain ⟨response, hresponse⟩ := hreturns
  obtain ⟨run, hrun⟩ : ∃ run : analyst.ScoreRun pipeline tx, run.response = response := by
    have houtcome := score_outcome analyst pipeline tx
    generalize Effect.exec (analyst.score tx) pipeline = outcome at houtcome hresponse
    cases houtcome with
    | retained hretained =>
      rw [hfresh] at hretained
      cases hretained
    | stopped _ e world => cases hresponse
    | rejected _ stages hrejected => cases hresponse
    | completed _ run => exact ⟨run, Except.ok.inj hresponse⟩
  obtain ⟨history, hhistory, -⟩ := Py.bind_eq_ok.mp run.inputs_eq
  obtain ⟨aware, hkind, hsame⟩ := exists_kind hhistory
    (fun hvector => comparable_of_buildInputs_ok hvector hhistory run.inputs_eq)
  obtain ⟨hour, hhour, hother⟩ := exists_other_hour (scoredRich analyst tx)
    (shownBaseline run.inputs.featureRows)
  obtain ⟨history', inputs', hhistory', hperm, hinputs', hshown⟩ :=
    buildInputs_addAll_laterAt analyst hhour hrep hkind hsame le_rfl
  have hdrift := detectDrift_addAll_laterAt analyst.platform hhour hrep hroom hstored
    (by omega) hhistory' hperm
  obtain ⟨response', hresponse', hrows, -⟩ := run.from_store hfixed hfresh hinputs' hdrift
  have hlater : LaterTransactions tx
      (.replicate (4 * (pipeline.store.transactions tx.ccNum.val).length + 8)
        (laterAt tx aware hour)) := by
    intro t ht
    rw [List.eq_of_mem_replicate ht]
    exact ⟨rfl, laterAt_representable aware hhour hrep hroom, laterAt_later hour aware hrep⟩
  obtain ⟨hsameRows, -⟩ := hcausal _ hlater response response' hresponse hresponse'
  rw [hrows, ← hrun, buildResponse_rows run.response_eq] at hsameRows
  refine hother ?_
  rw [← hsameRows, hshown]

/-- Of the requests a score returns on, only those answered already are safe from later
transactions. -/
theorem rowsCausal_iff (analyst : AnalystOrchestrator W) (hfixed : FixedAnswers analyst)
    (pipeline : Pipeline W) (tx : TransactionInput)
    (hreturns : ∃ response, (Effect.exec (analyst.score tx) pipeline).1 = .ok response)
    (hrep : tx.timestamp.Representable)
    (hroom : tx.timestamp.wall + 3 * DateTime.microsPerDay ≤ DateTime.maxWall)
    (hstored : ∀ t ∈ pipeline.store.transactions tx.ccNum.val, t.timestamp.Representable) :
    RowsCausal analyst pipeline tx ↔ pipeline.scored tx.transactionId.val ≠ none := by
  constructor
  · intro hcausal hfresh
    exact not_rowsCausal hfixed hfresh hreturns hrep hroom hstored hcausal
  · intro hretained added _ response response' hresponse hresponse'
    obtain ⟨kept, hkept⟩ := Option.ne_none_iff_exists'.mp hretained
    have hkept' : ({ pipeline with store := pipeline.store.addAll added } :
        Pipeline W).scored tx.transactionId.val = some kept := hkept
    rw [analyst.exec_score_retained hkept] at hresponse
    rw [analyst.exec_score_retained hkept'] at hresponse'
    cases hresponse
    cases hresponse'
    exact ⟨rfl, rfl⟩

theorem answeringFraud_fixed (fraud : ℚ) : FixedAnswers (answeringFraud fraud) where
  supervised := ⟨_, fun _ _ _ => rfl⟩
  anomaly := ⟨_, fun _ _ _ => rfl⟩
  graph := ⟨_, fun _ _ => rfl⟩
  fusion := ⟨_, fun _ _ _ => rfl⟩
  decision := ⟨_, fun _ _ => rfl⟩

/-- A first request at noon is scored. -/
theorem noonRequest_returns : ∃ response,
    (Effect.exec ((answeringFraud 0).score noonRequest) { world := () }).1 = .ok response := by
  refine (score_returns_iff (answeringFraud_answers
    (show (0 : ℚ) ≤ 0 ∧ (0 : ℚ) ≤ 1 from ⟨le_rfl, zero_le_one⟩)) rfl ?_).mpr ?_
  · intro customer t ht
    cases ht
  · refine Or.inr ⟨Or.inl rfl, ?_⟩
    intro history last hhistory hlast
    have hempty := history_of_no_transactions
      (show ({} : ProfileStore).transactions 1 = [] from rfl)
    have hsame : history = [] := Except.ok.inj (hhistory.symm.trans hempty)
    rw [hsame] at hlast
    cases hlast

theorem noon_representable : noon.Representable := by
  refine ⟨by decide, ?_⟩
  intro offset hoffset
  cases hoffset
  decide

/-- A first request at noon shows other typical hours once later transactions are stored. -/
theorem rowsCausal_fails : ¬ RowsCausal (answeringFraud 0) { world := () } noonRequest := by
  refine not_rowsCausal (answeringFraud_fixed 0) rfl noonRequest_returns noon_representable
    (by decide) ?_
  intro t ht
  cases ht

theorem rowsCausal_iff_noon : RowsCausal (answeringFraud 0) { world := () } noonRequest ↔
    ({ world := () } : Pipeline Unit).scored noonRequest.transactionId.val ≠ none := by
  refine rowsCausal_iff _ (answeringFraud_fixed 0) _ _ noonRequest_returns noon_representable
    (by decide) ?_
  intro t ht
  cases ht

end VeriPay.AnalystApi
