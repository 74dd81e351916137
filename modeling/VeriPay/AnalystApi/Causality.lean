import VeriPay.AnalystApi.Scoring

/-!
What the two feature engines read of a customer's history. Both build the model
columns from the transactions strictly before the scored one, with helpers of
their own that come to the same; so the vector is the same in both modes, and no
later transaction reaches it.
-/

namespace VeriPay.AnalystApi

open Lib

theorem foldl_appendPoint (history : List StoredTransaction) (points : List GeoPoint) :
    history.foldl appendPoint points = points ++ history.filterMap StoredTransaction.point := by
  induction history generalizing points with
  | nil => simp
  | cons tx rest ih =>
    rw [List.foldl_cons, ih]
    cases hpoint : tx.point with
    | none =>
      have hstep : appendPoint points tx = points := by
        rw [appendPoint, show (tx.location <|> tx.merchantLocation) = none from hpoint]
      rw [hstep, List.filterMap_cons_none hpoint]
    | some point =>
      have hstep : appendPoint points tx = points ++ [point] := by
        rw [appendPoint, show (tx.location <|> tx.merchantLocation) = some point from hpoint]
      rw [hstep, List.filterMap_cons_some hpoint, List.append_assoc, List.singleton_append]

/-- The loop of one engine collects what the comprehension of the other does. -/
theorem centroidLocation_eq (history : List StoredTransaction) :
    centroidLocation history = centroid history := by
  simp only [centroidLocation, centroid, foldl_appendPoint, List.nil_append]

theorem distanceKm_eq (platform : Platform) (transaction : TransactionInput)
    (home : Option GeoPoint) :
    distanceKm platform transaction home =
      homeDistance platform home transaction.merchantLocation transaction.location := by
  unfold distanceKm homeDistance
  cases transaction.merchantLocation <;> cases home <;> cases transaction.location <;> rfl

/-- The history compares with the scored transaction, which is when both engines read it. -/
def HistoryComparable (transaction : TransactionInput) (history : List StoredTransaction) :
    Prop :=
  ∀ tx ∈ history, tx.timestamp.Comparable transaction.timestamp

/-- The strictly earlier part of a history that compares. -/
def earlierThan (transaction : TransactionInput) (history : List StoredTransaction) :
    List StoredTransaction :=
  history.filter (fun tx => tx.timestamp.instant < transaction.timestamp.instant)

theorem priorTransactions_ok {transaction : TransactionInput} {history : List StoredTransaction}
    (h : HistoryComparable transaction history) :
    priorTransactions transaction history = .ok (earlierThan transaction history) :=
  filterPy_ok (fun tx htx => DateTime.lt_ok (h tx htx))

theorem historyComparable_of_prior_ok {transaction : TransactionInput}
    {history prior : List StoredTransaction}
    (h : priorTransactions transaction history = .ok prior) :
    HistoryComparable transaction history := by
  intro tx htx
  obtain ⟨keep, hkeep⟩ := test_ok_of_filterPy_ok h tx htx
  exact DateTime.comparable_of_lt_ok hkeep

theorem mem_earlierThan {transaction : TransactionInput} {history : List StoredTransaction}
    {tx : StoredTransaction} :
    tx ∈ earlierThan transaction history ↔
      tx ∈ history ∧ tx.timestamp.instant < transaction.timestamp.instant := by
  simp [earlierThan]

theorem HistoryComparable.earlier {transaction : TransactionInput}
    {history : List StoredTransaction} (h : HistoryComparable transaction history) :
    HistoryComparable transaction (earlierThan transaction history) :=
  fun tx htx => h tx (mem_earlierThan.mp htx).1

/-- Those of the transactions at most `window` microseconds back. -/
def atMost (transaction : TransactionInput) (window : ℤ) (prior : List StoredTransaction) :
    List StoredTransaction :=
  prior.filter (fun tx => transaction.timestamp.instant - tx.timestamp.instant ≤ window)

theorem within_ok {transaction : TransactionInput} {window : ℤ} {prior : List StoredTransaction}
    (h : HistoryComparable transaction prior) :
    within transaction window prior = .ok (atMost transaction window prior) := by
  refine filterPy_ok ?_
  intro tx htx
  rw [DateTime.sub_ok (h tx htx).symm]
  rfl

theorem ageOrZero_ok (transaction : TransactionInput) (tx : Option StoredTransaction)
    (h : ∀ t, tx = some t → t.timestamp.Comparable transaction.timestamp) :
    ∃ age, ageOrZero transaction.timestamp tx = .ok age := by
  cases tx with
  | none => exact ⟨0, rfl⟩
  | some t => exact ⟨_, DateTime.sub_ok (h t rfl).symm⟩

/-- The ten columns, from the transactions at most five minutes back and the distance. -/
def modelColumns (platform : Platform) (transaction : TransactionInput)
    (prior : List StoredTransaction) : Features :=
  [ ("amount_log", amountLog platform transaction.amount.val),
    ("mcc_risk", roundTo 4 transaction.mccRisk.val),
    ("velocity_5m",
      (atMost transaction (5 * DateTime.microsPerMinute) prior).length),
    ("device_trust", transaction.deviceTrust.val),
    ("network_trust", transaction.networkTrust.val),
    ("impossible_travel", transaction.impossibleTravel.val),
    ("new_device", transaction.newDevice.val),
    ("hour_of_day", transaction.timestamp.hour),
    ("weekend", isWeekend transaction.timestamp),
    ("distance_km", roundTo 2 (homeDistance platform (centroid prior)
      transaction.merchantLocation transaction.location))]

theorem buildFeatures_ok (platform : Platform) {transaction : TransactionInput}
    {history : List StoredTransaction} (h : HistoryComparable transaction history) :
    buildFeatures platform transaction history =
      .ok (modelColumns platform transaction (earlierThan transaction history)) := by
  rw [buildFeatures, priorTransactions_ok h, Py.ok_bind, within_ok h.earlier, Py.ok_bind]
  simp only [centroidLocation_eq, distanceKm_eq]
  rfl

/-- Of the sixteen features the model columns take the hour and the distance from home. -/
theorem computeFeatures16_ok (platform : Platform) {transaction : TransactionInput}
    {history : List StoredTransaction} (baseline : BaselineMetrics)
    (h : HistoryComparable transaction history) :
    ∃ features16, computeFeatures16 platform transaction history baseline = .ok features16 ∧
      features16.hourOfDay = transaction.timestamp.hour ∧
      features16.distFromHomeKm =
        roundTo 2 (homeDistance platform (centroid (earlierThan transaction history))
          transaction.merchantLocation transaction.location) := by
  obtain ⟨firstAge, hfirst⟩ := ageOrZero_ok transaction
    ((earlierThan transaction history).find? (fun tx => tx.merchant = transaction.merchant.val))
    (fun t ht => h.earlier t (List.mem_of_find?_eq_some ht))
  obtain ⟨previousAge, hprevious⟩ := ageOrZero_ok transaction
    (earlierThan transaction history).getLast?
    (fun t ht => h.earlier t (List.mem_of_getLast? ht))
  rw [computeFeatures16, priorTransactions_ok h, Py.ok_bind]
  simp only [hfirst, hprevious, Py.ok_bind, within_ok h.earlier]
  exact ⟨_, rfl, rfl, rfl⟩

theorem mapToModel_ok (platform : Platform) (features16 : Features16)
    {transaction : TransactionInput} {history : List StoredTransaction}
    (h : HistoryComparable transaction history) :
    ∃ features, mapToModel platform features16 transaction history = .ok features := by
  rw [mapToModel, priorTransactions_ok h, Py.ok_bind, within_ok h.earlier]
  exact ⟨_, rfl⟩

/-- Both engines feed the models the same, on every history and baseline. -/
theorem mapToModel_computeFeatures16 (platform : Platform) (transaction : TransactionInput)
    (history : List StoredTransaction) (baseline : BaselineMetrics) :
    (do
      let features16 ← computeFeatures16 platform transaction history baseline
      mapToModel platform features16 transaction history) =
      buildFeatures platform transaction history := by
  cases hprior : priorTransactions transaction history with
  | error e =>
    rw [computeFeatures16, buildFeatures, hprior]
    rfl
  | ok prior =>
    have hcomparable := historyComparable_of_prior_ok hprior
    obtain ⟨features16, hfeatures, hhour, hdistance⟩ :=
      computeFeatures16_ok platform baseline hcomparable
    rw [hfeatures, Py.ok_bind, mapToModel, priorTransactions_ok hcomparable, Py.ok_bind,
      within_ok hcomparable.earlier, Py.ok_bind, hhour, hdistance,
      buildFeatures_ok platform hcomparable]
    rfl

theorem mean_perm {values values' : List ℚ} (h : values.Perm values') :
    mean values = mean values' := by
  rw [mean, mean, h.sum_eq, h.length_eq]

/-- The centre of a set of points does not depend on their order. -/
theorem centroid_perm {transactions transactions' : List StoredTransaction}
    (h : transactions.Perm transactions') : centroid transactions = centroid transactions' := by
  have hpoints := h.filterMap StoredTransaction.point
  unfold centroid
  simp only
  by_cases hempty : transactions.filterMap StoredTransaction.point = []
  · have hempty' : transactions'.filterMap StoredTransaction.point = [] := by
      rw [hempty] at hpoints
      exact hpoints.nil_eq.symm
    rw [dif_pos hempty, dif_pos hempty']
  · have hempty' : transactions'.filterMap StoredTransaction.point ≠ [] := by
      intro h'
      rw [h'] at hpoints
      exact hempty hpoints.eq_nil
    rw [dif_neg hempty, dif_neg hempty', Option.some.injEq, GeoPoint.mk.injEq]
    exact ⟨mean_perm (hpoints.map GeoPoint.lat), mean_perm (hpoints.map GeoPoint.lon)⟩

theorem modelColumns_perm (platform : Platform) (transaction : TransactionInput)
    {prior prior' : List StoredTransaction} (h : prior.Perm prior') :
    modelColumns platform transaction prior = modelColumns platform transaction prior' := by
  have hvelocity : (atMost transaction (5 * DateTime.microsPerMinute) prior).length =
      (atMost transaction (5 * DateTime.microsPerMinute) prior').length :=
    (h.filter _).length_eq
  rw [modelColumns, modelColumns, hvelocity, centroid_perm h]

/-- The history the baseline summarises, later transactions included. -/
def lastNinetyDays (transaction : TransactionInput) (history : List StoredTransaction) :
    List StoredTransaction :=
  history.filter fun tx =>
    DateTime.days (transaction.timestamp.instant - tx.timestamp.instant) ≤ 90

/-- Both clocks are normalised here, so this never raises. -/
theorem filterPy_ninetyDays (transaction : TransactionInput) (history : List StoredTransaction) :
    filterPy (fun t => do
      let age ← (clock transaction.timestamp).sub (clock t.timestamp)
      return DateTime.days age ≤ 90) history = .ok (lastNinetyDays transaction history) := by
  refine filterPy_ok ?_
  intro tx _
  have hage : (clock transaction.timestamp).sub (clock tx.timestamp) =
      .ok (transaction.timestamp.instant - tx.timestamp.instant) :=
    DateTime.sub_ok (DateTime.orUtc_comparable _ _)
  rw [hage]
  rfl

/-- The same analyst in the given feature mode. -/
def AnalystOrchestrator.withMode {W : Type} (analyst : AnalystOrchestrator W) (rich : Bool) :
    AnalystOrchestrator W :=
  { analyst with settings := { analyst.settings with useRichFeatures := rich } }

/-- In both modes the models get the same columns, where the history sorts and compares. -/
theorem buildInputs_features {W : Type} (analyst : AnalystOrchestrator W) (rich : Bool)
    {store : ProfileStore} {tx : TransactionInput} {history : List StoredTransaction}
    (hvector : tx.modelFeatures = none) (hhistory : store.history tx.ccNum.val = .ok history)
    (hcomparable : HistoryComparable tx history) :
    ∃ inputs, (analyst.withMode rich).buildInputs store tx = .ok inputs ∧
      inputs.features = modelColumns analyst.platform tx (earlierThan tx history) := by
  rw [AnalystOrchestrator.buildInputs, hhistory, Py.ok_bind, filterPy_ninetyDays, Py.ok_bind,
    hvector]
  cases rich with
  | true =>
    obtain ⟨features16, hfeatures, hhour, hdistance⟩ := computeFeatures16_ok analyst.platform
      (metrics analyst.platform (lastNinetyDays tx history)) hcomparable
    have hmap : mapToModel analyst.platform features16 tx history =
        .ok (modelColumns analyst.platform tx (earlierThan tx history)) := by
      rw [mapToModel, priorTransactions_ok hcomparable, Py.ok_bind,
        within_ok hcomparable.earlier, Py.ok_bind, hhour, hdistance]
      rfl
    simp only [AnalystOrchestrator.withMode, if_true, hfeatures, hmap, Py.ok_bind]
    exact ⟨_, rfl, rfl⟩
  | false =>
    simp only [AnalystOrchestrator.withMode, Bool.false_eq_true, if_false,
      buildFeatures_ok analyst.platform hcomparable, Py.ok_bind]
    exact ⟨_, rfl, rfl⟩

/-- A store with more transactions: any of other customers, and of the scored customer's
own only such as are not before the scored one, inserted anywhere. -/
def ExtendsLater (tx : TransactionInput) (store extended : ProfileStore) : Prop :=
  ∃ added : List StoredTransaction,
    (extended.transactions tx.ccNum.val).Perm (store.transactions tx.ccNum.val ++ added) ∧
      ∀ later ∈ added, tx.timestamp.instant ≤ later.timestamp.instant

/-- The earlier part of the history is the same up to the order of ties. -/
theorem ExtendsLater.earlier_perm {tx : TransactionInput} {store extended : ProfileStore}
    (h : ExtendsLater tx store extended) {history history' : List StoredTransaction}
    (hhistory : store.history tx.ccNum.val = .ok history)
    (hhistory' : extended.history tx.ccNum.val = .ok history') :
    (earlierThan tx history').Perm (earlierThan tx history) := by
  obtain ⟨added, hperm, hlater⟩ := h
  have hnone : earlierThan tx added = [] := by
    refine List.filter_eq_nil_iff.mpr ?_
    intro later hmem
    have hle := hlater later hmem
    simp only [decide_eq_true_eq]
    omega
  have hstored : (earlierThan tx (extended.transactions tx.ccNum.val)).Perm
      (earlierThan tx (store.transactions tx.ccNum.val)) := by
    have hfiltered := hperm.filter (fun t => t.timestamp.instant < tx.timestamp.instant)
    rw [List.filter_append] at hfiltered
    unfold earlierThan at hnone ⊢
    rwa [hnone, List.append_nil] at hfiltered
  have hsorted : (earlierThan tx history).Perm (earlierThan tx (store.transactions tx.ccNum.val)) :=
    (DateTime.sortedBy_perm hhistory).filter _
  have hsorted' : (earlierThan tx history').Perm
      (earlierThan tx (extended.transactions tx.ccNum.val)) :=
    (DateTime.sortedBy_perm hhistory').filter _
  exact (hsorted'.trans hstored).trans hsorted.symm

/-- No later transaction and no other customer reaches the vector the models are sent,
which is the same in both feature modes. -/
theorem modelVector_causal {W : Type} (analyst : AnalystOrchestrator W)
    {store extended : ProfileStore} {tx : TransactionInput} (hvector : tx.modelFeatures = none)
    (htx : tx.timestamp.isAware = true)
    (haware : ∀ t ∈ extended.transactions tx.ccNum.val, t.timestamp.isAware = true)
    (hextends : ExtendsLater tx store extended) :
    ∃ features : Features, features.map Prod.fst = featureColumns ∧
      ∀ rich : Bool, ∀ s ∈ [store, extended], ∃ inputs,
        (analyst.withMode rich).buildInputs s tx = .ok inputs ∧ inputs.features = features := by
  have hawareStore : ∀ t ∈ store.transactions tx.ccNum.val, t.timestamp.isAware = true := by
    obtain ⟨added, hperm, -⟩ := hextends
    intro t ht
    exact haware t (hperm.symm.subset (List.mem_append_left _ ht))
  obtain ⟨history, hhistory⟩ := DateTime.sortedBy_ok hawareStore
  obtain ⟨history', hhistory'⟩ := DateTime.sortedBy_ok haware
  have hcomparable : HistoryComparable tx history := by
    intro t ht
    exact (hawareStore t ((DateTime.sortedBy_perm hhistory).subset ht)).trans htx.symm
  have hcomparable' : HistoryComparable tx history' := by
    intro t ht
    exact (haware t ((DateTime.sortedBy_perm hhistory').subset ht)).trans htx.symm
  have hsame := modelColumns_perm analyst.platform tx (hextends.earlier_perm hhistory hhistory')
  refine ⟨modelColumns analyst.platform tx (earlierThan tx history), rfl, ?_⟩
  intro rich s hs
  rcases List.mem_pair.mp hs with rfl | rfl
  · exact buildInputs_features analyst rich hvector hhistory hcomparable
  · rw [← hsame]
    exact buildInputs_features analyst rich hvector hhistory' hcomparable'

/-- A request at noon whose features the pipeline computes. -/
def noonRequest : TransactionInput := { noonTx with modelFeatures := none }

/-- A transaction of the same minute is recorded meanwhile. -/
def meanwhileAtNoon : ProfileStore :=
  ProfileStore.addTransaction {} (AnalystOrchestrator.storedTransaction noonRequest .pass)

theorem modelVector_causal_atNoon :
    ∃ features : Features, features.map Prod.fst = featureColumns ∧
      ∀ rich : Bool, ∀ store ∈ [{}, meanwhileAtNoon], ∃ inputs,
        (AnalystOrchestrator.withMode ⟨answeringClient [] [] [], {}, .atNoon⟩ rich).buildInputs
          store noonRequest = .ok inputs ∧ inputs.features = features := by
  have hstored : meanwhileAtNoon.transactions noonRequest.ccNum.val =
      [AnalystOrchestrator.storedTransaction noonRequest .pass] :=
    ProfileStore.transactions_addTransaction_self {} _
  refine modelVector_causal ⟨answeringClient [] [] [], {}, .atNoon⟩ rfl rfl ?_ ?_
  · intro t ht
    rw [hstored, List.mem_singleton] at ht
    subst ht
    rfl
  · refine ⟨[AnalystOrchestrator.storedTransaction noonRequest .pass], ?_, ?_⟩
    · rw [hstored]
      exact List.Perm.refl _
    · intro later hlater
      rw [List.mem_singleton] at hlater
      subst hlater
      exact le_rfl

end VeriPay.AnalystApi
