import Mathlib.Data.List.MinMax
import Mathlib.Algebra.Order.BigOperators.Group.List
import VeriPay.AnalystApi.Adjustments

/-!
The customer profile store: transactions and analyst verdicts by customer, the
behavioural baseline, and the drift of recent behaviour from it.
-/

namespace VeriPay.AnalystApi

open Lib

def suddenDistanceKm : ℚ := 250
def suddenTimeMinutes : ℤ := 15
def gradualLocationKm : ℚ := 100

structure StoredTransaction where
  transactionId : NonEmptyStr
  ccNum : ℕ
  amount : ℚ
  merchant : String
  category : String
  timestamp : DateTime
  location : Option GeoPoint
  merchantLocation : Option GeoPoint
  decision : Decision

structure StoredFeedback where
  transactionId : NonEmptyStr
  ccNum : ℕ
  analystDecision : String
  decision : Decision
  notes : String
  timestamp : DateTime

structure BaselineMetrics where
  medianAmount : ℚ := 0
  meanAmount : ℚ := 0
  amountStd : ℚ := 0
  hourLow : ℤ := 0
  hourHigh : ℤ := 23
  hourMode : ℤ := -1
  distinctMerchants : ℕ := 0
  dailyTxnCount : ℚ := 0
  count : ℕ := 0

structure DriftReport where
  kind : String
  severity : String
  message : String

/-- `statistics.median`. -/
def median (values : List ℚ) : ℚ :=
  let sorted := values.mergeSort (· ≤ ·)
  let half := sorted.length / 2
  if sorted.length % 2 = 1 then sorted.getD half 0
  else (sorted.getD (half - 1) 0 + sorted.getD half 0) / 2

/-- `statistics.mean`. -/
def mean (values : List ℚ) : ℚ := values.sum / values.length

/-- `statistics.stdev`. -/
def stdev (platform : Platform) (values : List ℚ) : ℚ :=
  platform.sqrt ((values.map (fun x => (x - mean values) ^ 2)).sum / (values.length - 1))

/-- `statistics.quantiles(values, n=4)[i - 1]`, by the exclusive method. -/
def quartile (values : List ℕ) (i : ℕ) : ℚ :=
  let sorted := values.mergeSort (· ≤ ·)
  let m := sorted.length + 1
  let j := max 1 (min (sorted.length - 1) (i * m / 4))
  let delta : ℤ := i * m - j * 4
  ((sorted.getD (j - 1) 0 : ℚ) * (4 - delta) + (sorted.getD j 0 : ℚ) * delta) / 4

/-- `Counter(values).most_common(1)[0][0]`: the first value that occurs most. -/
def mostCommon (values : List ℕ) : Option ℕ :=
  values.eraseDups.argmax (fun value => values.count value)

/-- `max(0, min(23, int(x)))`. -/
def clampHour (x : ℚ) : ℤ := max 0 (min 23 (truncate x))

/-- Summarise a set of transactions into a behavioural baseline. -/
def metrics (platform : Platform) (transactions : List StoredTransaction) : BaselineMetrics :=
  if transactions = [] then {}
  else
    let amounts := transactions.map StoredTransaction.amount
    let hours := transactions.map (fun tx => tx.timestamp.hour)
    let days := (transactions.map (fun tx => tx.timestamp.date)).eraseDups
    { medianAmount := median amounts
      meanAmount := mean amounts
      amountStd := if 2 ≤ amounts.length then stdev platform amounts else 0
      hourLow := if 4 ≤ hours.length then clampHour (quartile hours 1) else hours.min?.getD 0
      hourHigh := if 4 ≤ hours.length then clampHour (quartile hours 2) else hours.max?.getD 23
      hourMode := ((mostCommon hours).map Int.ofNat).getD (-1)
      distinctMerchants := (transactions.map StoredTransaction.merchant).eraseDups.length
      dailyTxnCount := roundTo 2 (transactions.length / max 1 days.length)
      count := transactions.length }

def StoredTransaction.point (tx : StoredTransaction) : Option GeoPoint :=
  tx.location <|> tx.merchantLocation

theorem sum_bounds {low high : ℚ} {values : List ℚ} (h : ∀ q ∈ values, low ≤ q ∧ q ≤ high) :
    low * values.length ≤ values.sum ∧ values.sum ≤ high * values.length := by
  have hlow := List.card_nsmul_le_sum values low (fun q hq => (h q hq).1)
  have hhigh := List.sum_le_card_nsmul values high (fun q hq => (h q hq).2)
  rw [nsmul_eq_mul, mul_comm] at hlow hhigh
  exact ⟨hlow, hhigh⟩

theorem mean_bounds {low high : ℚ} {values : List ℚ} (hne : values ≠ [])
    (h : ∀ q ∈ values, low ≤ q ∧ q ≤ high) : low ≤ mean values ∧ mean values ≤ high := by
  have hpos : (0 : ℚ) < values.length := by
    exact_mod_cast List.length_pos_iff.mpr hne
  obtain ⟨hlow, hhigh⟩ := sum_bounds h
  exact ⟨(le_div_iff₀ hpos).mpr hlow, (div_le_iff₀ hpos).mpr hhigh⟩

/-- The mean of the points; it stays within the coordinate bounds. -/
def centroidOf (points : List GeoPoint) (hne : points ≠ []) : GeoPoint where
  lat := mean (points.map GeoPoint.lat)
  lon := mean (points.map GeoPoint.lon)
  lat_bounds := by
    apply mean_bounds (by simpa using hne)
    intro q hq
    obtain ⟨point, _, rfl⟩ := List.mem_map.mp hq
    exact point.lat_bounds
  lon_bounds := by
    apply mean_bounds (by simpa using hne)
    intro q hq
    obtain ⟨point, _, rfl⟩ := List.mem_map.mp hq
    exact point.lon_bounds

def centroid (transactions : List StoredTransaction) : Option GeoPoint :=
  let points := transactions.filterMap StoredTransaction.point
  if h : points = [] then none else some (centroidOf points h)

/-- In-memory per-customer transactions, and the verdicts in arrival order. -/
structure ProfileStore where
  transactions : ℕ → List StoredTransaction := fun _ => []
  feedback : List StoredFeedback := []
  customerByTx : String → Option ℕ := fun _ => none

namespace ProfileStore

def addTransaction (store : ProfileStore) (tx : StoredTransaction) : ProfileStore :=
  { store with
    transactions :=
      Function.update store.transactions tx.ccNum (store.transactions tx.ccNum ++ [tx])
    customerByTx := Function.update store.customerByTx tx.transactionId.val (some tx.ccNum) }

@[simp] theorem transactions_addTransaction_self (store : ProfileStore) (tx : StoredTransaction) :
    (store.addTransaction tx).transactions tx.ccNum = store.transactions tx.ccNum ++ [tx] :=
  Function.update_self ..

theorem transactions_addTransaction_of_ne (store : ProfileStore) {tx : StoredTransaction}
    {customer : ℕ} (h : customer ≠ tx.ccNum) :
    (store.addTransaction tx).transactions customer = store.transactions customer :=
  Function.update_of_ne h ..

/-- The store with further transactions, added in this order. -/
def addAll (store : ProfileStore) (added : List StoredTransaction) : ProfileStore :=
  added.foldl addTransaction store

theorem transactions_addAll (store : ProfileStore) {added : List StoredTransaction}
    {customer : ℕ} (h : ∀ tx ∈ added, tx.ccNum = customer) :
    (store.addAll added).transactions customer = store.transactions customer ++ added := by
  induction added generalizing store with
  | nil => exact (List.append_nil _).symm
  | cons tx rest ih =>
    have hrest := ih (store.addTransaction tx) (fun t ht => h t (List.mem_cons_of_mem _ ht))
    have hfirst := h tx List.mem_cons_self
    subst hfirst
    rw [transactions_addTransaction_self, List.append_assoc] at hrest
    exact hrest

@[simp] theorem customerByTx_addTransaction (store : ProfileStore) (tx : StoredTransaction) :
    (store.addTransaction tx).customerByTx =
      Function.update store.customerByTx tx.transactionId.val (some tx.ccNum) := rfl

def recordFeedback (store : ProfileStore) (feedback : StoredFeedback) : ProfileStore :=
  { store with feedback := store.feedback ++ [feedback] }

def history (store : ProfileStore) (customer : ℕ) : Py (List StoredTransaction) :=
  DateTime.sortedBy StoredTransaction.timestamp (store.transactions customer)

def recent (store : ProfileStore) (customer : ℕ) (days : ℤ) : Py (List StoredTransaction) := do
  let history ← store.history customer
  match history.getLast? with
  | none => return []
  | some last =>
    let cutoff ← last.timestamp.addMicros (-(days * DateTime.microsPerDay))
    filterPy (fun tx => cutoff.le tx.timestamp) history

/-- The customer's verdicts, oldest first. -/
def feedbackForCustomer (store : ProfileStore) (customer : ℕ) : List String :=
  (store.feedback.filter (fun fb => fb.ccNum = customer)).map StoredFeedback.analystDecision

def recentBenign (store : ProfileStore) (customer : ℕ) (window : ℕ) : Bool :=
  let labels := store.feedbackForCustomer customer
  window ≤ labels.length ∧ (lastItems window labels).all isBenign

def hasConfirmedFraud (store : ProfileStore) (customer : ℕ) : Bool :=
  (store.feedbackForCustomer customer).any isConfirmedFraud

/-- The first pair of consecutive transactions that are minutes apart and a jump
away from each other. -/
def suddenDrift (platform : Platform) :
    List (StoredTransaction × StoredTransaction) → Py (Option DriftReport)
  | [] => return none
  | (prev, curr) :: rest => do
    let gap ← curr.timestamp.sub prev.timestamp
    if suddenTimeMinutes * DateTime.microsPerMinute < gap then suddenDrift platform rest
    else
      match prev.point, curr.point with
      | some prevPoint, some currPoint =>
        let distance := platform.haversineKm prevPoint currPoint
        if suddenDistanceKm ≤ distance then
          return some {
            kind := "sudden"
            severity := if 1000 ≤ distance then "red" else "yellow"
            message := "Location jumped " ++ platform.formatFixed 0 distance ++
              " km in under " ++ toString suddenTimeMinutes ++ " minutes." }
        else suddenDrift platform rest
      | _, _ => suddenDrift platform rest

def gradualDrift (platform : Platform) (recent longTerm : List StoredTransaction) :
    Option DriftReport :=
  let resetMetrics := metrics platform recent
  let baselineMetrics := metrics platform longTerm
  if 5 ≤ resetMetrics.count ∧ 5 ≤ baselineMetrics.count then
    let ratio := resetMetrics.medianAmount / baselineMetrics.medianAmount
    let spending :=
      if baselineMetrics.medianAmount ≠ 0 ∧ ¬ (1 / 2 ≤ ratio ∧ ratio ≤ 2) then
        ["spending level changed"]
      else []
    let area :=
      match centroid recent, centroid longTerm with
      | some recentCenter, some longCenter =>
        if gradualLocationKm ≤ platform.haversineKm recentCenter longCenter then
          ["active area relocated"]
        else []
      | _, _ => []
    let reasons := spending ++ area
    if reasons = [] then none
    else some {
      kind := "gradual"
      severity := "yellow"
      message := "Gradual drift: " ++ "; ".intercalate reasons ++ " from long-term baseline." }
  else none

/-- Compare recent (30d) behaviour against the long-term (90d) baseline. -/
def detectDrift (platform : Platform) (store : ProfileStore) (customer : ℕ) :
    Py (Option DriftReport) := do
  let history ← store.history customer
  match history.getLast? with
  | none => return none
  | some last =>
    if history.length < 5 then return none
    else
      let recent ← store.recent customer 30
      let longTerm ← filterPy (fun tx => do
        let age ← last.timestamp.sub tx.timestamp
        return DateTime.days age ≤ 90) history
      let sudden ← suddenDrift platform (recent.zip recent.tail)
      match sudden with
      | some report => return some report
      | none => return gradualDrift platform recent longTerm

end ProfileStore

end VeriPay.AnalystApi
