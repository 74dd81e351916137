import VeriPay.AnalystApi.Profiles

/-!
The two feature engines: the basic one, which builds the ten model columns, and
the causal one, which computes sixteen features and maps them onto the same
columns. Both read only the transactions strictly before the scored one.
-/

namespace VeriPay.AnalystApi

open Lib

def featureColumns : List String :=
  ["amount_log", "mcc_risk", "velocity_5m", "device_trust", "network_trust",
    "impossible_travel", "new_device", "hour_of_day", "weekend", "distance_km"]

/-- `features.get(name)`. -/
def Features.get? (features : Features) (name : String) : Option ℚ := features.lookup name

/-- `features.get(name, 0.0)`. -/
def Features.getD (features : Features) (name : String) : ℚ := (features.get? name).getD 0

/-- The transactions that happened before the scored one. -/
def priorTransactions (transaction : TransactionInput) (history : List StoredTransaction) :
    Py (List StoredTransaction) :=
  filterPy (fun tx => tx.timestamp.lt transaction.timestamp) history

/-- Those of them at most `window` microseconds back. -/
def within (transaction : TransactionInput) (window : ℤ) (prior : List StoredTransaction) :
    Py (List StoredTransaction) :=
  filterPy (fun tx => do
    let age ← transaction.timestamp.sub tx.timestamp
    return age ≤ window) prior

/-- `round(math.log1p(max(0.0, amount * 100.0)), 4)`: the log of the cents. -/
def amountLog (platform : Platform) (amount : ℚ) : ℚ :=
  roundTo 4 (platform.log1p (max 0 (amount * 100)))

/-- One round of the loop in `_centroid_location`. -/
def appendPoint (points : List GeoPoint) (tx : StoredTransaction) : List GeoPoint :=
  match tx.location <|> tx.merchantLocation with
  | some point => points ++ [point]
  | none => points

def centroidLocation (history : List StoredTransaction) : Option GeoPoint :=
  let points := history.foldl appendPoint []
  if h : points = [] then none else some (centroidOf points h)

/-- `_distance_km`. -/
def distanceKm (platform : Platform) (transaction : TransactionInput) (home : Option GeoPoint) :
    ℚ :=
  match transaction.merchantLocation with
  | none => 0
  | some merchant =>
    match home with
    | some home => platform.haversineKm home merchant
    | none =>
      match transaction.location with
      | some location => platform.haversineKm location merchant
      | none => 0

/-- Distance from the customer's home to the transaction's merchant: `_distance` of the
causal engine. -/
def homeDistance (platform : Platform) (home merchant card : Option GeoPoint) : ℚ :=
  match merchant with
  | none => 0
  | some merchantPoint =>
    match home, card with
    | some homePoint, _ => platform.haversineKm homePoint merchantPoint
    | none, some cardPoint => platform.haversineKm cardPoint merchantPoint
    | none, none => 0

def isWeekend (timestamp : DateTime) : ℚ := if 5 ≤ timestamp.weekday then 1 else 0

def buildFeatures (platform : Platform) (transaction : TransactionInput)
    (history : List StoredTransaction) : Py Features := do
  let prior ← priorTransactions transaction history
  let velocity5m ← within transaction (5 * DateTime.microsPerMinute) prior
  let home := centroidLocation prior
  return [
    ("amount_log", amountLog platform transaction.amount.val),
    ("mcc_risk", roundTo 4 transaction.mccRisk.val),
    ("velocity_5m", velocity5m.length),
    ("device_trust", transaction.deviceTrust.val),
    ("network_trust", transaction.networkTrust.val),
    ("impossible_travel", transaction.impossibleTravel.val),
    ("new_device", transaction.newDevice.val),
    ("hour_of_day", transaction.timestamp.hour),
    ("weekend", isWeekend transaction.timestamp),
    ("distance_km", roundTo 2 (distanceKm platform transaction home))]

/-- The model services read the vector by position. -/
theorem buildFeatures_columns {platform : Platform} {transaction : TransactionInput}
    {history : List StoredTransaction} {features : Features}
    (h : buildFeatures platform transaction history = .ok features) :
    features.map Prod.fst = featureColumns := by
  obtain ⟨_, _, h⟩ := Py.bind_eq_ok.mp h
  obtain ⟨_, _, h⟩ := Py.bind_eq_ok.mp h
  cases h
  rfl

/-- `f"{n:02d}"`. -/
def twoDigits (n : ℤ) : String :=
  if 0 ≤ n ∧ n < 10 then "0" ++ toString n else toString n

/-- `_fmt(features.get(name))`. -/
def formatFeature (platform : Platform) (features : Features) (name : String) : String :=
  ((features.get? name).map platform.formatG).getD "—"

/-- The feature vector as analyst-friendly rows with baselines. -/
def describeFeatures (platform : Platform) (features : Features) (baseline : BaselineMetrics) :
    List FeatureRow :=
  let typicalHours :=
    if baseline.count ≠ 0 then
      twoDigits baseline.hourLow ++ ":00–" ++ twoDigits baseline.hourHigh ++ ":00"
    else "—"
  let row (name column unit : String) : FeatureRow :=
    { name, value := formatFeature platform features column, unit }
  [ row "amount" "amount_log" "log($)",
    { name := "hour_of_day"
      value := toString (truncate (features.getD "hour_of_day")) ++ ":00"
      unit := "hour" },
    row "weekend" "weekend" "0/1",
    row "mcc_risk" "mcc_risk" "0–1",
    row "velocity_5m" "velocity_5m" "txns",
    row "distance_km" "distance_km" "km",
    row "new_device" "new_device" "0/1",
    row "impossible_travel" "impossible_travel" "0/1",
    { name := "median_amount_90d"
      value := platform.formatG (platform.log1p (max 0 (baseline.medianAmount * 100)))
      customerBaseline := typicalHours
      unit := "log(¢)/typical hours" } ]

/-- The sixteen causal features. -/
structure Features16 where
  txnCount1h : ℚ
  txnCount24h : ℚ
  amtSum1h : ℚ
  amtSum24h : ℚ
  amtOverMedian90d : ℚ
  amtZscore90d : ℚ
  isNewMerchant : ℚ
  isNewCategory : ℚ
  daysSinceFirstSeenMerchant : ℚ
  distFromHomeKm : ℚ
  distFromPrevTxnKm : ℚ
  impliedVelocityKmh : ℚ
  hourOfDay : ℚ
  isNight : ℚ
  hoursSincePrevTxn : ℚ
  hourDeviationFromCustomerMode : ℚ

def kmhCap : ℚ := 9999
def zscoreClip : ℚ := 10

/-- Smallest circular distance of the hour from the modal hour. -/
def hourDeviation (hour : ℚ) (mode : ℤ) : ℚ :=
  if mode < 0 then 0 else min |hour - mode| (24 - |hour - mode|)

def amountSum (transactions : List StoredTransaction) : ℚ :=
  (transactions.map StoredTransaction.amount).sum

/-- Time since the transaction, zero when there is none. -/
def ageOrZero (current : DateTime) : Option StoredTransaction → Py ℤ
  | some tx => current.sub tx.timestamp
  | none => return 0

def computeFeatures16 (platform : Platform) (transaction : TransactionInput)
    (history : List StoredTransaction) (baseline : BaselineMetrics) : Py Features16 := do
  let prior ← priorTransactions transaction history
  let current := transaction.timestamp
  let amount := transaction.amount.val
  let has90d := 0 < baseline.count
  let median := if has90d then baseline.medianAmount else 0
  let mean := if has90d then baseline.meanAmount else 0
  let std := if has90d then baseline.amountStd else 0
  let zscore := if 0 < std then (amount - mean) / std else 0
  let clipped := max (-zscoreClip) (min zscoreClip zscore)
  let newMerchant := transaction.merchant.val ∉ prior.map StoredTransaction.merchant
  let priorCategories := (prior.map StoredTransaction.category).filter (· ≠ "")
  let newCategory := transaction.category ≠ "" ∧ transaction.category ∉ priorCategories
  let firstSeen := prior.find? (fun tx => tx.merchant = transaction.merchant.val)
  let firstAge ← ageOrZero current firstSeen
  let distHome :=
    homeDistance platform (centroid prior) transaction.merchantLocation transaction.location
  let previous := prior.getLast?
  let distPrev :=
    match previous.bind StoredTransaction.point,
        transaction.location <|> transaction.merchantLocation with
    | some prevPoint, some currentPoint => platform.haversineKm prevPoint currentPoint
    | _, _ => 0
  let previousAge ← ageOrZero current previous
  let hoursSincePrev := (previousAge : ℚ) / (DateTime.microsPerHour : ℚ)
  let implied := if 0 < hoursSincePrev ∧ 0 < distPrev then distPrev / hoursSincePrev else 0
  let lastHour ← within transaction DateTime.microsPerHour prior
  let lastDay ← within transaction DateTime.microsPerDay prior
  return {
    txnCount1h := lastHour.length
    txnCount24h := lastDay.length
    amtSum1h := roundTo 2 (amountSum lastHour)
    amtSum24h := roundTo 2 (amountSum lastDay)
    amtOverMedian90d := if median ≠ 0 then roundTo 4 (amount / median) else 0
    amtZscore90d := roundTo 4 clipped
    isNewMerchant := if newMerchant then 1 else 0
    isNewCategory := if newCategory then 1 else 0
    daysSinceFirstSeenMerchant := roundTo 2 (DateTime.days firstAge : ℤ)
    distFromHomeKm := roundTo 2 distHome
    distFromPrevTxnKm := roundTo 2 distPrev
    impliedVelocityKmh := roundTo 2 (min kmhCap implied)
    hourOfDay := current.hour
    isNight := if current.hour ≤ 5 then 1 else 0
    hoursSincePrevTxn := roundTo 2 hoursSincePrev
    hourDeviationFromCustomerMode :=
      roundTo 2 (hourDeviation current.hour (if has90d then baseline.hourMode else -1)) }

/-- The causal features on the model columns. -/
def mapToModel (platform : Platform) (features16 : Features16) (transaction : TransactionInput)
    (history : List StoredTransaction) : Py Features := do
  let prior ← priorTransactions transaction history
  let velocity5m ← within transaction (5 * DateTime.microsPerMinute) prior
  return [
    ("amount_log", amountLog platform transaction.amount.val),
    ("mcc_risk", roundTo 4 transaction.mccRisk.val),
    ("velocity_5m", velocity5m.length),
    ("device_trust", transaction.deviceTrust.val),
    ("network_trust", transaction.networkTrust.val),
    ("impossible_travel", transaction.impossibleTravel.val),
    ("new_device", transaction.newDevice.val),
    ("hour_of_day", features16.hourOfDay),
    ("weekend", isWeekend transaction.timestamp),
    ("distance_km", features16.distFromHomeKm)]

theorem mapToModel_columns {platform : Platform} {features16 : Features16}
    {transaction : TransactionInput} {history : List StoredTransaction} {features : Features}
    (h : mapToModel platform features16 transaction history = .ok features) :
    features.map Prod.fst = featureColumns := by
  obtain ⟨_, _, h⟩ := Py.bind_eq_ok.mp h
  obtain ⟨_, _, h⟩ := Py.bind_eq_ok.mp h
  cases h
  rfl

/-- The sixteen features as the dashboard's table. -/
def describeFeatures16 (platform : Platform) (features16 : Features16)
    (baseline : BaselineMetrics) : List FeatureRow :=
  let medianBaseline :=
    if baseline.count ≠ 0 then "median $" ++ platform.formatGrouped baseline.medianAmount
    else "—"
  let modeBaseline :=
    if 0 ≤ baseline.hourMode then twoDigits baseline.hourMode ++ ":00 usual hour" else "—"
  let row (name unit : String) (value : ℚ) (customerBaseline : String) : FeatureRow :=
    { name, value := platform.formatG value, customerBaseline, unit }
  [ row "txn_count_1h" "txns" features16.txnCount1h "—",
    row "txn_count_24h" "txns" features16.txnCount24h "—",
    row "amt_sum_1h" "$" features16.amtSum1h "—",
    row "amt_sum_24h" "$" features16.amtSum24h "—",
    row "amt_over_median_90d" "×" features16.amtOverMedian90d medianBaseline,
    row "amt_zscore_90d" "σ" features16.amtZscore90d "—",
    row "is_new_merchant" "0/1" features16.isNewMerchant "—",
    row "is_new_category" "0/1" features16.isNewCategory "—",
    row "days_since_first_seen_merchant" "days" features16.daysSinceFirstSeenMerchant "—",
    row "dist_from_home_km" "km" features16.distFromHomeKm "—",
    row "dist_from_prev_txn_km" "km" features16.distFromPrevTxnKm "—",
    row "implied_velocity_kmh" "km/h" features16.impliedVelocityKmh "—",
    row "hour_of_day" "hour" features16.hourOfDay "—",
    row "is_night" "0/1" features16.isNight "—",
    row "hours_since_prev_txn" "h" features16.hoursSincePrevTxn "—",
    row "hour_deviation_from_customer_mode" "h" features16.hourDeviationFromCustomerMode
      modeBaseline ]

end VeriPay.AnalystApi
