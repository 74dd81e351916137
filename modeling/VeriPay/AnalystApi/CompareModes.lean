import VeriPay.AnalystApi.Causality
import VeriPay.Lib.Outcome

/-!
The head-to-head of the two feature engines on random customer timelines. Both engines give the
same vector on every transaction that is drawn, so the comparison comes out even whatever the
source of random numbers.
-/

namespace VeriPay.AnalystApi

open Lib Common

structure TimelineRow where
  transactionId : NonEmptyStr
  isFraud : Bool
  basicRisk : RiskScore
  richRisk : RiskScore
  vectorsEqual : Bool

structure Comparison where
  total : ℕ
  fraud : ℕ
  basicFalsePositive : ℕ
  richFalsePositive : ℕ
  basicFraudFlagged : ℕ
  richFraudFlagged : ℕ
  decisionsDiffer : ℕ
  vectorsIdentical : Bool
  vectorMismatches : ℕ

namespace Comparison

variable (comparison : Comparison)

def legit : ℤ := comparison.total - comparison.fraud

def basicFpr : ℚ :=
  if comparison.legit ≠ 0 then comparison.basicFalsePositive / comparison.legit else 0

def richFpr : ℚ :=
  if comparison.legit ≠ 0 then comparison.richFalsePositive / comparison.legit else 0

def basicCatch : ℚ :=
  if comparison.fraud ≠ 0 then comparison.basicFraudFlagged / comparison.fraud else 0

def richCatch : ℚ :=
  if comparison.fraud ≠ 0 then comparison.richFraudFlagged / comparison.fraud else 0

end Comparison

section Evaluation

variable (rows : List TimelineRow) (threshold : ℤ)

def TimelineRow.basicFlagged (row : TimelineRow) : Bool := threshold ≤ row.basicRisk.val

def TimelineRow.richFlagged (row : TimelineRow) : Bool := threshold ≤ row.richRisk.val

/-- `evaluate`. -/
def evaluateModes : Comparison where
  total := rows.length
  fraud := rows.countP fun row => row.isFraud
  basicFalsePositive := rows.countP fun row => !row.isFraud && row.basicFlagged threshold
  richFalsePositive := rows.countP fun row => !row.isFraud && row.richFlagged threshold
  basicFraudFlagged := rows.countP fun row => row.isFraud && row.basicFlagged threshold
  richFraudFlagged := rows.countP fun row => row.isFraud && row.richFlagged threshold
  decisionsDiffer := rows.countP fun row =>
    row.basicFlagged threshold != row.richFlagged threshold
  vectorsIdentical := rows.all fun row => row.vectorsEqual
  vectorMismatches := rows.countP fun row => !row.vectorsEqual

end Evaluation

def referenceWeights : List (String × ℚ) :=
  [("amount_log", 2), ("mcc_risk", 30), ("velocity_5m", 2), ("impossible_travel", 20),
    ("new_device", 15), ("hour_of_day", 4 / 10), ("weekend", 3), ("distance_km", 1 / 100)]

/-- What an untrusted and what an unknown signal adds. -/
def referenceTrustRisk : List (String × ℚ × ℚ) :=
  [("device_trust", 12, 4), ("network_trust", 10, 3)]

def referenceRisk (features : Features) : RiskScore :=
  let weighted := (referenceWeights.map fun (column, weight) => features.getD column * weight).sum
  let distrust := (referenceTrustRisk.map fun (column, untrusted, unknown) =>
    let value := (features.get? column).getD (-1)
    if value = 0 then untrusted else if value < 0 then unknown else 0).sum
  clampScore (roundEven (weighted + distrust))

/-- `basic == rich`: the same columns with the same values, in any order. -/
def Features.sameAs (features other : Features) : Bool :=
  (features.all fun (column, value) => other.get? column = some value) &&
    other.all fun (column, value) => features.get? column = some value

section Timelines

variable {S : Type} (source : RandomSource S) (platform : Platform)

theorem label_ne_empty {head : String} (h : head ≠ "") (tail : String) : head ++ tail ≠ "" :=
  fun heq => h (String.append_eq_empty_iff.mp heq).1

def timelineId (customer txnIndex : ℕ) : NonEmptyStr :=
  ⟨"tx_" ++ (toString customer ++ "_" ++ toString txnIndex), label_ne_empty (by decide) _⟩

def timelineMerchant (customer i : ℕ) : NonEmptyStr :=
  ⟨"m_" ++ (toString customer ++ "_" ++ toString i), label_ne_empty (by decide) _⟩

def foreignMerchant (customer : ℕ) : NonEmptyStr :=
  ⟨"m_foreign_" ++ toString customer, label_ne_empty (by decide) _⟩

def timelineCategory (i : ℕ) : String := "cat_" ++ toString (i % 3)

/-- Tuesday noon, 2026-01-06. -/
def timelineBase : DateTime where
  wall := 739621 * DateTime.microsPerDay + 12 * DateTime.microsPerHour
  utcOffset := some 0

theorem home_lat_bounds (offset : {q : ℚ // -(5 / 100) ≤ q ∧ q ≤ 5 / 100}) :
    -90 ≤ 407 / 10 + offset.val ∧ 407 / 10 + offset.val ≤ 90 := by
  obtain ⟨offset, hlow, hhigh⟩ := offset
  constructor <;> linarith

theorem home_lon_bounds : (-180 : ℚ) ≤ -74 ∧ (-74 : ℚ) ≤ 180 := by norm_num

/-- The customer's home, near the base. -/
def drawHome : Effect S GeoPoint := do
  let offset ← draw (source.uniform (-(5 / 100)) (5 / 100) (by norm_num))
  return ⟨407 / 10 + offset.val, -74, home_lat_bounds offset, home_lon_bounds⟩

theorem abroad_bounds : ((-90 : ℚ) ≤ 515 / 10 ∧ (515 / 10 : ℚ) ≤ 90) ∧
    (-180 : ℚ) ≤ -(1 / 10) ∧ (-(1 / 10) : ℚ) ≤ 180 := by norm_num

def abroad : GeoPoint := ⟨515 / 10, -(1 / 10), abroad_bounds.1, abroad_bounds.2⟩

theorem spike_amount_nonneg : (0 : ℚ) ≤ 6000 := by norm_num

def drawAmount (spike : Bool) : Effect S {q : ℚ // 0 ≤ q} :=
  if spike then return ⟨6000, spike_amount_nonneg⟩
  else do
    let amount ← draw (source.uniform 5 220 (by norm_num))
    return ⟨amount.val, (by norm_num : (0 : ℚ) ≤ 5).trans amount.property.1⟩

def drawMerchant (customer : ℕ) (spike : Bool) : Effect S NonEmptyStr :=
  if spike then return foreignMerchant customer
  else source.choice (timelineMerchant customer 0)
    ((List.range' 1 4).map (timelineMerchant customer))

theorem moderate_unit : 0 ≤ roundTo 3 (35 / 100) ∧ roundTo 3 (35 / 100) ≤ 1 :=
  ⟨roundTo_nonneg 3 (by norm_num), roundTo_le_one 3 (by norm_num)⟩

theorem trust_bounds (unknown : Bool) :
    -1 ≤ (if unknown then -1 else 1 : ℚ) ∧ (if unknown then -1 else 1 : ℚ) ≤ 1 := by
  cases unknown <;> norm_num

theorem flag_bounds (flag : Bool) :
    0 ≤ (if flag then 1 else 0 : ℚ) ∧ (if flag then 1 else 0 : ℚ) ≤ 1 := by
  cases flag <;> norm_num

/-- The draws for one transaction. A late one may be a spike: large, and often far away. -/
def drawTransaction (customer : ℕ) (home : GeoPoint) (now : DateTime) (txnIndex : ℕ) :
    Effect S TransactionInput := do
  let spike ← source.andBelow (6 ≤ txnIndex) (1 / 2)
  let amount ← drawAmount source spike
  let merchant ← drawMerchant source customer spike
  let category ← source.choice (timelineCategory 0) ((List.range' 1 4).map timelineCategory)
  let foreignLocation ← source.below (1 / 2)
  let deviceUnknown ← source.below (3 / 10)
  let networkUnknown ← source.below (1 / 4)
  return {
    transactionId := timelineId customer txnIndex
    ccNum := ⟨2000 + customer, by omega⟩
    amount := ⟨roundTo 2 amount.val, roundTo_nonneg 2 amount.property⟩
    merchant
    category
    timestamp := now
    location := some home
    merchantLocation := some (if spike && foreignLocation then abroad else home)
    mccRisk := ⟨roundTo 3 (35 / 100), moderate_unit⟩
    deviceTrust := ⟨if deviceUnknown then -1 else 1, trust_bounds deviceUnknown⟩
    networkTrust := ⟨if networkUnknown then -1 else 1, trust_bounds networkUnknown⟩
    newDevice := ⟨if spike then 1 else 0, flag_bounds spike⟩
    impossibleTravel := ⟨if spike && foreignLocation then 1 else 0,
      flag_bounds (spike && foreignLocation)⟩ }

/-- The vectors of both engines. -/
def bothVectors (transaction : TransactionInput) (history : List StoredTransaction) :
    Py (Features × Features) := do
  let baseline := metrics platform history
  let basic ← buildFeatures platform transaction history
  let richMap ← computeFeatures16 platform transaction history baseline
  let rich ← mapToModel platform richMap transaction history
  return (basic, rich)

/-- The label of a transaction, with mild noise. -/
def drawFraud (risk : RiskScore) : Effect S Bool := do
  let high ← source.andBelow (70 ≤ risk.val) (3 / 4)
  if high then return true else source.andBelow (risk.val ≤ 28) (3 / 100)

/-- The clock, the history and the rows of one customer. -/
structure Timeline where
  now : DateTime
  history : List StoredTransaction := []
  rows : List TimelineRow := []

def storedRow (transaction : TransactionInput) : StoredTransaction where
  transactionId := transaction.transactionId
  ccNum := transaction.ccNum.val
  amount := transaction.amount.val
  merchant := transaction.merchant.val
  category := transaction.category
  timestamp := transaction.timestamp
  location := transaction.location <|> transaction.merchantLocation
  merchantLocation := transaction.merchantLocation
  decision := .pass

/-- One round of the loop over the transactions of a customer. -/
def transact (customer : ℕ) (home : GeoPoint) (timeline : Timeline) (txnIndex : ℕ) :
    Effect S Timeline := do
  let minutes ← source.choice (8 : ℤ) [20, 45, 120, 400]
  let now ← liftM (timeline.now.addMicros (minutes * DateTime.microsPerMinute))
  let transaction ← drawTransaction source customer home now txnIndex
  let (basic, rich) ← liftM (bothVectors platform transaction timeline.history)
  let fraud ← drawFraud source (referenceRisk basic)
  let row := {
    transactionId := transaction.transactionId
    isFraud := fraud
    basicRisk := referenceRisk basic
    richRisk := referenceRisk rich
    vectorsEqual := basic.sameAs rich }
  return {
    now
    history := timeline.history ++ [storedRow transaction]
    rows := timeline.rows ++ [row] }

/-- The rows of one customer. -/
def customerTimeline (customer : ℕ) : Effect S (List TimelineRow) := do
  let home ← drawHome source
  let now ← liftM (timelineBase.addMicros (customer * DateTime.microsPerDay))
  let timeline ← (List.range 9).foldlM (transact source platform customer home) { now }
  return timeline.rows

def generateTimelines (customers : ℕ) : Effect S (List TimelineRow) :=
  (List.range customers).foldlM (fun rows customer => do
    let timeline ← customerTimeline source platform customer
    return rows ++ timeline) []

end Timelines

section Counting

variable {rows : List TimelineRow} {threshold : ℤ}

theorem countP_le_add_countP_ne {α : Type} (p q : α → Bool) (items : List α) :
    items.countP p ≤ items.countP q + items.countP fun item => p item != q item := by
  induction items with
  | nil => simp
  | cons item rest ih =>
    simp only [List.countP_cons]
    cases p item <;> cases q item <;> simp <;> omega

/-- The counts of the two modes are no further apart than the decisions that differ. -/
structure Comparison.Apart (comparison : Comparison) : Prop where
  basicFalsePositive_le : comparison.basicFalsePositive ≤
    comparison.richFalsePositive + comparison.decisionsDiffer
  richFalsePositive_le : comparison.richFalsePositive ≤
    comparison.basicFalsePositive + comparison.decisionsDiffer
  basicFraudFlagged_le : comparison.basicFraudFlagged ≤
    comparison.richFraudFlagged + comparison.decisionsDiffer
  richFraudFlagged_le : comparison.richFraudFlagged ≤
    comparison.basicFraudFlagged + comparison.decisionsDiffer

theorem evaluateModes_apart (rows : List TimelineRow) (threshold : ℤ) :
    (evaluateModes rows threshold).Apart := by
  have hdiffer : ∀ p q : TimelineRow → Bool, (∀ row, (p row != q row) = true →
      (row.basicFlagged threshold != row.richFlagged threshold) = true) →
      rows.countP p ≤ rows.countP q + (evaluateModes rows threshold).decisionsDiffer := by
    intro p q himp
    exact (countP_le_add_countP_ne p q rows).trans
      (Nat.add_le_add_left (List.countP_mono_left fun row _ h => himp row h) _)
  constructor <;> (apply hdiffer; intro row; cases row.isFraud <;> simp [ne_comm])

variable (threshold) in
/-- Where equal vectors come with equal risks, only mismatches decide differently. -/
theorem decisionsDiffer_le_vectorMismatches
    (h : ∀ row ∈ rows, row.vectorsEqual = true → row.basicRisk = row.richRisk) :
    (evaluateModes rows threshold).decisionsDiffer ≤
      (evaluateModes rows threshold).vectorMismatches := by
  apply List.countP_mono_left
  intro row hrow hdiffer
  by_contra hequal
  have hrisk := h row hrow (by simpa using hequal)
  simp [TimelineRow.basicFlagged, TimelineRow.richFlagged, hrisk] at hdiffer

theorem evaluateModes_bounds (rows : List TimelineRow) (threshold : ℤ) :
    (evaluateModes rows threshold).basicFalsePositive + (evaluateModes rows threshold).fraud ≤
        (evaluateModes rows threshold).total ∧
      (evaluateModes rows threshold).basicFraudFlagged ≤ (evaluateModes rows threshold).fraud := by
  constructor
  · have hlegit : (evaluateModes rows threshold).basicFalsePositive ≤
        rows.countP fun row => decide ¬row.isFraud = true :=
      List.countP_mono_left fun row _ h => by simpa using (Bool.and_eq_true_iff.mp h).1
    have htotal : rows.length = _ :=
      List.length_eq_countP_add_countP fun row : TimelineRow => row.isFraud
    show _ + rows.countP _ ≤ rows.length
    omega
  · exact List.countP_mono_left fun row _ h => (Bool.and_eq_true_iff.mp h).1

/-- Nothing sets the modes apart. -/
structure Comparison.Unchanged (comparison : Comparison) : Prop where
  vectors : comparison.vectorsIdentical = true
  mismatches : comparison.vectorMismatches = 0
  decisions : comparison.decisionsDiffer = 0
  fpr : comparison.basicFpr = comparison.richFpr
  fpr_bounds : 0 ≤ comparison.basicFpr ∧ comparison.basicFpr ≤ 1
  catches : comparison.basicCatch = comparison.richCatch
  catch_bounds : 0 ≤ comparison.basicCatch ∧ comparison.basicCatch ≤ 1

theorem ratio_bounds {part whole : ℚ} (hpart : 0 ≤ part) (hle : part ≤ whole) :
    0 ≤ part / whole ∧ part / whole ≤ 1 :=
  ⟨div_nonneg hpart (hpart.trans hle), div_le_one_of_le₀ hle (hpart.trans hle)⟩

/-- The row of a transaction on which both engines give one vector. -/
def TimelineRow.Same (row : TimelineRow) : Prop :=
  row.vectorsEqual = true ∧ row.basicRisk = row.richRisk

theorem unchanged_of_same (h : ∀ row ∈ rows, row.Same) (threshold : ℤ) :
    (evaluateModes rows threshold).Unchanged := by
  have hmismatches : (evaluateModes rows threshold).vectorMismatches = 0 := by
    refine List.countP_eq_zero.mpr ?_
    intro row hrow
    simp [(h row hrow).1]
  have hdecisions := decisionsDiffer_le_vectorMismatches threshold
    fun row hrow _ => (h row hrow).2
  have hapart := evaluateModes_apart rows threshold
  obtain ⟨hlegit, hcaught⟩ := evaluateModes_bounds rows threshold
  have hidentical : (evaluateModes rows threshold).vectorsIdentical = true :=
    List.all_eq_true.mpr fun row hrow => (h row hrow).1
  generalize evaluateModes rows threshold = comparison at *
  rw [hmismatches, Nat.le_zero] at hdecisions
  obtain ⟨hbasicFp, hrichFp, hbasicCatch, hrichCatch⟩ := hapart
  have hfp : comparison.basicFalsePositive = comparison.richFalsePositive := by omega
  have hcatch : comparison.basicFraudFlagged = comparison.richFraudFlagged := by omega
  have hlegitCast : (comparison.basicFalsePositive : ℚ) ≤ comparison.legit := by
    have hlegitInt : (comparison.basicFalsePositive : ℤ) ≤ comparison.legit := by
      unfold Comparison.legit
      omega
    exact_mod_cast hlegitInt
  have hcaughtCast : (comparison.basicFraudFlagged : ℚ) ≤ comparison.fraud := by
    exact_mod_cast hcaught
  refine ⟨hidentical, hmismatches, hdecisions, ?_, ?_, ?_, ?_⟩
  · rw [Comparison.basicFpr, Comparison.richFpr, hfp]
  · unfold Comparison.basicFpr
    split_ifs
    · exact ratio_bounds (Nat.cast_nonneg _) hlegitCast
    · exact ⟨le_rfl, zero_le_one⟩
  · rw [Comparison.basicCatch, Comparison.richCatch, hcatch]
  · unfold Comparison.basicCatch
    split_ifs
    · exact ratio_bounds (Nat.cast_nonneg _) hcaughtCast
    · exact ⟨le_rfl, zero_le_one⟩

end Counting

section Vectors

theorem lookup_of_mem {features : Features} (hkeys : (features.map Prod.fst).Nodup)
    {column : String} {value : ℚ} (h : (column, value) ∈ features) :
    features.get? column = some value := by
  unfold Features.get?
  induction features with
  | nil => cases h
  | cons first rest ih =>
    obtain ⟨hfirst, hrest⟩ := List.nodup_cons.mp hkeys
    rw [List.lookup_cons]
    rcases List.mem_cons.mp h with rfl | hmem
    · simp
    · have hother : column ≠ first.1 := by
        intro heq
        exact hfirst (heq ▸ List.mem_map_of_mem hmem)
      rw [beq_eq_false_iff_ne.mpr hother]
      exact ih hrest hmem

theorem Features.sameAs_self {features : Features} (hkeys : (features.map Prod.fst).Nodup) :
    features.sameAs features = true := by
  have hall : (features.all fun (column, value) => features.get? column = some value) = true :=
    List.all_eq_true.mpr fun _ hmem => decide_eq_true (lookup_of_mem hkeys hmem)
  rw [Features.sameAs, hall]
  rfl

theorem featureColumns_nodup : featureColumns.Nodup := by decide

/-- On a history that compares both engines return, with one vector. -/
theorem bothVectors_ok (platform : Platform) {transaction : TransactionInput}
    {history : List StoredTransaction} (h : HistoryComparable transaction history) :
    ∃ features : Features, (features.map Prod.fst).Nodup ∧
      bothVectors platform transaction history = .ok (features, features) := by
  have hbasic := buildFeatures_ok platform h
  obtain ⟨richMap, hrichMap, hrich⟩ := Py.bind_eq_ok.mp
    ((mapToModel_computeFeatures16 platform transaction history
      (metrics platform history)).trans hbasic)
  refine ⟨modelColumns platform transaction (earlierThan transaction history), ?_, ?_⟩
  · rw [buildFeatures_columns hbasic]
    exact featureColumns_nodup
  · rw [bothVectors, hbasic]
    simp only [Py.ok_bind, hrichMap, hrich]
    rfl

end Vectors

section Runs

open Effect

variable {S : Type} (source : RandomSource S) (platform : Platform) {E : PyErr → Prop}

theorem outcome_drawAmount (spike : Bool) :
    Outcome (fun _ => True) E (drawAmount source spike) :=
  Outcome.ite (fun _ => Outcome.pure trivial) fun _ =>
    (Outcome.draw fun _ => trivial).bind fun _ _ => Outcome.pure trivial

theorem outcome_drawMerchant (customer : ℕ) (spike : Bool) :
    Outcome (fun _ => True) E (drawMerchant source customer spike) :=
  Outcome.ite (fun _ => Outcome.pure trivial) fun _ => source.outcome_choice _ _

theorem outcome_drawFraud (risk : RiskScore) :
    Outcome (fun _ => True) E (drawFraud source risk) :=
  (source.outcome_andBelow _ _).bind fun _ _ =>
    Outcome.ite (fun _ => Outcome.pure trivial) fun _ => source.outcome_andBelow _ _

theorem outcome_drawTransaction (customer : ℕ) (home : GeoPoint) (now : DateTime)
    (txnIndex : ℕ) :
    Outcome (fun transaction => transaction.transactionId = timelineId customer txnIndex ∧
      transaction.timestamp = now) E (drawTransaction source customer home now txnIndex) := by
  refine (source.outcome_andBelow _ _).bind fun spike _ => ?_
  refine (outcome_drawAmount source spike).bind fun amount _ => ?_
  refine (outcome_drawMerchant source customer spike).bind fun merchant _ => ?_
  refine (source.outcome_choice _ _).bind fun category _ => ?_
  refine (source.outcome_below _).bind fun foreignLocation _ => ?_
  refine (source.outcome_below _).bind fun deviceUnknown _ => ?_
  refine (source.outcome_below _).bind fun networkUnknown _ => ?_
  exact Outcome.pure ⟨rfl, rfl⟩

/-- What the rounds of a customer's loop keep. -/
structure Timeline.Kept (customer i : ℕ) (timeline : Timeline) : Prop where
  aware : timeline.now.isAware = true
  early : 0 ≤ timeline.now.wall
  late : timeline.now.wall ≤ timelineBase.wall + customer * DateTime.microsPerDay +
    i * (400 * DateTime.microsPerMinute)
  history : ∀ tx ∈ timeline.history, tx.timestamp.isAware = true
  same : ∀ row ∈ timeline.rows, row.Same
  ids : timeline.rows.map TimelineRow.transactionId = (List.range i).map (timelineId customer)

/-- The dates run out, which takes a great many customers. -/
def OutOfDates (customers : ℕ) (e : PyErr) : Prop :=
  e = .overflowError "date value out of range" ∧ 2900000 < customers

theorem outcome_choice_minutes :
    Outcome (fun minutes : ℤ => 0 ≤ minutes ∧ minutes ≤ 400) E
      (source.choice (8 : ℤ) [20, 45, 120, 400]) := by
  refine (Outcome.draw fun _ => trivial).bind fun i _ => Outcome.pure ?_
  exact (show ∀ i : Fin 5, 0 ≤ ([8, 20, 45, 120, 400] : List ℤ).get i ∧
    ([8, 20, 45, 120, 400] : List ℤ).get i ≤ 400 by decide) i

/-- Moving the clock on keeps it in the calendar, or the dates have run out. -/
theorem outcome_addMicros {customers customer : ℕ} {d : DateTime} {delta : ℤ}
    (hcustomer : customer < customers) (hearly : 0 ≤ d.wall + delta)
    (hlate : d.wall + delta ≤ timelineBase.wall + customer * DateTime.microsPerDay +
      9 * (400 * DateTime.microsPerMinute)) :
    Outcome (fun moved => moved = { d with wall := d.wall + delta }) (OutOfDates customers)
      (liftM (d.addMicros delta) : Effect S DateTime) := by
  by_cases hcalendar : DateTime.InCalendar (d.wall + delta)
  · rw [DateTime.addMicros_ok hcalendar]
    exact Outcome.lift (fun moved hmoved => (Except.ok.inj hmoved).symm) (fun e he => by cases he)
  · rw [DateTime.addMicros_error hcalendar]
    refine Outcome.lift (fun moved hmoved => by cases hmoved) ?_
    intro e he
    refine ⟨(Except.error.inj he).symm, ?_⟩
    have hbeyond : DateTime.maxWall < d.wall + delta := by
      by_contra hwithin
      exact hcalendar ⟨hearly, not_lt.mp hwithin⟩
    simp only [DateTime.maxWall, DateTime.microsPerDay, DateTime.microsPerMinute,
      DateTime.microsPerSecond, timelineBase, DateTime.microsPerHour] at hbeyond hlate
    omega

theorem Timeline.Kept.round {customer txnIndex : ℕ} {timeline : Timeline}
    (h : timeline.Kept customer txnIndex) {minutes : ℤ} (hminutes : 0 ≤ minutes ∧ minutes ≤ 400) :
    0 ≤ timeline.now.wall + minutes * DateTime.microsPerMinute ∧
      timeline.now.wall + minutes * DateTime.microsPerMinute ≤
        timelineBase.wall + customer * DateTime.microsPerDay +
          ((txnIndex + 1 : ℕ) : ℤ) * (400 * DateTime.microsPerMinute) := by
  have hearly := h.early
  have hlate := h.late
  have hminute : 0 < DateTime.microsPerMinute := by decide
  have hlow : 0 ≤ minutes * DateTime.microsPerMinute := Int.mul_nonneg hminutes.1 hminute.le
  have hhigh : minutes * DateTime.microsPerMinute ≤ 400 * DateTime.microsPerMinute :=
    Int.mul_le_mul_of_nonneg_right hminutes.2 hminute.le
  refine ⟨by omega, ?_⟩
  push_cast
  rw [add_mul, one_mul]
  linarith

theorem outcome_transact {customers customer txnIndex : ℕ} (hcustomer : customer < customers)
    (hindex : txnIndex < 9) (home : GeoPoint) {timeline : Timeline}
    (h : timeline.Kept customer txnIndex) :
    Outcome (Timeline.Kept customer (txnIndex + 1)) (OutOfDates customers)
      (transact source platform customer home timeline txnIndex) := by
  refine (outcome_choice_minutes source).bind fun minutes hminutes => ?_
  obtain ⟨hearly, hlate⟩ := h.round hminutes
  have hrounds : ((txnIndex + 1 : ℕ) : ℤ) * (400 * DateTime.microsPerMinute) ≤
      9 * (400 * DateTime.microsPerMinute) :=
    Int.mul_le_mul_of_nonneg_right (by omega) (by decide)
  refine (outcome_addMicros hcustomer hearly (hlate.trans (by omega))).bind fun now hnow => ?_
  refine (outcome_drawTransaction source customer home now txnIndex).bind fun transaction
    htransaction => ?_
  obtain ⟨hid, htimestamp⟩ := htransaction
  have haware : now.isAware = true := by
    rw [hnow]
    exact h.aware
  have hcomparable : HistoryComparable transaction timeline.history := by
    intro tx htx
    rw [htimestamp]
    exact (h.history tx htx).trans haware.symm
  obtain ⟨features, hkeys, hvectors⟩ := bothVectors_ok platform hcomparable
  rw [hvectors]
  refine (Outcome.lift (P := fun vectors => vectors = (features, features))
    (fun vectors hv => (Except.ok.inj hv).symm) (fun e he => by cases he)).bind ?_
  rintro _ rfl
  refine (outcome_drawFraud source _).bind fun fraud _ => Outcome.pure ?_
  refine ⟨haware, ?_, ?_, ?_, ?_, ?_⟩
  · rw [hnow]
    exact hearly
  · rw [hnow]
    exact hlate
  · intro tx htx
    rcases List.mem_append.mp htx with htx | htx
    · exact h.history tx htx
    · rw [List.mem_singleton.mp htx]
      show transaction.timestamp.isAware = true
      rw [htimestamp]
      exact haware
  · intro row hrow
    rcases List.mem_append.mp hrow with hrow | hrow
    · exact h.same row hrow
    · rw [List.mem_singleton.mp hrow]
      exact ⟨Features.sameAs_self hkeys, rfl⟩
  · rw [List.map_append, h.ids, List.range_succ, List.map_append]
    exact congrArg (_ ++ [·]) hid

/-- The ids of all rows. -/
def timelineIds (customers : ℕ) : List NonEmptyStr :=
  (List.range customers).flatMap fun customer => (List.range 9).map (timelineId customer)

theorem outcome_customerTimeline {customers customer : ℕ} (hcustomer : customer < customers) :
    Outcome (fun rows => (∀ row ∈ rows, row.Same) ∧
        rows.map TimelineRow.transactionId = (List.range 9).map (timelineId customer))
      (OutOfDates customers) (customerTimeline source platform customer) := by
  have hhome : Outcome (fun _ => True) (OutOfDates customers) (drawHome source) :=
    (Outcome.draw fun _ => trivial).bind fun _ _ => Outcome.pure trivial
  have hday : 0 ≤ (customer : ℤ) * DateTime.microsPerDay :=
    Int.mul_nonneg (Int.natCast_nonneg _) (by decide)
  have hbase : 0 ≤ timelineBase.wall := by decide
  have hrounds : 0 ≤ 9 * (400 * DateTime.microsPerMinute) := by decide
  refine hhome.bind fun home _ => ?_
  refine (outcome_addMicros hcustomer (by omega) (by omega)).bind fun now hnow => ?_
  have hstart : Timeline.Kept customer 0 { now } := by
    refine ⟨?_, ?_, ?_, ?_, ?_, rfl⟩
    · rw [hnow]
      rfl
    · rw [hnow]
      exact add_nonneg hbase hday
    · rw [hnow]
      simp
    · intro tx htx
      cases htx
    · intro row hrow
      cases hrow
  refine (Outcome.foldlM_range (fun i hi timeline h =>
    outcome_transact source platform hcustomer hi home h) hstart).bind fun timeline h => ?_
  exact Outcome.pure ⟨h.same, h.ids⟩

/-- The rows of the first customers. -/
structure RowsKept (customers : ℕ) (rows : List TimelineRow) : Prop where
  same : ∀ row ∈ rows, row.Same
  ids : rows.map TimelineRow.transactionId = timelineIds customers

theorem outcome_generateTimelines (customers : ℕ) :
    Outcome (RowsKept customers) (OutOfDates customers)
      (generateTimelines source platform customers) := by
  refine Outcome.foldlM_range ?_ ⟨by simp, rfl⟩
  intro customer hcustomer rows hrows
  refine (outcome_customerTimeline source platform hcustomer).bind fun timeline htimeline => ?_
  refine Outcome.pure ⟨?_, ?_⟩
  · intro row hrow
    rcases List.mem_append.mp hrow with hrow | hrow
    · exact hrows.same row hrow
    · exact htimeline.1 row hrow
  · rw [List.map_append, hrows.ids, htimeline.2, timelineIds, timelineIds,
      List.range_succ (n := customer), List.flatMap_append, List.flatMap_singleton]

end Runs

/-- Whatever the source draws, the comparison of the modes comes out even; only the calendar
ends it. -/
theorem generateTimelines_unchanged {S : Type} (source : RandomSource S) (platform : Platform)
    (customers : ℕ) (seed : S) (threshold : ℤ) :
    (∃ rows, (Effect.exec (generateTimelines source platform customers) seed).1 = .ok rows ∧
        rows.map TimelineRow.transactionId = timelineIds customers ∧
        (evaluateModes rows threshold).Unchanged) ∨
      (Effect.exec (generateTimelines source platform customers) seed).1 =
          .error (.overflowError "date value out of range") ∧ 2900000 < customers := by
  have houtcome := outcome_generateTimelines source platform customers
  cases hexec : (Effect.exec (generateTimelines source platform customers) seed).1 with
  | ok rows =>
    have hkept := houtcome.returned seed rows hexec
    exact Or.inl ⟨rows, rfl, hkept.ids, unchanged_of_same hkept.same threshold⟩
  | error e =>
    obtain ⟨rfl, hcustomers⟩ := houtcome.raised seed e hexec
    exact Or.inr ⟨rfl, hcustomers⟩

end VeriPay.AnalystApi
