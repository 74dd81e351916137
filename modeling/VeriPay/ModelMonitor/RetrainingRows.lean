import VeriPay.ModelMonitor.Dataset

/-!
What a row of the retraining data keeps of the observation it is made from. Amounts, risks
and distances are rounded; the other seven columns are cut off at the decimal point, so
they are kept only where the model saw a whole number.
-/

namespace VeriPay.ModelMonitor

open Lib Common

/-- The number a cell holds. -/
def Cell.number? : Cell → Option ℚ
  | .text _ => none
  | .int value => some value
  | .float value => value

/-- A feature as the row is to keep it. -/
def keptValue (column : String) (value : ℚ) : ℚ :=
  if column = "amount_log" ∨ column = "mcc_risk" then roundTo 6 value
  else if column = "distance_km" then roundTo 2 value
  else value

/-- The ten model columns of a row are the observed features up to rounding. -/
def RowKeeps (observation : StoredObservation) (row : Row) : Prop :=
  ∀ column ∈ featureColumns, ∃ value, observation.features.get? column = some (some value) ∧
    (row.lookup column).bind Cell.number? = some (keptValue column value)

/-- The four signals a transaction may give with a fraction. -/
def signalColumns : List String :=
  ["device_trust", "network_trust", "impossible_travel", "new_device"]

/-- The columns `int` is applied to. -/
def intColumns : List String :=
  signalColumns ++ ["hour_of_day", "weekend", "velocity_5m"]

def IsWhole (value : ℚ) : Prop := ∃ n : ℤ, value = n

theorem truncate_eq_iff (value : ℚ) : (truncate value : ℚ) = value ↔ IsWhole value := by
  constructor
  · intro h
    exact ⟨truncate value, h.symm⟩
  · rintro ⟨n, rfl⟩
    unfold truncate
    split_ifs
    · rw [Int.floor_intCast]
    · rw [Int.ceil_intCast]

/-- An observation with all ten features, in the ranges a transaction admits. -/
structure AdmittedFeatures (observation : StoredObservation) (value : String → ℚ) : Prop where
  present : ∀ column ∈ featureColumns,
    observation.features.get? column = some (some (value column))
  amount_log : 0 ≤ value "amount_log"
  mcc_risk : 0 ≤ value "mcc_risk" ∧ value "mcc_risk" ≤ 1
  velocity_5m : ∃ n : ℕ, value "velocity_5m" = n
  device_trust : -1 ≤ value "device_trust" ∧ value "device_trust" ≤ 1
  network_trust : -1 ≤ value "network_trust" ∧ value "network_trust" ≤ 1
  impossible_travel : 0 ≤ value "impossible_travel" ∧ value "impossible_travel" ≤ 1
  new_device : 0 ≤ value "new_device" ∧ value "new_device" ≤ 1
  hour_of_day : ∃ n : ℕ, n < 24 ∧ value "hour_of_day" = n
  weekend : value "weekend" = 0 ∨ value "weekend" = 1
  distance_km : 0 ≤ value "distance_km"

/-- The row of an observation that has all ten features. -/
def rowOf (transactionId : String) (value : String → ℚ) (amountMinor : ℚ) (flag : ℕ) : Row :=
  [("transaction_id", .text transactionId),
    ("amount_minor", .int (roundEven amountMinor)),
    ("amount_log", .float (some (roundTo 6 (value "amount_log")))),
    ("mcc", .int (nearestMcc (some (value "mcc_risk")))),
    ("mcc_risk", .float (some (roundTo 6 (value "mcc_risk")))),
    ("hour_of_day", .int (truncate (value "hour_of_day"))),
    ("weekend", .int (truncate (value "weekend"))),
    ("velocity_5m", .int (truncate (value "velocity_5m"))),
    ("device_trust", .int (truncate (value "device_trust"))),
    ("network_trust", .int (truncate (value "network_trust"))),
    ("impossible_travel", .int (truncate (value "impossible_travel"))),
    ("new_device", .int (truncate (value "new_device"))),
    ("distance_km", .float (some (roundTo 2 (value "distance_km")))),
    ("is_fraud", .int flag)]

section Row

variable {expm1 : ℚ → Py ℚ} {observation : StoredObservation} {value : String → ℚ}

theorem featureD_of_present
    (hpresent : ∀ column ∈ featureColumns,
      observation.features.get? column = some (some (value column)))
    {column : String} (hcolumn : column ∈ featureColumns) (default : ℚ) :
    observation.featureD column default = some (value column) := by
  rw [StoredObservation.featureD, hpresent column hcolumn]
  rfl

theorem intFeature_of_present
    (hpresent : ∀ column ∈ featureColumns,
      observation.features.get? column = some (some (value column)))
    {column : String} (hcolumn : column ∈ featureColumns) (default : ℚ) :
    observation.intFeature column default = .ok (.int (truncate (value column))) := by
  rw [StoredObservation.intFeature, featureD_of_present hpresent hcolumn]
  rfl

theorem roundedFeature_of_present
    (hpresent : ∀ column ∈ featureColumns,
      observation.features.get? column = some (some (value column)))
    {column : String} (hcolumn : column ∈ featureColumns) (digits : ℕ) :
    observation.roundedFeature column digits = .float (some (roundTo digits (value column))) := by
  rw [StoredObservation.roundedFeature, featureD_of_present hpresent hcolumn]
  rfl

/-- With all ten features a row is built iff the amount can be read back. -/
theorem observationToRow_of_present
    (hpresent : ∀ column ∈ featureColumns,
      observation.features.get? column = some (some (value column))) (flag : ℕ) :
    observationToRow expm1 observation flag =
      (expm1 (value "amount_log")).map fun amountMinor =>
        rowOf observation.transactionId.val value amountMinor flag := by
  have hint := fun (column : String) (h : column ∈ featureColumns) (default : ℚ) =>
    intFeature_of_present hpresent h default
  have hround := fun (column : String) (h : column ∈ featureColumns) (digits : ℕ) =>
    roundedFeature_of_present hpresent h digits
  unfold observationToRow
  rw [featureD_of_present hpresent (by decide), asNumber, Py.ok_bind]
  cases hminor : expm1 (value "amount_log") with
  | error e => rfl
  | ok amountMinor =>
    rw [Py.ok_bind, hint "hour_of_day" (by decide), hint "weekend" (by decide),
      hint "velocity_5m" (by decide), hint "device_trust" (by decide),
      hint "network_trust" (by decide), hint "impossible_travel" (by decide),
      hint "new_device" (by decide), hround "amount_log" (by decide),
      hround "mcc_risk" (by decide), hround "distance_km" (by decide),
      featureD_of_present hpresent (by decide)]
    rfl

/-- What the row holds in each of the ten columns. -/
theorem rowOf_lookup (transactionId : String) (amountMinor : ℚ) (flag : ℕ) {column : String}
    (hcolumn : column ∈ featureColumns) :
    ((rowOf transactionId value amountMinor flag).lookup column).bind Cell.number? =
      some (if column ∈ intColumns then (truncate (value column) : ℚ)
        else keptValue column (value column)) := by
  simp only [featureColumns, List.mem_cons, List.not_mem_nil, or_false] at hcolumn
  rcases hcolumn with rfl | rfl | rfl | rfl | rfl | rfl | rfl | rfl | rfl | rfl <;>
    simp [rowOf, List.lookup_cons, Cell.number?, intColumns, signalColumns, keptValue]

theorem keptValue_of_int {column : String} (hcolumn : column ∈ intColumns) (number : ℚ) :
    keptValue column number = number := by
  simp only [intColumns, signalColumns, List.cons_append, List.nil_append, List.mem_cons,
    List.not_mem_nil, or_false] at hcolumn
  rcases hcolumn with rfl | rfl | rfl | rfl | rfl | rfl | rfl <;> simp [keptValue]

theorem intColumns_subset : intColumns ⊆ featureColumns := by decide

/-- A row keeps its observation iff every column `int` is applied to was whole. -/
theorem rowKeeps_rowOf_iff
    (hpresent : ∀ column ∈ featureColumns,
      observation.features.get? column = some (some (value column)))
    (transactionId : String) (amountMinor : ℚ) (flag : ℕ) :
    RowKeeps observation (rowOf transactionId value amountMinor flag) ↔
      ∀ column ∈ intColumns, IsWhole (value column) := by
  constructor
  · intro hkeeps column hcolumn
    obtain ⟨seen, hseen, hkept⟩ := hkeeps column (intColumns_subset hcolumn)
    rw [hpresent column (intColumns_subset hcolumn), Option.some.injEq, Option.some.injEq] at hseen
    rw [rowOf_lookup _ _ _ (intColumns_subset hcolumn), if_pos hcolumn, Option.some.injEq,
      keptValue_of_int hcolumn, ← hseen] at hkept
    exact (truncate_eq_iff _).mp hkept
  · intro hwhole column hcolumn
    refine ⟨value column, hpresent column hcolumn, ?_⟩
    rw [rowOf_lookup _ _ _ hcolumn]
    split_ifs with hint
    · rw [keptValue_of_int hint, (truncate_eq_iff _).mpr (hwhole column hint)]
    · rfl

/-- The hour, the weekend and the velocity are whole in any admitted observation. -/
theorem AdmittedFeatures.whole_iff (hadmitted : AdmittedFeatures observation value) :
    (∀ column ∈ intColumns, IsWhole (value column)) ↔
      ∀ column ∈ signalColumns, IsWhole (value column) := by
  constructor
  · intro h column hcolumn
    exact h column (List.mem_append_left _ hcolumn)
  · intro h column hcolumn
    rcases List.mem_append.mp hcolumn with hsignal | hcount
    · exact h column hsignal
    · simp only [List.mem_cons, List.not_mem_nil, or_false] at hcount
      rcases hcount with rfl | rfl | rfl
      · obtain ⟨n, -, hn⟩ := hadmitted.hour_of_day
        exact ⟨n, by rw [hn, Int.cast_natCast]⟩
      · rcases hadmitted.weekend with hn | hn
        · exact ⟨0, by rw [hn, Int.cast_zero]⟩
        · exact ⟨1, by rw [hn, Int.cast_one]⟩
      · obtain ⟨n, hn⟩ := hadmitted.velocity_5m
        exact ⟨n, by rw [hn, Int.cast_natCast]⟩

/-- A retraining row keeps what the model saw iff the four signals were whole numbers. -/
theorem observationToRow_keeps_iff (hadmitted : AdmittedFeatures observation value) (flag : ℕ) :
    (∃ row, observationToRow expm1 observation flag = .ok row ∧ RowKeeps observation row) ↔
      (∃ amountMinor, expm1 (value "amount_log") = .ok amountMinor) ∧
        ∀ column ∈ signalColumns, IsWhole (value column) := by
  rw [observationToRow_of_present hadmitted.present, ← hadmitted.whole_iff]
  constructor
  · rintro ⟨row, hrow, hkeeps⟩
    cases hminor : expm1 (value "amount_log") with
    | error e =>
      rw [hminor] at hrow
      cases hrow
    | ok amountMinor =>
      rw [hminor] at hrow
      cases hrow
      exact ⟨⟨amountMinor, rfl⟩, (rowKeeps_rowOf_iff hadmitted.present _ _ _).mp hkeeps⟩
  · rintro ⟨⟨amountMinor, hminor⟩, hwhole⟩
    refine ⟨rowOf observation.transactionId.val value amountMinor flag, ?_,
      (rowKeeps_rowOf_iff hadmitted.present _ _ _).mpr hwhole⟩
    rw [hminor]
    rfl

end Row

/-- The features of a transaction of nothing, with a given trust in the device. -/
def restingFeatures (deviceTrust : ℚ) (column : String) : ℚ :=
  if column = "device_trust" then deviceTrust else 0

def restingObservation (deviceTrust : ℚ) : StoredObservation where
  transactionId := ⟨"tx_resting", by decide⟩
  features := .collect featureColumns fun column => some (some (restingFeatures deviceTrust column))

theorem restingObservation_admitted {deviceTrust : ℚ} (hlow : -1 ≤ deviceTrust)
    (hhigh : deviceTrust ≤ 1) :
    AdmittedFeatures (restingObservation deviceTrust) (restingFeatures deviceTrust) where
  present := by
    intro column hcolumn
    rw [restingObservation, PyDict.get?_collect, if_pos hcolumn]
  amount_log := by simp [restingFeatures]
  mcc_risk := by simp [restingFeatures]
  velocity_5m := ⟨0, by simp [restingFeatures]⟩
  device_trust := by simp [restingFeatures, hlow, hhigh]
  network_trust := by simp [restingFeatures]
  impossible_travel := by simp [restingFeatures]
  new_device := by simp [restingFeatures]
  hour_of_day := ⟨0, by simp [restingFeatures]⟩
  weekend := by simp [restingFeatures]
  distance_km := by simp [restingFeatures]

/-- A trusted device stays trusted in its row. -/
theorem observationToRow_keeps_trusted :
    ∃ row, observationToRow Except.ok (restingObservation 1) 0 = .ok row ∧
      RowKeeps (restingObservation 1) row := by
  refine (observationToRow_keeps_iff
    (restingObservation_admitted (by norm_num) (by norm_num)) 0).mpr ⟨⟨_, rfl⟩, ?_⟩
  intro column _
  by_cases hdevice : column = "device_trust"
  · exact ⟨1, by rw [restingFeatures, if_pos hdevice, Int.cast_one]⟩
  · exact ⟨0, by rw [restingFeatures, if_neg hdevice, Int.cast_zero]⟩

/-- Half the trust in a device becomes none, which is what the data calls untrusted. -/
theorem observationToRow_loses_trust :
    AdmittedFeatures (restingObservation (1 / 2)) (restingFeatures (1 / 2)) ∧
      ∃ row, observationToRow Except.ok (restingObservation (1 / 2)) 0 = .ok row ∧
        (row.lookup "device_trust").bind Cell.number? = some 0 ∧
        ¬ RowKeeps (restingObservation (1 / 2)) row := by
  have hadmitted : AdmittedFeatures (restingObservation (1 / 2)) (restingFeatures (1 / 2)) :=
    restingObservation_admitted (by norm_num) (by norm_num)
  refine ⟨hadmitted, _, observationToRow_of_present hadmitted.present 0, ?_, ?_⟩
  · rw [rowOf_lookup _ _ _ (by decide), if_pos (by decide), restingFeatures, if_pos rfl]
    norm_num [truncate]
  · intro hkeeps
    obtain ⟨n, hn⟩ :=
      (rowKeeps_rowOf_iff hadmitted.present _ _ _).mp hkeeps "device_trust" (by decide)
    have hhalf : (1 : ℚ) = 2 * n := by
      rw [← hn, restingFeatures, if_pos rfl]
      norm_num
    have hint : (1 : ℤ) = 2 * n := by exact_mod_cast hhalf
    omega

end VeriPay.ModelMonitor
