import Mathlib.Data.Rat.Floor
import VeriPay.AnalystApi.SuddenDrift
import VeriPay.Lib.OrderStat

/-!
The typical hours of a customer. They run from the 25th percentile hour to the median, and
to the 75th percentile only where the two are in the same whole hour.
-/

namespace VeriPay.AnalystApi

open Lib

/-- The hours in order. -/
def sortedHours (hours : List ℕ) : List ℕ := hours.mergeSort (· ≤ ·)

theorem sortedHours_pairwise (hours : List ℕ) : (sortedHours hours).Pairwise (· ≤ ·) :=
  pairwise_mergeSort_key hours

/-- The hour of a rank, counted from one. -/
def rankedHour (hours : List ℕ) (rank : ℕ) : ℕ := (sortedHours hours).getD (rank - 1) 0

/-- Four times a quartile. -/
def quartileQuarters (hours : List ℕ) (i : ℕ) : ℕ :=
  let place := i * (hours.length + 1)
  rankedHour hours (place / 4) * (4 - place % 4) + rankedHour hours (place / 4 + 1) * (place % 4)

/-- The last hours up to the 75th percentile are those at the median. -/
def UpperQuarterTied (hours : List ℕ) : Prop :=
  let median := (hours.length + 1) / 2
  let upper := 3 * (hours.length + 1) / 4
  let part := 3 * (hours.length + 1) % 4
  rankedHour hours median = rankedHour hours upper ∧
    (rankedHour hours (upper + 1) - rankedHour hours upper) * part < 4

/-- The hours bracket the customer: at least half of the transactions are within, from the
25th percentile hour to the 75th. -/
structure BracketsHours (transactions : List StoredTransaction) (m : BaselineMetrics) : Prop where
  ordered : m.hourLow ≤ m.hourHigh
  half : transactions.length ≤ 2 * transactions.countP fun tx =>
    m.hourLow ≤ tx.timestamp.hour ∧ (tx.timestamp.hour : ℤ) ≤ m.hourHigh
  low : m.hourLow = truncate (quartile (transactions.map fun tx => tx.timestamp.hour) 1)
  high : m.hourHigh = truncate (quartile (transactions.map fun tx => tx.timestamp.hour) 3)

section Quartiles

theorem mod_four_cases (n : ℕ) : n % 4 = 0 ∨ n % 4 = 1 ∨ n % 4 = 2 ∨ n % 4 = 3 := by omega

variable {hours : List ℕ}

theorem rankedHour_mono (hours : List ℕ) {i j : ℕ} (hij : i ≤ j) (hj : j ≤ hours.length)
    (hpos : 0 < j) : rankedHour hours i ≤ rankedHour hours j := by
  have hlength : (sortedHours hours).length = hours.length := List.length_mergeSort _
  exact getD_le_getD (sortedHours_pairwise hours) 0 (by omega) (by omega)

theorem rankedHour_lt (hbound : ∀ hour ∈ hours, hour < 24) (rank : ℕ) :
    rankedHour hours rank < 24 := by
  rw [rankedHour, List.getD_eq_getElem?_getD]
  cases h : (sortedHours hours)[rank - 1]? with
  | none => decide
  | some hour => exact hbound hour (List.mem_mergeSort.mp (List.mem_of_getElem? h))

/-- The exclusive method of four hours or more never leaves the range of the data. -/
theorem quartile_eq (hlong : 4 ≤ hours.length) {i : ℕ} (hi : 1 ≤ i ∧ i ≤ 3) :
    quartile hours i = (quartileQuarters hours i : ℕ) / (4 : ℕ) := by
  have hplace : max 1 (min (hours.length - 1) (i * (hours.length + 1) / 4)) =
      i * (hours.length + 1) / 4 := by
    have hcases : i = 1 ∨ i = 2 ∨ i = 3 := by omega
    rcases hcases with rfl | rfl | rfl <;> omega
  have hpart : (i : ℤ) * (hours.length + 1 : ℕ) - (i * (hours.length + 1) / 4 : ℕ) * 4 =
      (i * (hours.length + 1) % 4 : ℕ) := by
    push_cast
    omega
  have hrest : i * (hours.length + 1) % 4 ≤ 4 := by omega
  generalize hmod : i * (hours.length + 1) % 4 = part at hpart hrest
  simp only [quartile, List.length_mergeSort, hplace, hpart, quartileQuarters, hmod, rankedHour,
    sortedHours, Nat.add_sub_cancel]
  push_cast [Nat.cast_sub hrest]
  ring

/-- A quartile as the store reports it, in whole hours. -/
theorem truncate_quartile (hlong : 4 ≤ hours.length) {i : ℕ} (hi : 1 ≤ i ∧ i ≤ 3) :
    truncate (quartile hours i) = (quartileQuarters hours i / 4 : ℕ) := by
  rw [quartile_eq hlong hi, truncate, if_pos (by positivity), Rat.floor_natCast_div_natCast]
  rfl

theorem clampHour_quartile (hlong : 4 ≤ hours.length) (hbound : ∀ hour ∈ hours, hour < 24)
    {i : ℕ} (hi : 1 ≤ i ∧ i ≤ 3) :
    clampHour (quartile hours i) = (quartileQuarters hours i / 4 : ℕ) := by
  have hlow := rankedHour_lt hbound (i * (hours.length + 1) / 4)
  have hhigh := rankedHour_lt hbound (i * (hours.length + 1) / 4 + 1)
  have hless : quartileQuarters hours i < 24 * 4 := by
    rw [quartileQuarters]
    rcases mod_four_cases (i * (hours.length + 1)) with h | h | h | h <;> simp only [h] <;> omega
  rw [clampHour, truncate_quartile hlong hi]
  omega

/-- What comes at or before the rank of a quartile is at most the quartile's whole hour, and
what comes after it is at least that. -/
theorem quartile_bounds (hlong : 4 ≤ hours.length) {i : ℕ} (hi : 1 ≤ i ∧ i ≤ 3) :
    rankedHour hours (i * (hours.length + 1) / 4) ≤ quartileQuarters hours i / 4 ∧
      quartileQuarters hours i / 4 ≤ rankedHour hours (i * (hours.length + 1) / 4 + 1) := by
  have hcases : i = 1 ∨ i = 2 ∨ i = 3 := by omega
  have hnext : i * (hours.length + 1) / 4 + 1 ≤ hours.length := by
    rcases hcases with rfl | rfl | rfl <;> omega
  have hmono := rankedHour_mono hours (Nat.le_add_right (i * (hours.length + 1) / 4) 1) hnext
    (Nat.succ_pos _)
  rw [quartileQuarters]
  rcases mod_four_cases (i * (hours.length + 1)) with h | h | h | h <;> simp only [h] <;> omega

/-- The median and the 75th percentile are in the same hour exactly when the hours between
them are tied. -/
theorem upperQuarterTied_iff (hlong : 4 ≤ hours.length) :
    quartileQuarters hours 2 / 4 = quartileQuarters hours 3 / 4 ↔ UpperQuarterTied hours := by
  have hmiddle : 2 * (hours.length + 1) / 4 = (hours.length + 1) / 2 := by omega
  have hmedian := rankedHour_mono hours (Nat.le_add_right ((hours.length + 1) / 2) 1)
    (by omega) (Nat.succ_pos _)
  have hbetween := rankedHour_mono hours
    (i := (hours.length + 1) / 2 + 1) (j := 3 * (hours.length + 1) / 4) (by omega) (by omega)
    (by omega)
  have hupper := rankedHour_mono hours (Nat.le_add_right (3 * (hours.length + 1) / 4) 1)
    (by omega) (Nat.succ_pos _)
  have hhalf : 2 * (hours.length + 1) % 4 = 0 ∨ 2 * (hours.length + 1) % 4 = 2 := by omega
  have hpart := mod_four_cases (3 * (hours.length + 1))
  simp only [quartileQuarters, UpperQuarterTied, hmiddle]
  rcases hhalf with h | h <;> rcases hpart with h' | h' | h' | h' <;> simp only [h, h'] <;> omega

theorem first_le_third_quartile (hlong : 4 ≤ hours.length) :
    quartileQuarters hours 1 / 4 ≤ quartileQuarters hours 3 / 4 := by
  have hlow := (quartile_bounds hlong (i := 1) (by omega)).2
  have hhigh := (quartile_bounds hlong (i := 3) (by omega)).1
  have hbetween := rankedHour_mono hours (i := 1 * (hours.length + 1) / 4 + 1)
    (j := 3 * (hours.length + 1) / 4) (by omega) (by omega) (by omega)
  exact (hlow.trans hbetween).trans hhigh

/-- Half of the hours are from the first quartile to the third, in whole hours. -/
theorem half_le_countP (hlong : 4 ≤ hours.length) :
    hours.length ≤ 2 * hours.countP fun hour =>
      quartileQuarters hours 1 / 4 ≤ hour ∧ hour ≤ quartileQuarters hours 3 / 4 := by
  have hlength : (sortedHours hours).length = hours.length := List.length_mergeSort _
  have hlow := (quartile_bounds hlong (i := 1) (by omega)).2
  have hhigh := (quartile_bounds hlong (i := 3) (by omega)).1
  have hrange : ∀ k, 1 * (hours.length + 1) / 4 ≤ k → k < 3 * (hours.length + 1) / 4 →
      decide (quartileQuarters hours 1 / 4 ≤ (sortedHours hours).getD k 0 ∧
        (sortedHours hours).getD k 0 ≤ quartileQuarters hours 3 / 4) = true := by
    intro k hfrom hto
    have hafter := rankedHour_mono hours (i := 1 * (hours.length + 1) / 4 + 1) (j := k + 1)
      (by omega) (by omega) (by omega)
    have hupto := rankedHour_mono hours (i := k + 1) (j := 3 * (hours.length + 1) / 4)
      (by omega) (by omega) (by omega)
    exact decide_eq_true ⟨hlow.trans hafter, hupto.trans hhigh⟩
  have hplace : 3 * (hours.length + 1) / 4 ≤ (sortedHours hours).length := by omega
  have hcount := sub_le_countP (p := fun hour => decide (quartileQuarters hours 1 / 4 ≤ hour ∧
    hour ≤ quartileQuarters hours 3 / 4)) 0 hplace hrange
  have hperm : (sortedHours hours).Perm hours := List.mergeSort_perm hours _
  rw [hperm.countP_eq] at hcount
  omega

end Quartiles

section Metrics

variable (platform : Platform) {transactions : List StoredTransaction}

theorem metrics_hours (hlong : 4 ≤ transactions.length) :
    (metrics platform transactions).hourLow =
        (quartileQuarters (transactions.map fun tx => tx.timestamp.hour) 1 / 4 : ℕ) ∧
      (metrics platform transactions).hourHigh =
        (quartileQuarters (transactions.map fun tx => tx.timestamp.hour) 2 / 4 : ℕ) := by
  have hne : transactions ≠ [] := by
    rintro rfl
    simp at hlong
  have hlength : 4 ≤ (transactions.map fun tx => tx.timestamp.hour).length := by
    rw [List.length_map]
    exact hlong
  have hbound : ∀ hour ∈ transactions.map fun tx => tx.timestamp.hour, hour < 24 := by
    intro hour hhour
    obtain ⟨tx, -, rfl⟩ := List.mem_map.mp hhour
    exact DateTime.hour_lt tx.timestamp
  rw [metrics, if_neg hne]
  dsimp only
  rw [if_pos hlength, if_pos hlength]
  exact ⟨clampHour_quartile hlength hbound (by omega),
    clampHour_quartile hlength hbound (by omega)⟩

/-- The typical hours bracket the customer exactly when the hours between the median and the
75th percentile are tied. -/
theorem bracketsHours_metrics_iff (hlong : 4 ≤ transactions.length) :
    BracketsHours transactions (metrics platform transactions) ↔
      UpperQuarterTied (transactions.map fun tx => tx.timestamp.hour) := by
  obtain ⟨hlow, hhigh⟩ := metrics_hours platform hlong
  have hlength : 4 ≤ (transactions.map fun tx => tx.timestamp.hour).length := by
    rw [List.length_map]
    exact hlong
  have hfirst := truncate_quartile hlength (i := 1) (by omega)
  have hthird := truncate_quartile hlength (i := 3) (by omega)
  rw [← upperQuarterTied_iff hlength]
  constructor
  · intro h
    have hsame := h.high
    rw [hhigh, hthird] at hsame
    exact_mod_cast hsame
  · intro htied
    rw [htied] at hhigh
    refine ⟨?_, ?_, hlow.trans hfirst.symm, hhigh.trans hthird.symm⟩
    · rw [hlow, hhigh]
      exact_mod_cast first_le_third_quartile hlength
    · have hhalf := half_le_countP hlength
      rw [List.length_map, List.countP_map] at hhalf
      simpa only [hlow, hhigh, Function.comp_def, Nat.cast_le] using hhalf

/-- Payments at given hours of one day. -/
def paymentsAtHours (hours : List ℕ) : List StoredTransaction :=
  hours.map fun hour => { paymentAt "daily" 0 none with timestamp := .atHour true 739706 hour }

/-- Payments at one time of day are bracketed. -/
theorem bracketsHours_lunch :
    BracketsHours (paymentsAtHours [12, 12, 12, 12, 12])
      (metrics .atNoon (paymentsAtHours [12, 12, 12, 12, 12])) := by
  refine (bracketsHours_metrics_iff .atNoon (by decide)).mpr ?_
  have hhours : (paymentsAtHours [12, 12, 12, 12, 12]).map (fun tx => tx.timestamp.hour) =
      [12, 12, 12, 12, 12] := by decide
  rw [hhours]
  have hsorted : sortedHours [12, 12, 12, 12, 12] = [12, 12, 12, 12, 12] :=
    List.mergeSort_of_pairwise (by decide)
  simp [UpperQuarterTied, rankedHour, hsorted]

/-- Of four payments at eight, ten, noon and eight in the evening, the median hour is
reported for the 75th percentile. -/
theorem hourHigh_is_median :
    (metrics .atNoon (paymentsAtHours [8, 10, 12, 20])).hourHigh = 11 ∧
      truncate (quartile ((paymentsAtHours [8, 10, 12, 20]).map fun tx => tx.timestamp.hour) 3) =
        18 ∧
      ¬ BracketsHours (paymentsAtHours [8, 10, 12, 20])
        (metrics .atNoon (paymentsAtHours [8, 10, 12, 20])) := by
  have hhours : (paymentsAtHours [8, 10, 12, 20]).map (fun tx => tx.timestamp.hour) =
      [8, 10, 12, 20] := by decide
  have hsorted : sortedHours [8, 10, 12, 20] = [8, 10, 12, 20] :=
    List.mergeSort_of_pairwise (by decide)
  have hhigh : (metrics .atNoon (paymentsAtHours [8, 10, 12, 20])).hourHigh = 11 := by
    rw [(metrics_hours .atNoon (by decide)).2, hhours]
    simp [quartileQuarters, rankedHour, hsorted]
  have hthird : truncate (quartile
      ((paymentsAtHours [8, 10, 12, 20]).map fun tx => tx.timestamp.hour) 3) = 18 := by
    rw [hhours, truncate_quartile (by decide) (by decide)]
    simp [quartileQuarters, rankedHour, hsorted]
  refine ⟨hhigh, hthird, ?_⟩
  intro h
  have hsame := h.high
  rw [hhigh, hthird] at hsame
  exact absurd hsame (by decide)

end Metrics

end VeriPay.AnalystApi
