import Mathlib.Data.List.FinRange
import Mathlib.Data.List.MinMax
import Mathlib.Order.Basic

/-!
Choosing a threshold. What a threshold flags changes only at the scores, so among all thresholds
only the scores need to be tried; and the position of the greatest value, the first of several.
-/

namespace VeriPay.Lib

variable {α κ : Type*} [LinearOrder κ]

/-- A threshold flags nothing, or the same as the least score that it flags. -/
theorem flags_as_score (score : α → κ) (items : List α) (threshold : κ) :
    (∀ a ∈ items, score a < threshold) ∨
      ∃ b ∈ items, ∀ a ∈ items, threshold ≤ score a ↔ score b ≤ score a := by
  cases hleast : (items.filter fun a => threshold ≤ score a).argmin score with
  | none =>
    left
    intro a ha
    have hnone := List.filter_eq_nil_iff.mp (List.argmin_eq_none.mp hleast) a ha
    simpa using hnone
  | some b =>
    right
    obtain ⟨hb, hflagged⟩ := List.mem_filter.mp (List.argmin_mem hleast)
    refine ⟨b, hb, ?_⟩
    intro a ha
    constructor
    · intro h
      exact List.le_of_mem_argmin (List.mem_filter.mpr ⟨ha, decide_eq_true h⟩) hleast
    · intro h
      exact (of_decide_eq_true hflagged).trans h

/-- `numpy.argmax`: the position of the greatest value, the first of several. -/
def argmaxIndex (values : List κ) : Option (Fin values.length) :=
  (List.finRange values.length).argmax values.get

section Argmax

variable {values : List κ} {i : Fin values.length}

theorem le_of_argmaxIndex (h : argmaxIndex values = some i) (j : Fin values.length) :
    values.get j ≤ values.get i :=
  List.le_of_mem_argmax (List.mem_finRange j) h

/-- Before the position every value is less. -/
theorem argmaxIndex_first (h : argmaxIndex values = some i) {j : Fin values.length}
    (hle : values.get i ≤ values.get j) : i ≤ j := by
  have hfirst := List.index_of_argmax h (List.mem_finRange j) hle
  rwa [List.idxOf_finRange, List.idxOf_finRange, ← Fin.le_def] at hfirst

theorem argmaxIndex_isSome (h : values ≠ []) : ∃ i, argmaxIndex values = some i := by
  cases hi : argmaxIndex values with
  | some i => exact ⟨i, rfl⟩
  | none =>
    have hempty := List.finRange_eq_nil_iff.mp (List.argmax_eq_none.mp hi)
    exact absurd (List.length_eq_zero_iff.mp hempty) h

end Argmax

end VeriPay.Lib
