import Mathlib.Data.List.MinMax
import Mathlib.Data.List.Perm.Basic

/-!
A value repeated more often than everything else there is: it fills the middle of
the sorted list, and it is the most common one.
-/

namespace VeriPay.Lib

section Sorted

variable {α : Type} [LinearOrder α] {values sorted : List α} {value : α}

/-- A small value at a position of a sorted list has as many before it. -/
theorem lt_countP_of_sorted (hsorted : sorted.Pairwise (· ≤ ·)) {i : ℕ} (hi : i < sorted.length)
    (hlt : sorted[i] < value) : i < sorted.countP (· < value) := by
  have hall : ∀ x ∈ sorted.take (i + 1), decide (x < value) = true := by
    intro x hx
    obtain ⟨j, hj, rfl⟩ := List.getElem_of_mem hx
    rw [List.length_take] at hj
    rw [List.getElem_take, decide_eq_true_eq]
    rcases (show j ≤ i by omega).lt_or_eq with hji | rfl
    · exact (List.pairwise_iff_getElem.mp hsorted j i (by omega) hi hji).trans_lt hlt
    · exact hlt
  have hcount := (List.take_sublist (i + 1) sorted).countP_le (p := (· < value))
  rw [List.countP_eq_length.mpr hall, List.length_take] at hcount
  omega

theorem lt_countP_gt_of_sorted (hsorted : sorted.Pairwise (· ≤ ·)) {i : ℕ}
    (hi : i < sorted.length) (hlt : value < sorted[i]) :
    sorted.length - i ≤ sorted.countP (value < ·) := by
  have hall : ∀ x ∈ sorted.drop i, decide (value < x) = true := by
    intro x hx
    obtain ⟨j, hj, rfl⟩ := List.getElem_of_mem hx
    rw [List.length_drop] at hj
    rw [List.getElem_drop, decide_eq_true_eq]
    rcases Nat.eq_zero_or_pos j with rfl | hpos
    · exact hlt
    · exact hlt.trans_le (List.pairwise_iff_getElem.mp hsorted i (i + j) hi (by omega) (by omega))
  have hcount := (List.drop_sublist i sorted).countP_le (p := (value < ·))
  rw [List.countP_eq_length.mpr hall, List.length_drop] at hcount
  exact hcount

/-- Between the others on either side, a sorted list holds the repeated value. -/
theorem sorted_getD_of_majority {copies i : ℕ} (default : α)
    (hsorted : sorted.Pairwise (· ≤ ·)) (hperm : sorted.Perm (values ++ .replicate copies value))
    (hlow : values.length ≤ i) (hhigh : i < copies) : sorted.getD i default = value := by
  have hlength : sorted.length = values.length + copies := by
    rw [hperm.length_eq, List.length_append, List.length_replicate]
  have hi : i < sorted.length := by omega
  rw [List.getD_eq_getElem?_getD, List.getElem?_eq_getElem hi, Option.getD_some]
  refine le_antisymm (not_lt.mp ?_) (not_lt.mp ?_)
  · intro hgt
    have hcount := lt_countP_gt_of_sorted hsorted hi hgt
    rw [hperm.countP_eq, List.countP_append, List.countP_replicate, if_neg (by simp)] at hcount
    have hfew := List.countP_le_length (p := (value < ·)) (l := values)
    omega
  · intro hlt
    have hcount := lt_countP_of_sorted hsorted hi hlt
    rw [hperm.countP_eq, List.countP_append, List.countP_replicate, if_neg (by simp)] at hcount
    have hfew := List.countP_le_length (p := (· < value)) (l := values)
    omega

end Sorted

/-- The repeated value is the most common one. -/
theorem argmax_count_of_majority {α : Type} [DecidableEq α] {values all : List α} {value : α}
    {copies : ℕ} (hperm : all.Perm (values ++ .replicate copies value))
    (hmany : values.length < copies) :
    all.eraseDups.argmax (fun x => all.count x) = some value := by
  have hvalue : value ∈ all.eraseDups := by
    rw [List.mem_eraseDups, hperm.mem_iff]
    exact List.mem_append_right _ (List.mem_replicate.mpr ⟨by omega, rfl⟩)
  cases hbest : all.eraseDups.argmax (fun x => all.count x) with
  | none =>
    rw [List.argmax_eq_none.mp hbest] at hvalue
    cases hvalue
  | some best =>
    have hle := List.le_of_mem_argmax hvalue hbest
    rw [hperm.count_eq, hperm.count_eq, List.count_append, List.count_append,
      List.count_replicate_self] at hle
    by_contra hother
    have hne : ¬ value = best := fun h => hother (by rw [h])
    rw [List.count_replicate, if_neg (by simpa using hne)] at hle
    have hfew := List.count_le_length (a := best) (l := values)
    omega

end VeriPay.Lib
