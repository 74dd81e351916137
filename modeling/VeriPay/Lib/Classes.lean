import Mathlib.Algebra.BigOperators.Group.List.Basic
import Mathlib.Data.Nat.Cast.Basic

/-!
Lists sorted into classes. Where each item is of exactly one class, what the classes weigh
adds up to what the list weighs.
-/

namespace VeriPay.Lib

variable {α β M : Type*} [DecidableEq β] [AddCommMonoid M]

/-- The weight is counted in its own class alone. -/
theorem sum_map_ite_mem {classes : List β} (hnodup : classes.Nodup) {own : β}
    (hmem : own ∈ classes) (weight : M) :
    (classes.map fun other => if own = other then weight else 0).sum = weight := by
  induction classes with
  | nil => cases hmem
  | cons first rest ih =>
    obtain ⟨hfirst, hrest⟩ := List.nodup_cons.mp hnodup
    rw [List.map_cons, List.sum_cons]
    by_cases hown : own = first
    · have hzero : (rest.map fun other => if own = other then weight else 0).sum = 0 := by
        apply List.sum_eq_zero
        intro term hterm
        obtain ⟨other, hother, rfl⟩ := List.mem_map.mp hterm
        refine if_neg ?_
        rintro rfl
        exact hfirst (hown ▸ hother)
      rw [if_pos hown, hzero, add_zero]
    · rw [if_neg hown, zero_add, ih hrest (List.mem_of_ne_of_mem hown hmem)]

/-- The classes together weigh what the list weighs. -/
theorem sum_map_sum_filter {classes : List β} (hnodup : classes.Nodup) {classOf : α → β}
    (hmem : ∀ item, classOf item ∈ classes) (weight : α → M) (items : List α) :
    (classes.map fun own => ((items.filter fun item => classOf item = own).map weight).sum).sum =
      (items.map weight).sum := by
  induction items with
  | nil => simp
  | cons item rest ih =>
    have hsplit : ∀ own, (((item :: rest).filter fun item => classOf item = own).map weight).sum =
        (if classOf item = own then weight item else 0) +
          ((rest.filter fun item => classOf item = own).map weight).sum := by
      intro own
      rw [List.filter_cons]
      by_cases hown : classOf item = own
      · rw [if_pos (decide_eq_true hown), if_pos hown, List.map_cons, List.sum_cons]
      · rw [if_neg (by rwa [decide_eq_true_eq]), if_neg hown, zero_add]
    simp only [hsplit]
    rw [List.sum_map_add, sum_map_ite_mem hnodup (hmem item), ih, List.map_cons, List.sum_cons]

/-- The classes together are as long as the list. -/
theorem sum_length_filter {classes : List β} (hnodup : classes.Nodup) {classOf : α → β}
    (hmem : ∀ item, classOf item ∈ classes) (items : List α) :
    (classes.map fun own => (items.filter fun item => classOf item = own).length).sum =
      items.length := by
  have hweights := sum_map_sum_filter hnodup hmem (fun _ => 1) items
  simpa only [List.map_const', List.sum_replicate, nsmul_eq_mul, Nat.cast_id, mul_one]
    using hweights

end VeriPay.Lib
