import Mathlib.Algebra.Order.Ring.Nat
import Mathlib.Data.List.GetD

/-!
Order statistics: the items of a sorted list by their rank, counted from zero.
-/

namespace VeriPay.Lib

variable {α : Type*} {sorted : List α}

/-- The items of a range of ranks are among those that have what all of the range has. -/
theorem sub_le_countP {p : α → Bool} (default : α) {i j : ℕ} (hj : j ≤ sorted.length)
    (hrange : ∀ k, i ≤ k → k < j → p (sorted.getD k default) = true) :
    j - i ≤ sorted.countP p := by
  have hsub : ((sorted.take j).drop i).Sublist sorted :=
    (List.drop_sublist i _).trans (List.take_sublist j _)
  have hall : ∀ a ∈ (sorted.take j).drop i, p a = true := by
    intro a ha
    obtain ⟨k, hk, rfl⟩ := List.getElem_of_mem ha
    have hlength : k < j - i := by
      rw [List.length_drop, List.length_take] at hk
      omega
    have hp := hrange (i + k) (by omega) (by omega)
    rw [List.getD_eq_getElem _ _ (by omega)] at hp
    simpa using hp
  have hcount : ((sorted.take j).drop i).countP p ≤ sorted.countP p := hsub.countP_le
  rw [List.countP_eq_length.mpr hall, List.length_drop, List.length_take, Nat.min_eq_left hj]
    at hcount
  exact hcount

variable [LinearOrder α]

theorem getD_le_getD (hsorted : sorted.Pairwise (· ≤ ·)) (default : α) {i j : ℕ} (hij : i ≤ j)
    (hj : j < sorted.length) : sorted.getD i default ≤ sorted.getD j default := by
  have hi : i < sorted.length := by omega
  rw [List.getD_eq_getElem _ _ hi, List.getD_eq_getElem _ _ hj]
  rcases Nat.eq_or_lt_of_le hij with h | h
  · subst h
    exact le_rfl
  · exact List.pairwise_iff_getElem.mp hsorted i j hi hj h

/-- A property that passes downwards holds of the first items only. -/
theorem getD_iff_lt_countP (hsorted : sorted.Pairwise (· ≤ ·)) (default : α) {p : α → Prop}
    [DecidablePred p] (hp : ∀ a b, a ≤ b → p b → p a) {i : ℕ} (hi : i < sorted.length) :
    p (sorted.getD i default) ↔ i < sorted.countP (fun a => p a) := by
  induction sorted generalizing i with
  | nil => simp at hi
  | cons a rest ih =>
    obtain ⟨ha, hrest⟩ := List.pairwise_cons.mp hsorted
    by_cases hpa : p a
    · rw [List.countP_cons, if_pos (decide_eq_true hpa)]
      cases i with
      | zero => exact iff_of_true hpa (Nat.succ_pos _)
      | succ i =>
        rw [List.getD_cons_succ, Nat.add_lt_add_iff_right]
        exact ih hrest (Nat.lt_of_succ_lt_succ hi)
    · have hnone : (a :: rest).countP (fun a => p a) = 0 := by
        rw [List.countP_eq_zero]
        intro b hb hpb
        refine hpa (hp a b ?_ (of_decide_eq_true hpb))
        rcases List.mem_cons.mp hb with h | h
        · rw [h]
        · exact ha b h
      rw [hnone]
      refine iff_of_false ?_ (Nat.not_lt_zero i)
      intro hpi
      have hfirst := getD_le_getD hsorted default (Nat.zero_le i) hi
      exact hpa (hp a _ hfirst hpi)

end VeriPay.Lib
