import Mathlib.Data.List.MinMax

/-!
`List.argmin` as Python's `min(xs, key=f)`: the first element of least key. What
stands before the chosen element has a strictly larger key.
-/

namespace VeriPay.Lib

variable {α β : Type*} [LinearOrder β]

/-- An element chosen from the second part of a list undercuts the whole first
part strictly, since a tie would have gone to the earlier element. -/
theorem argmin_lt_of_append [DecidableEq α] {f : α → β} {l₁ l₂ : List α} {m : α}
    (hm : m ∈ (l₁ ++ l₂).argmin f) (hnot : m ∉ l₁) : ∀ a ∈ l₁, f m < f a := by
  intro a ha
  by_contra hle
  have hidx := List.index_of_argmin hm (List.mem_append_left l₂ ha) (not_lt.mp hle)
  rw [List.idxOf_append_of_mem ha, List.idxOf_append_of_notMem hnot] at hidx
  have hlt := List.idxOf_lt_length_of_mem ha
  omega

/-- The head of a list is chosen when nothing after it has a smaller key. -/
theorem argmin_cons_of_forall_le [DecidableEq α] {f : α → β} {a : α} {l : List α}
    (h : ∀ b ∈ l, f a ≤ f b) : (a :: l).argmin f = some a := by
  cases hm : (a :: l).argmin f with
  | none => exact absurd (List.argmin_eq_none.mp hm) (List.cons_ne_nil a l)
  | some m =>
    by_contra hne
    have hma : m ≠ a := fun heq => hne (congrArg some heq)
    have hchosen : m ∈ ([a] ++ l).argmin f := Option.mem_def.mpr hm
    have hlt := argmin_lt_of_append hchosen (by simpa using hma) a List.mem_cons_self
    have hmem : m ∈ l := by
      simpa [hma] using List.argmin_mem (Option.mem_def.mpr hm)
    exact absurd (h m hmem) (not_le.mpr hlt)

end VeriPay.Lib
