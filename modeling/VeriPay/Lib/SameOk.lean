import VeriPay.Lib.PyError

/-!
Two computations that both return, with one value. The rules follow the shape of
a method body, so that two runs of one method are compared call by call; with
one run on both sides they say that it returns.
-/

namespace VeriPay.Lib

/-- Both return, and the value they share satisfies `P`. -/
def SameOk {α : Type} (P : α → Prop) (x y : Py α) : Prop :=
  ∃ a, x = .ok a ∧ y = .ok a ∧ P a

namespace SameOk

variable {α β : Type} {P : α → Prop} {Q : β → Prop} {x y : Py α}

theorem eq (h : SameOk P x y) : x = y := by
  obtain ⟨a, hx, hy, _⟩ := h
  rw [hx, hy]

theorem returns (h : SameOk P x y) : ∃ a, x = .ok a := by
  obtain ⟨a, hx, _, _⟩ := h
  exact ⟨a, hx⟩

theorem ok {a : α} (h : P a) : SameOk P (.ok a) (.ok a) := ⟨a, rfl, rfl, h⟩

/-- The last line of a method, where the two sides print the value differently. -/
theorem return_of_eq {a b : α} (heq : a = b) (h : P a) :
    SameOk P (return a) (return b) := ⟨a, rfl, by rw [heq]; rfl, h⟩

theorem weaken {R : α → Prop} (h : SameOk P x y) (himp : ∀ a, P a → R a) :
    SameOk R x y := by
  obtain ⟨a, hx, hy, ha⟩ := h
  exact ⟨a, hx, hy, himp a ha⟩

theorem bind {f g : α → Py β} (h : SameOk P x y)
    (hrest : ∀ a, P a → SameOk Q (f a) (g a)) : SameOk Q (x >>= f) (y >>= g) := by
  obtain ⟨a, rfl, rfl, ha⟩ := h
  rw [Py.ok_bind, Py.ok_bind]
  exact hrest a ha

/-- A loop keeps what each of its rounds keeps. -/
theorem foldlM {f g : β → α → Py β} {items : List α} {state : β} (hstate : Q state)
    (hround : ∀ state, Q state → ∀ item ∈ items, SameOk Q (f state item) (g state item)) :
    SameOk Q (items.foldlM f state) (items.foldlM g state) := by
  induction items generalizing state with
  | nil => exact ok hstate
  | cons item rest ih =>
    rw [List.foldlM_cons, List.foldlM_cons]
    refine bind (hround state hstate item List.mem_cons_self) ?_
    intro next hnext
    exact ih hnext (fun state hstate other hother =>
      hround state hstate other (List.mem_cons_of_mem item hother))

theorem mapM {f g : α → Py β} {items : List α}
    (hitem : ∀ item ∈ items, SameOk Q (f item) (g item)) :
    SameOk (fun results => ∀ result ∈ results, Q result) (items.mapM f) (items.mapM g) := by
  induction items with
  | nil => exact ok (by simp)
  | cons item rest ih =>
    rw [List.mapM_cons, List.mapM_cons]
    refine bind (hitem item List.mem_cons_self) ?_
    intro first hfirst
    refine bind (ih (fun other hother => hitem other (List.mem_cons_of_mem item hother))) ?_
    intro others hothers
    refine ok ?_
    intro result hresult
    rcases List.mem_cons.mp hresult with rfl | hmem
    · exact hfirst
    · exact hothers result hmem

end SameOk

end VeriPay.Lib
