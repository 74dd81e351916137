import Mathlib.Data.List.Forall2

/-!
Two lists whose items correspond one by one. What only reads what corresponding items share
reads the same off both lists.
-/

namespace VeriPay.Lib

variable {α β γ : Type} {R : α → β → Prop} {items : List α} {others : List β}

theorem map_eq_of_forall₂ {f : α → γ} {g : β → γ} (h : List.Forall₂ R items others)
    (hsame : ∀ a b, R a b → f a = g b) : items.map f = others.map g := by
  induction h with
  | nil => rfl
  | cons hab _ ih => rw [List.map_cons, List.map_cons, hsame _ _ hab, ih]

/-- A loop over either list goes through the same states. -/
theorem foldlM_eq_of_forall₂ {m : Type → Type} [Monad m] {f : γ → α → m γ} {g : γ → β → m γ}
    (h : List.Forall₂ R items others) (hsame : ∀ state a b, R a b → f state a = g state b)
    (state : γ) : items.foldlM f state = others.foldlM g state := by
  induction h generalizing state with
  | nil => rfl
  | cons hab _ ih =>
    rw [List.foldlM_cons, List.foldlM_cons, hsame state _ _ hab]
    exact congrArg _ (funext ih)

/-- What holds of an item holds of the item it corresponds to, so of no fewer. -/
theorem length_filter_le_of_forall₂ {p : α → Bool} {q : β → Bool}
    (h : List.Forall₂ R items others) (hmono : ∀ a b, R a b → p a = true → q b = true) :
    (items.filter p).length ≤ (others.filter q).length := by
  induction h with
  | nil => exact Nat.le_refl _
  | @cons a b _ _ hab _ ih =>
    cases hp : p a with
    | true =>
      rw [List.filter_cons_of_pos hp, List.filter_cons_of_pos (hmono a b hab hp)]
      exact Nat.succ_le_succ ih
    | false =>
      rw [List.filter_cons_of_neg (by rw [hp]; exact Bool.false_ne_true)]
      exact Nat.le_trans ih ((List.sublist_cons_self b _).filter q).length_le

end VeriPay.Lib
