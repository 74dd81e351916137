import Mathlib.Algebra.Order.Field.Rat
import Mathlib.Data.List.Basic
import VeriPay.Lib.Effect

/-!
Postconditions of an effect, one for what it returns and one for what it raises, that hold from
every state; and effects that draw from a source of random numbers.
-/

namespace VeriPay.Lib

variable {S α β : Type} {P : α → Prop} {R : β → Prop} {E : PyErr → Prop}

/-- From any state, what is returned has the one property and what is raised the other. -/
structure Effect.Outcome (P : α → Prop) (E : PyErr → Prop) (x : Effect S α) : Prop where
  returned : ∀ s a, (exec x s).1 = .ok a → P a
  raised : ∀ s e, (exec x s).1 = .error e → E e

namespace Effect.Outcome

theorem pure {a : α} (h : P a) : Outcome P E (Pure.pure a : Effect S α) where
  returned := by
    intro s b hb
    cases hb
    exact h
  raised := by
    intro s e he
    cases he

theorem bind {x : Effect S α} {f : α → Effect S β} (hx : Outcome P E x)
    (hf : ∀ a, P a → Outcome R E (f a)) : Outcome R E (x >>= f) where
  returned := by
    intro s b hb
    obtain ⟨a, ha, hfa⟩ := exec_bind_fst_ok hb
    exact (hf a (hx.returned s a ha)).returned _ b hfa
  raised := by
    intro s e he
    rw [exec_bind] at he
    rcases hexec : exec x s with ⟨answer, s'⟩
    rw [hexec] at he
    cases answer with
    | ok a => exact (hf a (hx.returned s a (by rw [hexec]))).raised s' e he
    | error e' =>
      cases he
      exact hx.raised s e (by rw [hexec])

theorem ite {c : Prop} [Decidable c] {x y : Effect S α} (hx : c → Outcome P E x)
    (hy : ¬ c → Outcome P E y) : Outcome P E (if c then x else y) := by
  split_ifs with h
  · exact hx h
  · exact hy h

/-- A computation that does not touch the state. -/
theorem lift {a : Py α} (hok : ∀ b, a = .ok b → P b) (herror : ∀ e, a = .error e → E e) :
    Outcome P E (liftM a : Effect S α) where
  returned := fun _ b hb => hok b hb
  raised := fun _ e he => herror e he

/-- A loop over the first numbers keeps an invariant that its body keeps. -/
theorem foldlM_range {invariant : ℕ → β → Prop} {f : β → ℕ → Effect S β} {n : ℕ}
    (hstep : ∀ i < n, ∀ b, invariant i b → Outcome (invariant (i + 1)) E (f b i)) {b : β}
    (h : invariant 0 b) : Outcome (invariant n) E ((List.range n).foldlM f b) := by
  induction n with
  | zero => exact Outcome.pure h
  | succ n ih =>
    rw [List.range_succ, List.foldlM_append]
    refine bind (ih fun i hi => hstep i (Nat.lt_succ_of_lt hi)) ?_
    intro b' hb'
    rw [List.foldlM_cons]
    exact bind (hstep n n.lt_succ_self b' hb') fun b'' hb'' => Outcome.pure hb''

end Effect.Outcome

/-- A source of random numbers: each draw answers in its range and moves the source on. -/
structure RandomSource (S : Type) where
  /-- `random()`. -/
  random : S → {q : ℚ // 0 ≤ q ∧ q < 1} × S
  /-- `uniform(low, high)`. -/
  uniform : (low high : ℚ) → low ≤ high → S → {q : ℚ // low ≤ q ∧ q ≤ high} × S
  /-- The position of a `choice` among one more than `n`. -/
  index : (n : ℕ) → S → Fin (n + 1) × S

/-- An effect that takes one draw. -/
def draw (f : S → α × S) : Effect S α := ExceptT.mk fun s => (.ok (f s).1, (f s).2)

theorem Effect.Outcome.draw {f : S → α × S} (h : ∀ a, P a) : Outcome P E (draw f) where
  returned := fun _ a _ => h a
  raised := by
    intro s e he
    cases he

namespace RandomSource

variable (source : RandomSource S)

/-- `random() < bound`. -/
def below (bound : ℚ) : Effect S Bool := do
  let value ← draw source.random
  return value.val < bound

/-- `condition and random() < bound`: nothing is drawn where the condition fails. -/
def andBelow (condition : Prop) [Decidable condition] (bound : ℚ) : Effect S Bool :=
  if condition then source.below bound else return false

def choice (first : α) (rest : List α) : Effect S α := do
  let i ← draw (source.index rest.length)
  return (first :: rest).get i

open Effect

theorem outcome_below (bound : ℚ) : Outcome (fun _ => True) E (source.below bound) :=
  (Outcome.draw fun _ => trivial).bind fun _ _ => Outcome.pure trivial

theorem outcome_andBelow (condition : Prop) [Decidable condition] (bound : ℚ) :
    Outcome (fun _ => True) E (source.andBelow condition bound) :=
  Outcome.ite (fun _ => source.outcome_below bound) fun _ => Outcome.pure trivial

theorem outcome_choice (first : α) (rest : List α) :
    Outcome (fun _ => True) E (source.choice first rest) :=
  (Outcome.draw fun _ => trivial).bind fun _ _ => Outcome.pure trivial

end RandomSource

end VeriPay.Lib
