import Mathlib.Algebra.BigOperators.Group.List.Basic
import Mathlib.Algebra.GroupWithZero.Nat
import Mathlib.Algebra.Order.BigOperators.Group.List
import Mathlib.Algebra.Order.Group.Nat

/-!
Budgets of uses. Of the attempts to use a budget as many are granted as its limit
allows. A budget that is opened again starts from nothing, so the attempts are counted
opening by opening, the last opening first.
-/

namespace VeriPay.Lib

/-- How many attempts are granted; without a limit, all of them. -/
def granted (limit : Option ℕ) (attempts : ℕ) : ℕ :=
  match limit with
  | none => attempts
  | some n => min n attempts

/-- Nothing is left of the budget. -/
def Spent (limit : Option ℕ) (attempts : ℕ) : Prop := ∃ n ∈ limit, n ≤ attempts

instance (limit : Option ℕ) (attempts : ℕ) : Decidable (Spent limit attempts) :=
  match limit with
  | none => isFalse (by rintro ⟨n, hn, -⟩; cases hn)
  | some n => decidable_of_iff (n ≤ attempts) (by simp [Spent])

@[simp] theorem not_spent_none (attempts : ℕ) : ¬ Spent none attempts := by
  rintro ⟨n, hn, -⟩
  cases hn

@[simp] theorem spent_some (n attempts : ℕ) : Spent (some n) attempts ↔ n ≤ attempts := by
  simp [Spent]

theorem Spent.mono {limit : Option ℕ} {attempts attempts' : ℕ} (h : Spent limit attempts)
    (hle : attempts ≤ attempts') : Spent limit attempts' := by
  obtain ⟨n, hn, hspent⟩ := h
  exact ⟨n, hn, hspent.trans hle⟩

theorem granted_of_spent {limit : Option ℕ} {attempts : ℕ} (h : Spent limit attempts) :
    limit = some (granted limit attempts) := by
  obtain ⟨n, hn, hspent⟩ := h
  cases hn
  rw [granted, min_eq_left hspent]

theorem granted_of_not_spent {limit : Option ℕ} {attempts : ℕ} (h : ¬ Spent limit attempts) :
    granted limit attempts = attempts := by
  cases limit with
  | none => rfl
  | some n =>
    rw [spent_some] at h
    exact min_eq_right (Nat.le_of_not_le h)

/-- One more attempt is granted exactly when the budget is not spent. -/
theorem granted_succ (limit : Option ℕ) (attempts : ℕ) :
    granted limit (attempts + 1) =
      granted limit attempts + if Spent limit attempts then 0 else 1 := by
  cases limit with
  | none => simp [granted]
  | some n =>
    simp only [granted, spent_some]
    split_ifs <;> omega

theorem granted_le_attempts (limit : Option ℕ) (attempts : ℕ) :
    granted limit attempts ≤ attempts := by
  cases limit with
  | none => exact le_rfl
  | some n => exact min_le_right n attempts

/-- At most one attempt is granted exactly under a limit of one or where at most one is made. -/
theorem granted_le_one_iff {limit : Option ℕ} (hlimit : ∀ n ∈ limit, 1 ≤ n) (attempts : ℕ) :
    granted limit attempts ≤ 1 ↔ limit = some 1 ∨ attempts ≤ 1 := by
  cases limit with
  | none => simp [granted]
  | some n =>
    have hpos := hlimit n rfl
    simp only [granted, min_le_iff, Option.some.injEq]
    omega

section Openings

variable {n : ℕ}

theorem granted_of_lt {attempts : ℕ} (h : attempts < n) : granted (some n) attempts = attempts :=
  min_eq_right h.le

/-- The attempts of openings that none of them spends. -/
theorem sum_granted_of_lt {openings : List ℕ} (h : ∀ attempts ∈ openings, attempts < n) :
    (openings.map (granted (some n))).sum = openings.sum := by
  rw [List.map_congr_left fun attempts hmem => granted_of_lt (h attempts hmem), List.map_id']

/-- Opened again and again, a budget grants no more than its limit in all, and is never
opened again once spent, exactly when it is not opened again after an attempt, or too few
are made to spend it before the last one. -/
theorem sum_granted_le_iff (hn : 1 ≤ n) (last : ℕ) (earlier : List ℕ) :
    (((last :: earlier).map (granted (some n))).sum ≤ n ∧ ∀ attempts ∈ earlier, attempts < n) ↔
      (∀ attempts ∈ earlier, attempts = 0) ∨
        ((last :: earlier).sum ≤ n ∧ ∀ attempts ∈ earlier, attempts < n) := by
  rw [List.map_cons, List.sum_cons, List.sum_cons]
  constructor
  · intro h
    obtain ⟨hsum, hunspent⟩ := h
    rw [sum_granted_of_lt hunspent] at hsum
    by_cases hnone : earlier.sum = 0
    · exact Or.inl fun attempts hmem => Nat.le_zero.mp (hnone ▸ List.le_sum_of_mem hmem)
    · refine Or.inr ⟨?_, hunspent⟩
      have hlast : last < n := by
        by_contra hspent
        rw [granted, min_eq_left (Nat.le_of_not_lt hspent)] at hsum
        omega
      rwa [granted_of_lt hlast] at hsum
  · intro h
    rcases h with hnone | ⟨hsum, hunspent⟩
    · have hunspent : ∀ attempts ∈ earlier, attempts < n := by
        intro attempts hmem
        rw [hnone attempts hmem]
        exact hn
      have hzero : earlier.sum = 0 := List.sum_eq_zero hnone
      rw [sum_granted_of_lt hunspent, hzero]
      exact ⟨min_le_left n last, hunspent⟩
    · rw [sum_granted_of_lt hunspent]
      exact ⟨(Nat.add_le_add_right (granted_le_attempts _ _) _).trans hsum, hunspent⟩

end Openings

end VeriPay.Lib
