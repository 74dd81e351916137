import Mathlib.Algebra.BigOperators.Ring.List
import Mathlib.Algebra.Order.BigOperators.Group.List
import Mathlib.Algebra.Order.Field.Basic
import Mathlib.Tactic.Linarith
import Mathlib.Tactic.Positivity

/-!
Weighted means over an ordered field: of values with positive weights, the mean
lies between the bounds of the values and grows with each of them.
-/

namespace VeriPay.Lib

variable {K : Type*} [Field K]

/-- The sum of the weights of `(value, weight)` pairs. -/
def totalWeight (items : List (K × K)) : K := (items.map Prod.snd).sum

def weightedSum (items : List (K × K)) : K := (items.map (fun item => item.1 * item.2)).sum

def weightedMean (items : List (K × K)) : K := weightedSum items / totalWeight items

@[simp] theorem totalWeight_cons (item : K × K) (rest : List (K × K)) :
    totalWeight (item :: rest) = item.2 + totalWeight rest := by
  simp [totalWeight]

@[simp] theorem weightedSum_cons (item : K × K) (rest : List (K × K)) :
    weightedSum (item :: rest) = item.1 * item.2 + weightedSum rest := by
  simp [weightedSum]

/-- The order of the values plays no part. -/
theorem weightedMean_perm {items items' : List (K × K)} (h : items.Perm items') :
    weightedMean items = weightedMean items' := by
  have htotal : totalWeight items = totalWeight items' := (h.map _).sum_eq
  have hsum : weightedSum items = weightedSum items' := (h.map _).sum_eq
  rw [weightedMean, weightedMean, htotal, hsum]

variable [LinearOrder K] [IsStrictOrderedRing K]

theorem totalWeight_nonneg {items : List (K × K)} (h : ∀ item ∈ items, 0 < item.2) :
    0 ≤ totalWeight items := by
  apply List.sum_nonneg
  intro weight hweight
  obtain ⟨item, hitem, rfl⟩ := List.mem_map.mp hweight
  exact (h item hitem).le

theorem totalWeight_pos {items : List (K × K)} (hne : items ≠ [])
    (h : ∀ item ∈ items, 0 < item.2) : 0 < totalWeight items := by
  cases items with
  | nil => exact absurd rfl hne
  | cons item rest =>
    have hitem := h item List.mem_cons_self
    have hrest := totalWeight_nonneg (fun other hother => h other (List.mem_cons_of_mem _ hother))
    rw [totalWeight_cons]
    linarith

/-- Same weights, higher values. -/
def Raised (lower higher : K × K) : Prop := lower.2 = higher.2 ∧ lower.1 ≤ higher.1

omit [IsStrictOrderedRing K] in
theorem totalWeight_raised {lower higher : List (K × K)} (h : List.Forall₂ Raised lower higher) :
    totalWeight lower = totalWeight higher := by
  induction h with
  | nil => rfl
  | cons hitem _ ih => rw [totalWeight_cons, totalWeight_cons, hitem.1, ih]

theorem weightedSum_raised {lower higher : List (K × K)} (h : List.Forall₂ Raised lower higher)
    (hweight : ∀ item ∈ lower, 0 < item.2) : weightedSum lower ≤ weightedSum higher := by
  induction h with
  | nil => exact le_rfl
  | @cons item item' rest rest' hitem _ ih =>
    have hrest := ih (fun other hother => hweight other (List.mem_cons_of_mem _ hother))
    have hvalue := mul_le_mul_of_nonneg_right hitem.2 (hweight item List.mem_cons_self).le
    rw [weightedSum_cons, weightedSum_cons, ← hitem.1]
    linarith

/-- The mean grows with the values. -/
theorem weightedMean_raised {lower higher : List (K × K)} (h : List.Forall₂ Raised lower higher)
    (hweight : ∀ item ∈ lower, 0 < item.2) : weightedMean lower ≤ weightedMean higher := by
  rw [weightedMean, weightedMean, ← totalWeight_raised h]
  exact div_le_div_of_nonneg_right (weightedSum_raised h hweight) (totalWeight_nonneg hweight)

/-- The mean of one value under any weights. -/
theorem weightedMean_const {items : List (K × K)} (hne : items ≠ [])
    (hweight : ∀ item ∈ items, 0 < item.2) (value : K) :
    weightedMean (items.map fun item => (value, item.2)) = value := by
  have htotal : totalWeight (items.map fun item => (value, item.2)) = totalWeight items := by
    rw [totalWeight, List.map_map]
    rfl
  have hsum : weightedSum (items.map fun item => (value, item.2)) =
      value * totalWeight items := by
    rw [weightedSum, List.map_map]
    exact List.sum_map_mul_left items Prod.snd value
  rw [weightedMean, htotal, hsum, mul_div_cancel_right₀ _ (totalWeight_pos hne hweight).ne']

theorem le_weightedMean {items : List (K × K)} {low : K} (hne : items ≠ [])
    (hweight : ∀ item ∈ items, 0 < item.2) (h : ∀ item ∈ items, low ≤ item.1) :
    low ≤ weightedMean items := by
  rw [← weightedMean_const hne hweight low]
  apply weightedMean_raised
  · rw [List.forall₂_map_left_iff, List.forall₂_same]
    exact fun item hitem => ⟨rfl, h item hitem⟩
  · rw [List.forall_mem_map]
    exact hweight

theorem weightedMean_le {items : List (K × K)} {high : K} (hne : items ≠ [])
    (hweight : ∀ item ∈ items, 0 < item.2) (h : ∀ item ∈ items, item.1 ≤ high) :
    weightedMean items ≤ high := by
  rw [← weightedMean_const hne hweight high]
  apply weightedMean_raised
  · rw [List.forall₂_map_right_iff, List.forall₂_same]
    exact fun item hitem => ⟨rfl, h item hitem⟩
  · exact hweight

/-- A further item is averaged with the mean of the others. -/
theorem weightedMean_cons {item : K × K} {rest : List (K × K)} (hne : rest ≠ [])
    (hweight : ∀ other ∈ rest, 0 < other.2) :
    weightedMean (item :: rest) =
      weightedMean [item, (weightedMean rest, totalWeight rest)] := by
  have htotal : weightedMean rest * totalWeight rest = weightedSum rest :=
    div_mul_cancel₀ _ (totalWeight_pos hne hweight).ne'
  simp only [weightedMean, weightedSum_cons, totalWeight_cons] at htotal ⊢
  rw [htotal]
  simp [weightedSum, totalWeight]

/-- A further item draws the mean towards its value, and not past it. -/
theorem weightedMean_cons_mem {item : K × K} {rest : List (K × K)} (hne : rest ≠ [])
    (hweight : ∀ other ∈ item :: rest, 0 < other.2) :
    min item.1 (weightedMean rest) ≤ weightedMean (item :: rest) ∧
      weightedMean (item :: rest) ≤ max item.1 (weightedMean rest) := by
  obtain ⟨hitem, hrest⟩ := List.forall_mem_cons.mp hweight
  have hpair : ∀ other ∈ [item, (weightedMean rest, totalWeight rest)], 0 < other.2 := by
    simp only [List.forall_mem_cons]
    exact ⟨hitem, totalWeight_pos hne hrest, List.forall_mem_nil _⟩
  rw [weightedMean_cons hne hrest]
  constructor
  · apply le_weightedMean (List.cons_ne_nil _ _) hpair
    simp only [List.forall_mem_cons]
    exact ⟨min_le_left _ _, min_le_right _ _, List.forall_mem_nil _⟩
  · apply weightedMean_le (List.cons_ne_nil _ _) hpair
    simp only [List.forall_mem_cons]
    exact ⟨le_max_left _ _, le_max_right _ _, List.forall_mem_nil _⟩

end VeriPay.Lib
