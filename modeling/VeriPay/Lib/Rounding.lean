import Mathlib.Algebra.Order.Floor.Ring
import Mathlib.Data.Rat.Floor
import Mathlib.Tactic.Linarith

/-!
Python's `round` and its neighbours on exact rationals. Ties go to the even
integer; what the services rely on is that rounding is monotone and stays
between the integers around its argument.
-/

namespace VeriPay.Lib

/-- `round(x)`. -/
def roundEven (x : ℚ) : ℤ :=
  if x - ⌊x⌋ < 1 / 2 then ⌊x⌋
  else if 1 / 2 < x - ⌊x⌋ then ⌊x⌋ + 1
  else if ⌊x⌋ % 2 = 0 then ⌊x⌋
  else ⌊x⌋ + 1

/-- `round(x, digits)`. -/
def roundTo (digits : ℕ) (x : ℚ) : ℚ := (roundEven (x * 10 ^ digits) : ℚ) / 10 ^ digits

/-- `int(x)`. -/
def truncate (x : ℚ) : ℤ := if 0 ≤ x then ⌊x⌋ else ⌈x⌉

/-- `max(0.0, min(1.0, value))`. -/
def clamp01 (value : ℚ) : ℚ := max 0 (min 1 value)

theorem floor_le_roundEven (x : ℚ) : ⌊x⌋ ≤ roundEven x := by
  unfold roundEven
  split_ifs <;> omega

theorem roundEven_le_floor_add_one (x : ℚ) : roundEven x ≤ ⌊x⌋ + 1 := by
  unfold roundEven
  split_ifs <;> omega

@[simp] theorem roundEven_intCast (n : ℤ) : roundEven (n : ℚ) = n := by
  simp [roundEven]

/-- The rounded number is at most one half away. -/
theorem abs_roundEven_sub_le (x : ℚ) : |(roundEven x : ℚ) - x| ≤ 1 / 2 := by
  have hlow := Int.floor_le x
  have hhigh := Int.lt_floor_add_one x
  unfold roundEven
  split_ifs
  all_goals
    push_cast
    rw [abs_le]
    constructor <;> linarith

theorem roundEven_mono {x y : ℚ} (h : x ≤ y) : roundEven x ≤ roundEven y := by
  rcases (Int.floor_le_floor h).lt_or_eq with hlt | heq
  · have hx := roundEven_le_floor_add_one x
    have hy := floor_le_roundEven y
    omega
  · unfold roundEven
    rw [heq]
    split_ifs <;> first | omega | (exfalso; linarith)

theorem le_roundEven {n : ℤ} {x : ℚ} (h : (n : ℚ) ≤ x) : n ≤ roundEven x := by
  rw [← roundEven_intCast n]
  exact roundEven_mono h

theorem roundEven_le {n : ℤ} {x : ℚ} (h : x ≤ (n : ℚ)) : roundEven x ≤ n := by
  rw [← roundEven_intCast n]
  exact roundEven_mono h

/-- Up to the half above an even integer, inclusive, rounding does not pass the integer. -/
theorem roundEven_le_iff_of_even {n : ℤ} (heven : n % 2 = 0) (x : ℚ) :
    roundEven x ≤ n ↔ x ≤ n + 1 / 2 := by
  have hhalf : ⌊(n : ℚ) + 1 / 2⌋ = n := by
    rw [Int.floor_eq_iff]
    constructor <;> linarith
  constructor
  · intro h
    by_contra hlarge
    push Not at hlarge
    by_cases hnext : (n : ℚ) + 1 ≤ x
    · have hround : n + 1 ≤ roundEven x := le_roundEven (by exact_mod_cast hnext)
      omega
    · have hfloor : ⌊x⌋ = n := by
        rw [Int.floor_eq_iff]
        constructor <;> linarith
      have hround : roundEven x = n + 1 := by
        rw [roundEven, hfloor, if_neg (by linarith), if_pos (by linarith)]
      omega
  · intro h
    refine (roundEven_mono h).trans (le_of_eq ?_)
    rw [roundEven, hhalf, if_neg (by linarith), if_neg (by linarith), if_pos heven]

theorem roundTo_mono (digits : ℕ) {x y : ℚ} (h : x ≤ y) : roundTo digits x ≤ roundTo digits y := by
  unfold roundTo
  have hround : roundEven (x * 10 ^ digits) ≤ roundEven (y * 10 ^ digits) :=
    roundEven_mono (mul_le_mul_of_nonneg_right h (by positivity))
  exact div_le_div_of_nonneg_right (by exact_mod_cast hround) (by positivity)

@[simp] theorem roundTo_zero (digits : ℕ) : roundTo digits 0 = 0 := by
  simp [roundTo, roundEven]

@[simp] theorem roundTo_intCast (digits : ℕ) (n : ℤ) : roundTo digits (n : ℚ) = n := by
  have hscaled : (n : ℚ) * 10 ^ digits = ((n * 10 ^ digits : ℤ) : ℚ) := by push_cast; rfl
  rw [roundTo, hscaled, roundEven_intCast]
  push_cast
  exact mul_div_cancel_right₀ _ (by positivity)

@[simp] theorem roundTo_roundTo (digits : ℕ) (x : ℚ) :
    roundTo digits (roundTo digits x) = roundTo digits x := by
  have hpos : (10 : ℚ) ^ digits ≠ 0 := by positivity
  have hscaled : roundTo digits x * 10 ^ digits = roundEven (x * 10 ^ digits) := by
    rw [roundTo, div_mul_cancel₀ _ hpos]
  rw [roundTo, hscaled, roundEven_intCast, roundTo]

@[simp] theorem roundTo_one (digits : ℕ) : roundTo digits 1 = 1 := by
  exact_mod_cast roundTo_intCast digits 1

theorem roundTo_nonneg (digits : ℕ) {x : ℚ} (h : 0 ≤ x) : 0 ≤ roundTo digits x := by
  have hround := roundTo_mono digits h
  rwa [roundTo_zero] at hround

theorem roundTo_le_one (digits : ℕ) {x : ℚ} (h : x ≤ 1) : roundTo digits x ≤ 1 := by
  have hround := roundTo_mono digits h
  rwa [roundTo_one] at hround

theorem clamp01_nonneg (value : ℚ) : 0 ≤ clamp01 value := le_max_left _ _

theorem clamp01_le_one (value : ℚ) : clamp01 value ≤ 1 :=
  max_le zero_le_one (min_le_left _ _)

theorem clamp01_of_unit {q : ℚ} (h : 0 ≤ q ∧ q ≤ 1) : clamp01 q = q := by
  rw [clamp01, min_eq_right h.2, max_eq_right h.1]

theorem clamp01_mono {a b : ℚ} (h : a ≤ b) : clamp01 a ≤ clamp01 b :=
  max_le_max le_rfl (min_le_min le_rfl h)

end VeriPay.Lib
