import Mathlib.Data.Int.Log
import Mathlib.Tactic.NormNum
import VeriPay.Lib.Rounding

/-!
What Python's `float` makes of a number, and how two floats are compared: a float has 53 binary
digits, ties are rounded to even, and beyond its range there are the infinities.
-/

namespace VeriPay.Lib

/-- A float that is a number, or an infinity by its sign. -/
inductive FloatValue
  | finite (value : ℚ)
  | infinite (negative : Bool)
  deriving DecidableEq

namespace FloatValue

/-- The exponent of the last binary digit that a float near the number has. -/
def lastDigit (value : ℚ) : ℤ := max (Int.log 2 |value| - 52) (-1074)

/-- The nearest number of 53 binary digits. -/
def nearest (value : ℚ) : ℚ := roundEven (value / 2 ^ lastDigit value) * 2 ^ lastDigit value

def overflows (value : ℚ) : Bool := 2 ^ 1024 ≤ |nearest value|

/-- The value of a numeral or of an operation, rounded. -/
def ofRat (value : ℚ) : FloatValue :=
  if overflows value then .infinite (value < 0) else .finite (nearest value)

/-- `a - b`, if it is a number or an infinity. -/
def sub : FloatValue → FloatValue → Option FloatValue
  | .finite a, .finite b => some (ofRat (a - b))
  | .finite _, .infinite negative => some (.infinite !negative)
  | .infinite negative, .finite _ => some (.infinite negative)
  | .infinite negative, .infinite other =>
    if negative = other then none else some (.infinite negative)

/-- `abs(a) * share`, of a positive share. -/
def shareOf (share : ℚ) : FloatValue → FloatValue
  | .finite a => ofRat (|a| * share)
  | .infinite _ => .infinite false

/-- `abs(a) <= b`. -/
def absLe : FloatValue → FloatValue → Bool
  | .finite a, .finite b => |a| ≤ b
  | .infinite _, .finite _ => false
  | _, .infinite negative => !negative

/-- `bound <= abs(value)`. -/
def reaches (bound : ℚ) : FloatValue → Bool
  | .finite value => bound ≤ |value|
  | .infinite _ => true

/-- `abs(candidate - value) <= abs(value) * share`: nothing is so with NaN. -/
def isWithin (share : ℚ) (candidate value : FloatValue) : Bool :=
  match sub candidate value with
  | none => false
  | some difference => absLe difference (shareOf share value)

section Rounding

theorem two_zpow_pos (k : ℤ) : (0 : ℚ) < 2 ^ k := zpow_pos two_pos k

@[simp] theorem nearest_zero : nearest 0 = 0 := by
  rw [nearest, zero_div]
  simp [roundEven]

theorem nearest_nonneg {value : ℚ} (h : 0 ≤ value) : 0 ≤ nearest value := by
  have hunit := two_zpow_pos (lastDigit value)
  have hround : 0 ≤ roundEven (value / 2 ^ lastDigit value) :=
    le_roundEven (by exact_mod_cast div_nonneg h hunit.le)
  exact mul_nonneg (by exact_mod_cast hround) hunit.le

/-- Rounding cannot more than double a number, but for the least ones. -/
theorem abs_nearest_le (value : ℚ) : |nearest value| ≤ 2 * |value| + 1 := by
  have hunit := two_zpow_pos (lastDigit value)
  have herror : |nearest value - value| ≤ 2 ^ lastDigit value := by
    have hsplit : nearest value - value =
        ((roundEven (value / 2 ^ lastDigit value) : ℚ) - value / 2 ^ lastDigit value) *
          2 ^ lastDigit value := by
      rw [sub_mul, div_mul_cancel₀ _ hunit.ne', nearest]
    rw [hsplit, abs_mul, abs_of_pos hunit]
    have hhalf := abs_roundEven_sub_le (value / 2 ^ lastDigit value)
    nlinarith
  have hdigit : (2 : ℚ) ^ lastDigit value ≤ |value| + 1 := by
    have hone : (1 : ℚ) ≤ 2 := one_le_two
    have hleading : (2 : ℚ) ^ Int.log 2 |value| ≤ |value| + 1 := by
      by_cases hzero : value = 0
      · rw [hzero, abs_zero, Int.log_zero_right, zpow_zero]
        norm_num
      · have hle : (2 : ℚ) ^ Int.log 2 |value| ≤ |value| := by
          exact_mod_cast Int.zpow_log_le_self (b := 2) (by norm_num) (abs_pos.mpr hzero)
        linarith
    have hnonneg := abs_nonneg value
    rcases max_choice (Int.log 2 |value| - 52) (-1074) with hlog | htiny
    · rw [lastDigit, hlog]
      exact (zpow_le_zpow_right₀ hone (by omega)).trans hleading
    · rw [lastDigit, htiny]
      have htiny : (2 : ℚ) ^ (-1074 : ℤ) ≤ 2 ^ (0 : ℤ) := zpow_le_zpow_right₀ hone (by norm_num)
      rw [zpow_zero] at htiny
      linarith
  have hmove := abs_sub_abs_le_abs_sub (nearest value) value
  linarith

/-- No everyday number overflows. -/
theorem not_overflows {value : ℚ} (h : |value| ≤ 10 ^ 16) : overflows value = false := by
  refine decide_eq_false (not_le.mpr ?_)
  refine (abs_nearest_le value).trans_lt ?_
  calc 2 * |value| + 1 ≤ 2 * 10 ^ 16 + 1 := by linarith
    _ < 2 ^ 60 := by norm_num
    _ ≤ 2 ^ 1024 := pow_le_pow_right₀ (by norm_num) (by norm_num)

theorem ofRat_of_le {value : ℚ} (h : |value| ≤ 10 ^ 16) :
    ofRat value = .finite (nearest value) := by
  rw [ofRat, not_overflows h, if_neg Bool.false_ne_true]

example : ofRat (1 / 10) = .finite (3602879701896397 / 2 ^ 55) := by decide +kernel

theorem ofRat_zero : ofRat 0 = .finite 0 := by
  rw [ofRat_of_le (by norm_num), nearest_zero]

end Rounding

/-- A float that is a number is within any share of itself. -/
theorem isWithin_self {share a : ℚ} (hshare : 0 ≤ share) :
    isWithin share (.finite a) (.finite a) = true := by
  have hscaled : 0 ≤ |a| * share := mul_nonneg (abs_nonneg a) hshare
  rw [isWithin, sub, sub_self, ofRat_zero]
  show absLe (.finite 0) (ofRat (|a| * share)) = true
  rw [ofRat]
  split_ifs with hoverflow
  · rw [decide_eq_false (not_lt.mpr hscaled)]
    rfl
  · rw [absLe, abs_zero]
    exact decide_eq_true (nearest_nonneg hscaled)

end FloatValue

end VeriPay.Lib
