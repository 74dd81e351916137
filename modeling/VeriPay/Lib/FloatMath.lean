import VeriPay.Lib.GreatCircle
import VeriPay.Lib.PyError

/-!
The functions of Python's `math` on floats, and on the reals what they stand for.
-/

namespace VeriPay.Lib

structure FloatMath (K : Type) where
  /-- Of a number of degrees. -/
  radians : ℚ → K
  sin : K → K
  cos : K → K
  /-- Raises below zero. -/
  sqrt : K → Py K
  /-- Raises where no angle has the sine. -/
  asin : K → Py K
  /-- `round(x, digits)`. -/
  round : ℕ → K → K

/-- `math.sin(x / 2) ** 2`. -/
def FloatMath.sinSqHalf {K : Type} [Field K] (math : FloatMath K) (x : K) : K :=
  math.sin (x / (2 : ℚ)) ^ 2

/-- Without rounding errors; what `round` does is left open. -/
noncomputable def FloatMath.exact (round : ℕ → ℝ → ℝ) : FloatMath ℝ where
  radians := fun degrees => degrees * (Real.pi / (180 : ℚ))
  sin := Real.sin
  cos := Real.cos
  sqrt := fun x => if 0 ≤ x then .ok (√x) else .error (.valueError "math domain error")
  asin := fun x =>
    if -1 ≤ x ∧ x ≤ 1 then .ok (Real.arcsin x) else .error (.valueError "math domain error")
  round

section Exact

variable (round : ℕ → ℝ → ℝ)

theorem FloatMath.exact_radians_sub (a b : ℚ) :
    (exact round).radians (b - a) = (exact round).radians b - (exact round).radians a := by
  simp only [exact, Rat.cast_sub, sub_mul]

theorem FloatMath.exact_sqrt {x : ℝ} (h : 0 ≤ x) : (exact round).sqrt x = .ok (√x) := if_pos h

/-- A point given in degrees. -/
noncomputable def SpherePoint.ofDegrees (latitude longitude : ℚ) : SpherePoint where
  lat := (FloatMath.exact round).radians latitude
  lon := (FloatMath.exact round).radians longitude

/-- The term under the root is the haversine of the points. -/
theorem FloatMath.exact_haversine (p q : SpherePoint) :
    (exact round).sinSqHalf (q.lat - p.lat) + (exact round).cos p.lat * (exact round).cos q.lat *
      (exact round).sinSqHalf (q.lon - p.lon) = p.haversine q := by
  simp only [sinSqHalf, exact, SpherePoint.haversine, Rat.cast_ofNat]

/-- The root of a haversine is the sine of an angle. -/
theorem FloatMath.exact_asin_sqrt (p q : SpherePoint) :
    (exact round).asin (√(p.haversine q)) = .ok (Real.arcsin (√(p.haversine q))) := by
  have hnonneg := Real.sqrt_nonneg (p.haversine q)
  have hle : √(p.haversine q) ≤ 1 := Real.sqrt_le_one.mpr (p.haversine_le_one q)
  exact if_pos ⟨by linarith, hle⟩

end Exact

end VeriPay.Lib
