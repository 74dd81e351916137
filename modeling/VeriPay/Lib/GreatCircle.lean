import Mathlib.Analysis.InnerProductSpace.PiL2
import Mathlib.Geometry.Euclidean.Angle.Unoriented.TriangleInequality

/-!
Distances on a sphere. The angle that the haversine formula gives is the angle between the vectors
of the two points, so no detour is shorter.
-/

namespace VeriPay.Lib

open Real InnerProductGeometry

/-- Latitude and longitude, in radians. -/
structure SpherePoint where
  lat : ℝ
  lon : ℝ

namespace SpherePoint

/-- The point on the unit sphere. -/
noncomputable def coordinates (p : SpherePoint) : Fin 3 → ℝ :=
  ![cos p.lat * cos p.lon, cos p.lat * sin p.lon, sin p.lat]

noncomputable def haversine (p q : SpherePoint) : ℝ :=
  sin ((q.lat - p.lat) / (2 : ℚ)) ^ 2 +
    cos p.lat * cos q.lat * sin ((q.lon - p.lon) / (2 : ℚ)) ^ 2

noncomputable def centralAngle (p q : SpherePoint) : ℝ := (2 : ℚ) * arcsin (√(p.haversine q))

theorem inner_coordinates (p q : SpherePoint) :
    inner ℝ (WithLp.toLp 2 p.coordinates) (WithLp.toLp 2 q.coordinates) =
      1 - 2 * p.haversine q := by
  have hlat := sin_sq_eq_half_sub ((q.lat - p.lat) / 2)
  have hlon := sin_sq_eq_half_sub ((q.lon - p.lon) / 2)
  rw [mul_div_cancel₀ _ two_ne_zero, cos_sub] at hlat hlon
  rw [haversine, Rat.cast_ofNat, hlat, hlon, coordinates, coordinates, PiLp.inner_apply,
    Fin.sum_univ_three]
  simp
  ring

theorem norm_coordinates (p : SpherePoint) : ‖WithLp.toLp 2 p.coordinates‖ = 1 := by
  have hself : p.haversine p = 0 := by simp [haversine]
  have hinner := inner_coordinates p p
  rw [hself, real_inner_self_eq_norm_sq, mul_zero, sub_zero] at hinner
  exact (pow_eq_one_iff_of_nonneg (norm_nonneg _) two_ne_zero).mp hinner

/-- The haversine is the square of the sine of half the angle. -/
theorem haversine_eq_sin_sq (p q : SpherePoint) :
    p.haversine q =
      sin (angle (WithLp.toLp 2 p.coordinates) (WithLp.toLp 2 q.coordinates) / 2) ^ 2 := by
  have hcos := inner_eq_cos_angle_of_norm_eq_one (norm_coordinates p) (norm_coordinates q)
  have hsin := sin_sq_eq_half_sub
    (angle (WithLp.toLp 2 p.coordinates) (WithLp.toLp 2 q.coordinates) / 2)
  rw [mul_div_cancel₀ _ two_ne_zero, ← hcos, inner_coordinates] at hsin
  linarith

theorem haversine_nonneg (p q : SpherePoint) : 0 ≤ p.haversine q := by
  rw [haversine_eq_sin_sq]
  exact sq_nonneg _

theorem haversine_le_one (p q : SpherePoint) : p.haversine q ≤ 1 := by
  rw [haversine_eq_sin_sq]
  exact sin_sq_le_one _

theorem centralAngle_eq_angle (p q : SpherePoint) :
    p.centralAngle q = angle (WithLp.toLp 2 p.coordinates) (WithLp.toLp 2 q.coordinates) := by
  have hnonneg := angle_nonneg (WithLp.toLp 2 p.coordinates) (WithLp.toLp 2 q.coordinates)
  have hle := angle_le_pi (WithLp.toLp 2 p.coordinates) (WithLp.toLp 2 q.coordinates)
  rw [centralAngle, haversine_eq_sin_sq, Rat.cast_ofNat,
    sqrt_sq (sin_nonneg_of_nonneg_of_le_pi (by linarith) (by linarith)),
    arcsin_sin (by linarith) (by linarith)]
  ring

theorem centralAngle_self (p : SpherePoint) : p.centralAngle p = 0 := by
  simp [centralAngle, haversine]

theorem centralAngle_triangle (p q r : SpherePoint) :
    p.centralAngle r ≤ p.centralAngle q + q.centralAngle r := by
  rw [centralAngle_eq_angle, centralAngle_eq_angle, centralAngle_eq_angle]
  exact angle_le_angle_add_angle _ _ _

end SpherePoint

end VeriPay.Lib
