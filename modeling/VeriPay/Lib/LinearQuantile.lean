import Mathlib.Algebra.Order.Field.Basic
import Mathlib.Tactic.FieldSimp
import Mathlib.Tactic.Linarith
import VeriPay.Lib.OrderStat

/-!
Quantiles by linear interpolation between the order statistics of a sorted list. A rank is
a fraction of two numbers, counted from zero. Where a quantile lies with regard to an item
goes by the item's first and last ranks alone.
-/

namespace VeriPay.Lib

section Ranks

variable {α : Type*} {sorted : List α} {num den : ℕ}

/-- A rank between two whole ones has both within the list. -/
theorem succ_div_lt_length (hnum : num ≤ (sorted.length - 1) * den) (hmod : 0 < num % den) :
    num / den + 1 < sorted.length := by
  have hsplit := Nat.div_add_mod num den
  rw [Nat.mul_comm] at hsplit
  generalize num / den = j at hsplit ⊢
  by_contra hlong
  have hle : (sorted.length - 1) * den ≤ j * den := Nat.mul_le_mul_right den (by omega)
  omega

theorem div_lt_length (hne : sorted ≠ []) (hnum : num ≤ (sorted.length - 1) * den) :
    num / den < sorted.length := by
  have hpos := List.length_pos_iff.mpr hne
  have hle : num / den ≤ sorted.length - 1 := Nat.div_le_of_le_mul (by rwa [Nat.mul_comm])
  generalize num / den = j at hle ⊢
  omega

end Ranks

section Interpolate

variable {F : Type*} [Field F]

/-- The quantile at the rank `num / den`. -/
def interpolate (sorted : List F) (num den : ℕ) : F :=
  sorted.getD (num / den) 0 +
    (num % den : ℕ) / (den : F) * (sorted.getD (num / den + 1) 0 - sorted.getD (num / den) 0)

variable {sorted : List F} {num den : ℕ}

/-- At a whole rank the quantile is the order statistic. -/
theorem interpolate_of_mod_eq_zero (sorted : List F) (h : num % den = 0) :
    interpolate sorted num den = sorted.getD (num / den) 0 := by
  rw [interpolate, h, Nat.cast_zero, zero_div, zero_mul, add_zero]

/-- Between two different order statistics a quantile is above the lower one. -/
theorem getD_lt_interpolate [LinearOrder F] [IsStrictOrderedRing F] (hden : 0 < den)
    (hmod : 0 < num % den)
    (hgap : sorted.getD (num / den) 0 < sorted.getD (num / den + 1) 0) :
    sorted.getD (num / den) 0 < interpolate sorted num den := by
  have hpart : (0 : F) < (num % den : ℕ) / (den : F) :=
    div_pos (by exact_mod_cast hmod) (by exact_mod_cast hden)
  have hstep := mul_pos hpart (sub_pos.mpr hgap)
  rw [interpolate]
  linarith

/-- And below the upper one. -/
theorem interpolate_lt_getD_succ [LinearOrder F] [IsStrictOrderedRing F] (hden : 0 < den)
    (hgap : sorted.getD (num / den) 0 < sorted.getD (num / den + 1) 0) :
    interpolate sorted num den < sorted.getD (num / den + 1) 0 := by
  have hpos : (0 : F) < den := by exact_mod_cast hden
  have hpart : (num % den : ℕ) / (den : F) < 1 := by
    rw [div_lt_one hpos]
    exact_mod_cast Nat.mod_lt num hden
  have hstep := mul_lt_mul_of_pos_right hpart (sub_pos.mpr hgap)
  rw [interpolate]
  linarith

variable [LinearOrder F] [IsStrictOrderedRing F] (hsorted : sorted.Pairwise (· ≤ ·))

include hsorted

theorem getD_le_interpolate (hnum : num ≤ (sorted.length - 1) * den) :
    sorted.getD (num / den) 0 ≤ interpolate sorted num den := by
  rcases Nat.eq_zero_or_pos (num % den) with hmod | hmod
  · rw [interpolate_of_mod_eq_zero sorted hmod]
  · have hlength := succ_div_lt_length hnum hmod
    have hmono := getD_le_getD hsorted 0 (Nat.le_add_right (num / den) 1) hlength
    have hpart : (0 : F) ≤ (num % den : ℕ) / (den : F) := by positivity
    have hstep := mul_nonneg hpart (sub_nonneg.mpr hmono)
    rw [interpolate]
    linarith

theorem interpolate_le_getD_succ (hden : 0 < den) (hlength : num / den + 1 < sorted.length) :
    interpolate sorted num den ≤ sorted.getD (num / den + 1) 0 := by
  have hmono := getD_le_getD hsorted 0 (Nat.le_add_right (num / den) 1) hlength
  have hpos : (0 : F) < den := by exact_mod_cast hden
  have hpart : (num % den : ℕ) / (den : F) ≤ 1 := by
    rw [div_le_one hpos]
    exact_mod_cast (Nat.mod_lt num hden).le
  have hstep := mul_le_mul_of_nonneg_right hpart (sub_nonneg.mpr hmono)
  rw [interpolate]
  linarith

/-- Quantiles grow with their rank. -/
theorem interpolate_mono (hden : 0 < den) {other : ℕ} (hle : num ≤ other)
    (hother : other ≤ (sorted.length - 1) * den) :
    interpolate sorted num den ≤ interpolate sorted other den := by
  have hdiv : num / den ≤ other / den := Nat.div_le_div_right hle
  rcases Nat.eq_or_lt_of_le hdiv with hsame | hless
  · -- Both are on one segment, and the parts of it compare.
    have hmod : num % den ≤ other % den := by
      have h := Nat.div_add_mod num den
      have h' := Nat.div_add_mod other den
      rw [hsame] at h
      omega
    rcases Nat.eq_zero_or_pos (other % den) with hzero | hpos
    · have hnum : num % den = 0 := by omega
      rw [interpolate_of_mod_eq_zero sorted hzero, interpolate_of_mod_eq_zero sorted hnum, hsame]
    · have hlength := succ_div_lt_length hother hpos
      have hmono := getD_le_getD hsorted 0 (Nat.le_add_right (other / den) 1) hlength
      have hparts : (num % den : ℕ) / (den : F) ≤ (other % den : ℕ) / (den : F) :=
        div_le_div_of_nonneg_right (by exact_mod_cast hmod) (Nat.cast_nonneg den)
      have hstep := mul_le_mul_of_nonneg_right hparts (sub_nonneg.mpr hmono)
      rw [interpolate, interpolate, hsame]
      linarith
  · have hne : sorted ≠ [] := by
      rintro rfl
      simp only [List.length_nil, Nat.zero_sub, Nat.zero_mul, Nat.le_zero] at hother
      rw [hother, Nat.zero_div] at hless
      exact absurd hless (Nat.not_lt_zero _)
    have hlast := div_lt_length hne hother
    have hlength : num / den + 1 < sorted.length := lt_of_le_of_lt hless hlast
    exact ((interpolate_le_getD_succ hsorted hden hlength).trans
      (getD_le_getD hsorted 0 hless hlast)).trans (getD_le_interpolate hsorted hother)

/-- A quantile is at most an item exactly up to the item's last rank. -/
theorem interpolate_le_iff (hden : 0 < den) (hnum : num ≤ (sorted.length - 1) * den) {v : F}
    (hv : v ∈ sorted) :
    interpolate sorted num den ≤ v ↔ num + den ≤ sorted.countP (fun a => a ≤ v) * den := by
  have hrank := div_lt_length (List.ne_nil_of_mem hv) hnum
  have hdown : ∀ a b : F, a ≤ b → b ≤ v → a ≤ v := fun a b hab hbv => hab.trans hbv
  have hcount := getD_iff_lt_countP hsorted 0 hdown hrank
  have hsplit := Nat.div_add_mod num den
  rw [Nat.mul_comm] at hsplit
  rcases Nat.eq_zero_or_pos (num % den) with hmod | hmod
  · have hunits : num + den = (num / den + 1) * den := by rw [Nat.add_mul]; omega
    rw [interpolate_of_mod_eq_zero sorted hmod, hcount, hunits]
    exact (Nat.mul_le_mul_right_iff hden).symm
  · have hlength := succ_div_lt_length hnum hmod
    have hcount' := getD_iff_lt_countP hsorted 0 hdown hlength
    by_cases hnext : sorted.getD (num / den + 1) 0 ≤ v
    · refine iff_of_true ((interpolate_le_getD_succ hsorted hden hlength).trans hnext) ?_
      have hle := Nat.mul_le_mul_right den (Nat.succ_le_of_lt (hcount'.mp hnext))
      have hmore := Nat.mod_lt num hden
      rw [Nat.succ_eq_add_one, Nat.add_mul, Nat.add_mul] at hle
      omega
    · -- The item is at or before the rank, and the quantile above it.
      have hless := not_le.mp hnext
      have hbefore : v ≤ sorted.getD (num / den) 0 := by
        obtain ⟨i, hi, rfl⟩ := List.getElem_of_mem hv
        rw [← List.getD_eq_getElem sorted 0 hi] at hless ⊢
        have hindex : i ≤ num / den := by
          by_contra hafter
          have hge := getD_le_getD hsorted 0 (show num / den + 1 ≤ i by omega) hi
          exact absurd hless (not_lt.mpr hge)
        exact getD_le_getD hsorted 0 hindex hrank
      have habove : v < interpolate sorted num den := by
        rcases hbefore.lt_or_eq with h | h
        · exact h.trans_le (getD_le_interpolate hsorted hnum)
        · rw [h] at hless
          rw [h]
          exact getD_lt_interpolate hden hmod hless
      refine iff_of_false (not_le.mpr habove) ?_
      have hle : sorted.countP (fun a => a ≤ v) * den ≤ (num / den + 1) * den :=
        Nat.mul_le_mul_right den (not_lt.mp fun h => hnext (hcount'.mpr h))
      rw [Nat.add_mul] at hle
      omega

/-- A quantile is at least an item exactly from the item's first rank. -/
theorem le_interpolate_iff (hden : 0 < den) (hnum : num ≤ (sorted.length - 1) * den) {v : F}
    (hv : v ∈ sorted) :
    v ≤ interpolate sorted num den ↔ sorted.countP (fun a => a < v) * den ≤ num := by
  have hrank := div_lt_length (List.ne_nil_of_mem hv) hnum
  have hdown : ∀ a b : F, a ≤ b → b < v → a < v := fun a b hab hbv => hab.trans_lt hbv
  have hcount := getD_iff_lt_countP hsorted 0 hdown hrank
  have hsplit := Nat.div_add_mod num den
  rw [Nat.mul_comm] at hsplit
  have hmore := Nat.mod_lt num hden
  by_cases hreached : v ≤ sorted.getD (num / den) 0
  · refine iff_of_true (hreached.trans (getD_le_interpolate hsorted hnum)) ?_
    have hle : sorted.countP (fun a => a < v) * den ≤ num / den * den :=
      Nat.mul_le_mul_right den (not_lt.mp fun h => absurd (hcount.mpr h) (not_lt.mpr hreached))
    omega
  · have hless := not_le.mp hreached
    have hunits : (num / den + 1) * den ≤ sorted.countP (fun a => a < v) * den :=
      Nat.mul_le_mul_right den (hcount.mp hless)
    rw [Nat.add_mul] at hunits
    refine iff_of_false ?_ (by omega)
    rcases Nat.eq_zero_or_pos (num % den) with hmod | hmod
    · rw [interpolate_of_mod_eq_zero sorted hmod]
      exact hreached
    · have hlength := succ_div_lt_length hnum hmod
      have hafter : sorted.getD (num / den + 1) 0 ≤ v := by
        obtain ⟨i, hi, rfl⟩ := List.getElem_of_mem hv
        rw [← List.getD_eq_getElem sorted 0 hi] at hless ⊢
        refine getD_le_getD hsorted 0 ?_ hi
        by_contra hbefore
        have hge := getD_le_getD hsorted 0 (show i ≤ num / den by omega) hrank
        exact absurd hless (not_lt.mpr hge)
      rcases hafter.lt_or_eq with h | h
      · exact not_le.mpr ((interpolate_le_getD_succ hsorted hden hlength).trans_lt h)
      · rw [← h] at hless ⊢
        exact not_le.mpr (interpolate_lt_getD_succ hden hless)

/-- From inside a gap the quantile grows strictly. -/
theorem interpolate_lt_of_gap (hden : 0 < den) {other : ℕ} (hless : num < other)
    (hother : other ≤ (sorted.length - 1) * den) (hlength : num / den + 1 < sorted.length)
    (hgap : sorted.getD (num / den) 0 < sorted.getD (num / den + 1) 0) :
    interpolate sorted num den < interpolate sorted other den := by
  have hne : sorted ≠ [] := List.ne_nil_of_length_pos (lt_of_le_of_lt (Nat.zero_le _) hlength)
  have hdiv : num / den ≤ other / den := Nat.div_le_div_right hless.le
  rcases Nat.eq_or_lt_of_le hdiv with hsame | hlater
  · have hmod : num % den < other % den := by
      have h := Nat.div_add_mod num den
      have h' := Nat.div_add_mod other den
      rw [hsame] at h
      omega
    have hpos : (0 : F) < den := by exact_mod_cast hden
    have hparts : (num % den : ℕ) / (den : F) < (other % den : ℕ) / (den : F) :=
      div_lt_div_of_pos_right (by exact_mod_cast hmod) hpos
    have hstep := mul_lt_mul_of_pos_right hparts (sub_pos.mpr hgap)
    rw [interpolate, interpolate, ← hsame]
    linarith
  · exact (interpolate_lt_getD_succ hden hgap).trans_le
      ((getD_le_getD hsorted 0 hlater (div_lt_length hne hother)).trans
        (getD_le_interpolate hsorted hother))

/-- A quantile that stays where it is while the rank grows is an item. -/
theorem interpolate_mem_of_eq (hden : 0 < den) (hne : sorted ≠ []) {other : ℕ}
    (hless : num < other) (hother : other ≤ (sorted.length - 1) * den)
    (heq : interpolate sorted num den = interpolate sorted other den) :
    interpolate sorted num den ∈ sorted := by
  have hnum : num ≤ (sorted.length - 1) * den := hless.le.trans hother
  have hrank := div_lt_length hne hnum
  have hmem : sorted.getD (num / den) 0 ∈ sorted := by
    rw [List.getD_eq_getElem sorted 0 hrank]
    exact List.getElem_mem hrank
  rcases Nat.eq_zero_or_pos (num % den) with hmod | hmod
  · rw [interpolate_of_mod_eq_zero sorted hmod]
    exact hmem
  · have hlength := succ_div_lt_length hnum hmod
    rcases (getD_le_getD hsorted 0 (Nat.le_add_right (num / den) 1) hlength).lt_or_eq with
      hgap | htie
    · exact absurd heq (interpolate_lt_of_gap hsorted hden hless hother hlength hgap).ne
    · rw [interpolate, ← htie, sub_self, mul_zero, add_zero]
      exact hmem

end Interpolate

end VeriPay.Lib
