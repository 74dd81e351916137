import Mathlib.Analysis.SpecialFunctions.Log.Basic
import VeriPay.Lib.Divergence
import VeriPay.ModelMonitor.Drift

/-!
The stability index over the reals. It is a symmetric divergence of the two histograms
and takes no notice of their scale.
-/

namespace VeriPay.ModelMonitor

open Lib

/-- `psi` of two arrays of floats. -/
noncomputable def psiArrays (referenceCounts currentCounts : List ℝ) : WithTop ℝ :=
  stabilityIndex Drift.epsilon Real.log referenceCounts currentCounts

/-- Counts that are not negative, some of them positive. -/
structure IsHistogram (counts : List ℝ) : Prop where
  nonneg : ∀ count ∈ counts, 0 ≤ count
  total_pos : 0 < counts.sum

structure SymmetricDivergence (reference current : List ℝ) : Prop where
  nonneg : 0 ≤ psiArrays reference current
  comm : psiArrays reference current = psiArrays current reference
  zero_iff : psiArrays reference current = 0 ↔ normalized reference = normalized current
  scaled : ∀ scale, 0 < scale →
    psiArrays (reference.map (scale * ·)) current = psiArrays reference current ∧
      psiArrays reference (current.map (scale * ·)) = psiArrays reference current

theorem isLogarithm_log : IsLogarithm Real.log where
  inv := fun x _ => Real.log_inv x
  strictMono := fun _ _ hx hless => Real.log_lt_log hx hless

theorem epsilon_pos : (0 : ℝ) < Drift.epsilon := by
  norm_num [Drift.epsilon]

section Index

variable {reference current : List ℝ}

theorem psiArrays_eq (hreference : IsHistogram reference) (hcurrent : IsHistogram current) :
    psiArrays reference current = (divergence Real.log (smoothed Drift.epsilon reference)
      (smoothed Drift.epsilon current) : ℝ) :=
  stabilityIndex_of_pos Real.log hreference.total_pos hcurrent.total_pos

theorem IsHistogram.scaled (h : IsHistogram reference) {scale : ℝ} (hscale : 0 < scale) :
    IsHistogram (reference.map (scale * ·)) where
  nonneg := by
    intro count hcount
    obtain ⟨unscaled, hmem, rfl⟩ := List.mem_map.mp hcount
    exact mul_nonneg hscale.le (h.nonneg unscaled hmem)
  total_pos := sum_scaled_pos hscale h.total_pos

theorem symmetricDivergence (hlength : reference.length = current.length)
    (hreference : IsHistogram reference) (hcurrent : IsHistogram current) :
    SymmetricDivergence reference current := by
  have hp := smoothed_pos epsilon_pos hreference.nonneg
  have hq := smoothed_pos epsilon_pos hcurrent.nonneg
  refine ⟨?_, ?_, ?_, ?_⟩
  · rw [psiArrays_eq hreference hcurrent]
    exact_mod_cast divergence_nonneg isLogarithm_log hp hq
  · rw [psiArrays_eq hreference hcurrent, psiArrays_eq hcurrent hreference,
      divergence_comm isLogarithm_log hp hq]
  · have hshares : (smoothed Drift.epsilon reference).length =
        (smoothed Drift.epsilon current).length := by
      rw [smoothed, smoothed, List.length_map, List.length_map, hlength]
    rw [psiArrays_eq hreference hcurrent, WithTop.coe_eq_zero,
      divergence_eq_zero_iff isLogarithm_log hshares hp hq, smoothed_eq_iff]
  · intro scale hscale
    constructor
    · rw [psiArrays_eq (hreference.scaled hscale) hcurrent, psiArrays_eq hreference hcurrent,
        smoothed_scaled _ _ hscale.ne']
    · rw [psiArrays_eq hreference (hcurrent.scaled hscale), psiArrays_eq hreference hcurrent,
        smoothed_scaled _ _ hscale.ne']

end Index

/-- The index of any two histograms of one length is a symmetric divergence, and both
implementations compute it on counts. -/
theorem psi_symmetricDivergence :
    (∀ reference current : List ℝ, reference.length = current.length → IsHistogram reference →
      IsHistogram current → SymmetricDivergence reference current) ∧
    ∀ reference current : List ℕ,
      psi Real.log reference current =
          psiArrays (reference.map Nat.cast) (current.map Nat.cast) ∧
        Drift.psi Real.log reference current =
          psiArrays (reference.map Nat.cast) (current.map Nat.cast) := by
  refine ⟨?_, ?_⟩
  · intro reference current hlength hreference hcurrent
    exact symmetricDivergence hlength hreference hcurrent
  · intro reference current
    exact ⟨rfl, rfl⟩

/-- Counts of 1 and 3 against counts of 2 and 6 have the index 0. -/
theorem psi_symmetricDivergence_doubled : psi Real.log [1, 3] [2, 6] = 0 := by
  obtain ⟨hdivergence, hcounts⟩ := psi_symmetricDivergence
  have hreference : IsHistogram [1, 3] := ⟨by simp, by norm_num⟩
  have hcurrent : IsHistogram [2, 6] := ⟨by simp, by norm_num⟩
  have hindex : psi Real.log [1, 3] [2, 6] = psiArrays [1, 3] [2, 6] := by
    simpa using (hcounts [1, 3] [2, 6]).1
  have hzero := (hdivergence [1, 3] [2, 6] rfl hreference hcurrent).zero_iff
  exact hindex.trans (hzero.mpr (by norm_num [normalized]))

end VeriPay.ModelMonitor
