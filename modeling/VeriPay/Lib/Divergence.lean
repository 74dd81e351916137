import Mathlib.Algebra.BigOperators.Ring.List
import Mathlib.Algebra.Order.Field.Basic
import Mathlib.Tactic.FieldSimp
import Mathlib.Tactic.Linarith
import VeriPay.Lib.Histogram

/-!
The divergence behind the stability index: of each pair of shares, their difference times
the logarithm of their quotient. Of a logarithm only its order and its value at an inverse
are used.
-/

namespace VeriPay.Lib

variable {F : Type*} [Field F] [LinearOrder F] [IsStrictOrderedRing F]

structure IsLogarithm (log : F → F) : Prop where
  inv : ∀ x, 0 < x → log x⁻¹ = -log x
  strictMono : ∀ x y, 0 < x → x < y → log x < log y

/-- The part of one pair of shares. -/
def divergenceTerm (log : F → F) (p q : F) : F := (q - p) * log (q / p)

def divergence (log : F → F) (reference current : List F) : F :=
  (List.zipWith (divergenceTerm log) reference current).sum

/-- The counts as shares of their sum. -/
def normalized (counts : List F) : List F := counts.map fun count => count / counts.sum

/-- The shares raised by `epsilon`. -/
def smoothed (epsilon : F) (counts : List F) : List F :=
  counts.map fun count => count / counts.sum + epsilon

section Terms

variable {log : F → F} (hlog : IsLogarithm log) {p q : F}

include hlog

theorem IsLogarithm.one : log 1 = 0 := by
  have h := hlog.inv 1 one_pos
  rw [inv_one] at h
  linarith

theorem divergenceTerm_pos_of_lt (hp : 0 < p) (h : p < q) : 0 < divergenceTerm log p q := by
  have hquotient : 1 < q / p := (one_lt_div hp).mpr h
  have hpositive := hlog.strictMono 1 (q / p) one_pos hquotient
  rw [hlog.one] at hpositive
  exact mul_pos (sub_pos.mpr h) hpositive

theorem divergenceTerm_comm (hp : 0 < p) (hq : 0 < q) :
    divergenceTerm log p q = divergenceTerm log q p := by
  have hinv := hlog.inv (q / p) (div_pos hq hp)
  rw [inv_div] at hinv
  rw [divergenceTerm, divergenceTerm, hinv]
  ring

theorem divergenceTerm_nonneg (hp : 0 < p) (hq : 0 < q) : 0 ≤ divergenceTerm log p q := by
  rcases lt_trichotomy p q with h | h | h
  · exact (divergenceTerm_pos_of_lt hlog hp h).le
  · rw [h, divergenceTerm, sub_self, zero_mul]
  · rw [divergenceTerm_comm hlog hp hq]
    exact (divergenceTerm_pos_of_lt hlog hq h).le

/-- Two shares diverge unless they are the same. -/
theorem divergenceTerm_eq_zero_iff (hp : 0 < p) (hq : 0 < q) :
    divergenceTerm log p q = 0 ↔ p = q := by
  constructor
  · intro hzero
    rcases lt_trichotomy p q with h | h | h
    · exact absurd hzero (divergenceTerm_pos_of_lt hlog hp h).ne'
    · exact h
    · rw [divergenceTerm_comm hlog hp hq] at hzero
      exact absurd hzero (divergenceTerm_pos_of_lt hlog hq h).ne'
  · rintro rfl
    rw [divergenceTerm, sub_self, zero_mul]

end Terms

section Lists

omit [LinearOrder F] [IsStrictOrderedRing F] in
theorem divergence_cons (log : F → F) (p q : F) (reference current : List F) :
    divergence log (p :: reference) (q :: current) =
      divergenceTerm log p q + divergence log reference current := rfl

variable {log : F → F} (hlog : IsLogarithm log) {reference current : List F}

include hlog

theorem divergence_nonneg (hreference : ∀ p ∈ reference, 0 < p)
    (hcurrent : ∀ q ∈ current, 0 < q) : 0 ≤ divergence log reference current := by
  induction reference generalizing current with
  | nil => exact le_rfl
  | cons p reference ih =>
    cases current with
    | nil => exact le_rfl
    | cons q current =>
      obtain ⟨hp, hreference⟩ := List.forall_mem_cons.mp hreference
      obtain ⟨hq, hcurrent⟩ := List.forall_mem_cons.mp hcurrent
      rw [divergence_cons]
      exact add_nonneg (divergenceTerm_nonneg hlog hp hq) (ih hreference hcurrent)

theorem divergence_comm (hreference : ∀ p ∈ reference, 0 < p)
    (hcurrent : ∀ q ∈ current, 0 < q) :
    divergence log reference current = divergence log current reference := by
  induction reference generalizing current with
  | nil => cases current <;> rfl
  | cons p reference ih =>
    cases current with
    | nil => rfl
    | cons q current =>
      obtain ⟨hp, hreference⟩ := List.forall_mem_cons.mp hreference
      obtain ⟨hq, hcurrent⟩ := List.forall_mem_cons.mp hcurrent
      rw [divergence_cons, divergence_cons, divergenceTerm_comm hlog hp hq,
        ih hreference hcurrent]

/-- A sum of parts that are not negative vanishes only with every part. -/
theorem divergence_eq_zero_iff (hlength : reference.length = current.length)
    (hreference : ∀ p ∈ reference, 0 < p) (hcurrent : ∀ q ∈ current, 0 < q) :
    divergence log reference current = 0 ↔ reference = current := by
  induction reference generalizing current with
  | nil =>
    rw [List.eq_nil_of_length_eq_zero hlength.symm]
    exact iff_of_true rfl rfl
  | cons p reference ih =>
    cases current with
    | nil => cases hlength
    | cons q current =>
      obtain ⟨hp, hreference⟩ := List.forall_mem_cons.mp hreference
      obtain ⟨hq, hcurrent⟩ := List.forall_mem_cons.mp hcurrent
      have hterm := divergenceTerm_nonneg hlog hp hq
      have hrest := divergence_nonneg hlog hreference hcurrent
      rw [divergence_cons, add_eq_zero_iff_of_nonneg hterm hrest,
        divergenceTerm_eq_zero_iff hlog hp hq,
        ih (Nat.succ.inj hlength) hreference hcurrent, List.cons.injEq]

end Lists

section Shares

variable {epsilon : F} {counts reference current : List F}

theorem smoothed_pos (hepsilon : 0 < epsilon) (hcounts : ∀ count ∈ counts, 0 ≤ count) :
    ∀ share ∈ smoothed epsilon counts, 0 < share := by
  intro share hshare
  obtain ⟨count, hcount, rfl⟩ := List.mem_map.mp hshare
  exact add_pos_of_nonneg_of_pos
    (div_nonneg (hcounts count hcount) (List.sum_nonneg hcounts)) hepsilon

omit [LinearOrder F] [IsStrictOrderedRing F] in
theorem smoothed_eq_iff :
    smoothed epsilon reference = smoothed epsilon current ↔
      normalized reference = normalized current := by
  have hraised : ∀ counts : List F,
      smoothed epsilon counts = (normalized counts).map (· + epsilon) := by
    intro counts
    rw [normalized, List.map_map]
    rfl
  rw [hraised, hraised]
  exact (List.map_injective_iff.mpr (add_left_injective epsilon)).eq_iff

omit [LinearOrder F] [IsStrictOrderedRing F] in
/-- Counts on another scale have the same shares. -/
theorem smoothed_scaled (epsilon : F) (counts : List F) {scale : F} (hscale : scale ≠ 0) :
    smoothed epsilon (counts.map (scale * ·)) = smoothed epsilon counts := by
  rw [smoothed, List.sum_map_mul_left, List.map_id', List.map_map]
  refine List.map_congr_left ?_
  intro count _
  rw [Function.comp_apply, mul_div_mul_left _ _ hscale]

theorem sum_scaled_pos {scale : F} (hscale : 0 < scale) (hcounts : 0 < counts.sum) :
    0 < (counts.map (scale * ·)).sum := by
  rw [List.sum_map_mul_left, List.map_id']
  exact mul_pos hscale hcounts

omit [IsStrictOrderedRing F] in
/-- Of positive totals the index is the divergence of the smoothed shares. -/
theorem stabilityIndex_of_pos (log : F → F) (hreference : 0 < reference.sum)
    (hcurrent : 0 < current.sum) :
    stabilityIndex epsilon log reference current =
      (divergence log (smoothed epsilon reference) (smoothed epsilon current) : F) := by
  rw [stabilityIndex, if_neg (not_or.mpr ⟨not_le.mpr hreference, not_le.mpr hcurrent⟩)]
  rfl

theorem stabilityIndex_scaled (epsilon : F) (log : F → F) (reference current : List F) {scale : F}
    (hscale : 0 < scale) :
    stabilityIndex epsilon log reference (current.map (scale * ·)) =
      stabilityIndex epsilon log reference current := by
  have hsum : (current.map (scale * ·)).sum ≤ 0 ↔ current.sum ≤ 0 := by
    rw [List.sum_map_mul_left, List.map_id', ← not_lt, mul_pos_iff_of_pos_left hscale, not_lt]
  by_cases hempty : reference.sum ≤ 0 ∨ current.sum ≤ 0
  · rw [stabilityIndex, stabilityIndex, if_pos hempty, if_pos (hempty.imp_right hsum.mpr)]
  · rw [not_or, not_le, not_le] at hempty
    rw [stabilityIndex_of_pos log hempty.1 (sum_scaled_pos hscale hempty.2),
      stabilityIndex_of_pos log hempty.1 hempty.2, smoothed_scaled _ _ hscale.ne']

end Shares

end VeriPay.Lib
