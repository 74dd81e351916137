import VeriPay.Lib.Edges
import VeriPay.ModelMonitor.Divergence

/-!
Values added to a window. They leave the shares of its bins as they are where they lie beyond the
edges, or where they join the one bin that holds all the others; anywhere else some reference
tells the two windows apart.
-/

namespace VeriPay.ModelMonitor

open Lib Drift

variable {V : Type} [LinearOrder V]

/-- The value lies beyond the edges. -/
def Beyond (edges : List V) (value : V) : Prop :=
  (∀ edge ∈ edges, value < edge) ∨ ∀ edge ∈ edges, edge < value

/-- Some values are counted, and all that are, in the bin of this one. -/
def JoinsAll (edges : List V) (values : List (Option V)) (value : V) : Prop :=
  ∃ n, 0 < n ∧ histogram edges values = (histogram edges [some value]).map (n * ·)

/-- Adding the value so many times changes no share. -/
def LeavesShares (edges : List V) (values : List (Option V)) (value : V) (count : ℕ) : Prop :=
  count = 0 ∨ Beyond edges value ∨ JoinsAll edges values value

section Unchanged

variable {F : Type} [Field F] [LinearOrder F]

theorem psi_added_beyond (log : F → F) (counts : List ℕ) {edges : List V} {value : V}
    (hbeyond : Beyond edges value) (values : List (Option V)) (count : ℕ) :
    psi log counts (histogram edges (values ++ List.replicate count (some value))) =
      psi log counts (histogram edges values) := by
  rw [histogram_append_outside]
  intro _ hvalue
  cases hvalue
  exact hbeyond

variable [IsStrictOrderedRing F]

/-- The index takes no notice of the scale of the counts. -/
theorem psi_scaled (log : F → F) (reference current : List ℕ) {scale : ℕ} (hscale : 0 < scale) :
    psi log reference (current.map (scale * ·)) = psi log reference current := by
  have hcast : (current.map (scale * ·)).map Nat.cast =
      (current.map Nat.cast).map ((scale : F) * ·) := by
    rw [List.map_map, List.map_map]
    refine List.map_congr_left ?_
    intro count _
    exact Nat.cast_mul scale count
  rw [psi, psi, hcast]
  exact stabilityIndex_scaled _ log _ _ (Nat.cast_pos.mpr hscale)

theorem psi_added_joining (log : F → F) (counts : List ℕ) {edges : List V} {value : V}
    {values : List (Option V)} (hjoins : JoinsAll edges values value) (count : ℕ) :
    psi log counts (histogram edges (values ++ List.replicate count (some value))) =
      psi log counts (histogram edges values) := by
  obtain ⟨n, hn, hvalues⟩ := hjoins
  have hadded : histogram edges (values ++ List.replicate count (some value)) =
      (histogram edges [some value]).map ((n + count) * ·) := by
    rw [histogram_eq_map, histogram_eq_map, List.map_map] at hvalues
    rw [histogram_append_replicate, histogram_eq_map, List.map_map]
    refine List.map_congr_left ?_
    intro bin hbin
    have hcount : values.countP bin = n * [some value].countP bin :=
      List.map_inj_left.mp hvalues bin hbin
    rw [hcount, ← Nat.add_mul]
    rfl
  rw [hadded, hvalues, psi_scaled log _ _ hn, psi_scaled log _ _ (Nat.add_pos_left hn count)]

theorem LeavesShares.psi_eq {edges : List V} {values : List (Option V)} {value : V} {count : ℕ}
    (h : LeavesShares edges values value count) (log : F → F) (counts : List ℕ) :
    psi log counts (histogram edges (values ++ List.replicate count (some value))) =
      psi log counts (histogram edges values) := by
  rcases h with rfl | hbeyond | hjoins
  · rw [List.replicate_zero, List.append_nil]
  · exact psi_added_beyond log counts hbeyond values count
  · exact psi_added_joining log counts hjoins count

end Unchanged

/-- What is counted is what lies within the outer edges. -/
theorem exists_outer_edges (reference : ReferenceFeature V) :
    ∃ low last, (∀ edge ∈ reference.edges, low ≤ edge ∧ edge ≤ last) ∧ ∀ values,
      (histogram reference.edges values).sum = values.countP (inRange low last) := by
  have hsorted := reference.sorted
  have hbins := reference.bins
  cases hedges : reference.edges with
  | nil =>
    rw [hedges] at hbins
    cases hbins
  | cons low rest =>
    rw [hedges] at hbins hsorted
    cases hlast : rest.getLast? with
    | none =>
      rw [List.getLast?_eq_none_iff.mp hlast] at hbins
      exact absurd (List.eq_nil_of_length_eq_zero (Nat.succ.inj hbins).symm) reference.nonempty
    | some last =>
      refine ⟨low, last, ?_, fun values => sum_histogram hsorted hlast values⟩
      have hlow : ∀ edge ∈ rest, low ≤ edge := (List.pairwise_cons.mp hsorted).1
      have hhigh : ∀ edge ∈ low :: rest, edge ≤ last := by
        obtain ⟨front, hfront⟩ := List.getLast?_eq_some_iff.mp hlast
        rw [hfront, ← List.cons_append] at hsorted ⊢
        intro edge hedge
        rcases List.mem_append.mp hedge with hfirst | hend
        · exact (List.pairwise_append.mp hsorted).2.2 edge hfirst last List.mem_cons_self
        · exact (List.mem_singleton.mp hend).le
      intro edge hedge
      refine ⟨?_, hhigh edge hedge⟩
      rcases List.mem_cons.mp hedge with rfl | hrest
      · exact le_rfl
      · exact hlow edge hrest

/-- A value lies beyond the edges, or is counted once. -/
theorem beyond_or_counted_once (reference : ReferenceFeature V) (value : V) :
    Beyond reference.edges value ∨ (histogram reference.edges [some value]).sum = 1 := by
  obtain ⟨low, last, hedges, hsum⟩ := exists_outer_edges reference
  rw [hsum, List.countP_singleton]
  by_cases hwithin : inRange low last (some value) = true
  · exact Or.inr (if_pos hwithin)
  · rw [inRange, Bool.and_eq_true, decide_eq_true_eq, decide_eq_true_eq, not_and_or, not_le,
      not_le] at hwithin
    left
    rcases hwithin with hbelow | habove
    · exact Or.inl fun edge hedge => hbelow.trans_le (hedges edge hedge).1
    · exact Or.inr fun edge hedge => (hedges edge hedge).2.trans_lt habove

/-- Counts of bins, with something counted. -/
theorem isHistogram_cast {counts : List ℕ} (hpositive : 0 < counts.sum) :
    IsHistogram (counts.map Nat.cast) where
  nonneg := by
    intro count hcount
    obtain ⟨n, -, rfl⟩ := List.mem_map.mp hcount
    exact Nat.cast_nonneg n
  total_pos := by
    rw [← Nat.cast_list_sum]
    exact Nat.cast_pos.mpr hpositive

theorem psi_eq_top_iff {F : Type} [Field F] [LinearOrder F] [IsStrictOrderedRing F] (log : F → F)
    {reference current : List ℕ} (hreference : 0 < reference.sum) :
    psi log reference current = ⊤ ↔ current.sum = 0 := by
  have hpositive : ¬ (reference.map (Nat.cast : ℕ → F)).sum ≤ 0 := by
    rw [← Nat.cast_list_sum, not_le]
    exact Nat.cast_pos.mpr hreference
  have hcurrent : (current.map (Nat.cast : ℕ → F)).sum ≤ 0 ↔ current.sum = 0 := by
    rw [← Nat.cast_list_sum, ← Nat.le_zero, ← Nat.cast_zero, Nat.cast_le]
  rw [psi, stabilityIndex, ← hcurrent]
  split_ifs with hempty
  · exact iff_of_true rfl (hempty.resolve_left hpositive)
  · exact iff_of_false (WithTop.coe_ne_top) fun h => hempty (Or.inr h)

/-- Where adding a value counted once leaves the shares, the others are in its bin too. -/
theorem joinsAll_of_normalized_eq {edges : List V} {values : List (Option V)} {value : V}
    {count : ℕ} (hcount : 0 < count) (hvalues : 0 < (histogram edges values).sum)
    (hsum : (histogram edges (values ++ List.replicate count (some value))).sum =
      (histogram edges values).sum + count)
    (hshares : normalized ((histogram edges values).map (Nat.cast : ℕ → ℝ)) =
      normalized ((histogram edges (values ++ List.replicate count (some value))).map Nat.cast)) :
    JoinsAll edges values value := by
  refine ⟨_, hvalues, ?_⟩
  have htotal : (0 : ℝ) < (histogram edges values).sum := Nat.cast_pos.mpr hvalues
  have hadded : (0 : ℝ) < count := Nat.cast_pos.mpr hcount
  rw [normalized, normalized, ← Nat.cast_list_sum, ← Nat.cast_list_sum, hsum,
    histogram_append_replicate] at hshares
  generalize htotals : (histogram edges values).sum = total at hshares htotal ⊢
  rw [histogram_eq_map, List.map_map, List.map_map, List.map_map, List.map_map] at hshares
  rw [histogram_eq_map, histogram_eq_map, List.map_map]
  refine List.map_congr_left ?_
  intro bin hbin
  have hshare := List.map_inj_left.mp hshares bin hbin
  simp only [Function.comp_apply] at hshare
  push_cast at hshare
  rw [div_eq_div_iff htotal.ne' (by linarith)] at hshare
  have hcounts : ((values.countP bin : ℕ) : ℝ) = total * [some value].countP bin := by
    have hproduct : (count : ℝ) * values.countP bin =
        count * (total * [some value].countP bin) := by
      linarith
    exact mul_left_cancel₀ hadded.ne' hproduct
  exact_mod_cast hcounts

/-- Values that leave the index as it is against every reference leave the shares. -/
theorem leavesShares_of_psi_eq (reference : ReferenceFeature V) {values : List (Option V)}
    {value : V} {count : ℕ}
    (h : ∀ counts : List ℕ, counts.length = reference.counts.length →
      psi Real.log counts
          (histogram reference.edges (values ++ List.replicate count (some value))) =
        psi Real.log counts (histogram reference.edges values)) :
    LeavesShares reference.edges values value count := by
  rcases Nat.eq_zero_or_pos count with hnone | hcount
  · exact Or.inl hnone
  right
  rcases beyond_or_counted_once reference value with hbeyond | honce
  · exact Or.inl hbeyond
  right
  have hlength : ∀ cells : List (Option V),
      (histogram reference.edges cells).length = reference.counts.length := by
    intro cells
    rw [length_histogram, reference.bins, Nat.add_sub_cancel]
  have hsum : (histogram reference.edges (values ++ List.replicate count (some value))).sum =
      (histogram reference.edges values).sum + count := by
    rw [histogram_append_replicate, List.sum_map_add, List.sum_map_mul_left, ← histogram_eq_map,
      ← histogram_eq_map, honce, Nat.mul_one]
  rcases Nat.eq_zero_or_pos (histogram reference.edges values).sum with hempty | hvalues
  · -- Only nothing has an infinite index against counts of one.
    exfalso
    have hreference : 0 < (List.replicate reference.counts.length 1).sum := by
      rw [List.sum_replicate, smul_eq_mul, mul_one]
      exact List.length_pos_iff.mpr reference.nonempty
    have hsame := h (List.replicate reference.counts.length 1) List.length_replicate
    rw [(psi_eq_top_iff Real.log hreference).mpr hempty, psi_eq_top_iff Real.log hreference]
      at hsame
    omega
  · -- Against itself a histogram has the index 0.
    have hself := isHistogram_cast hvalues
    have hadded : IsHistogram ((histogram reference.edges
        (values ++ List.replicate count (some value))).map Nat.cast) :=
      isHistogram_cast (by omega)
    have hsame := h (histogram reference.edges values) (hlength values)
    have hzero : psi Real.log (histogram reference.edges values)
        (histogram reference.edges values) = 0 :=
      (symmetricDivergence rfl hself hself).zero_iff.mpr rfl
    rw [hzero] at hsame
    refine joinsAll_of_normalized_eq hcount hvalues hsum ?_
    refine (symmetricDivergence ?_ hself hadded).zero_iff.mp hsame
    rw [List.length_map, List.length_map, hlength, hlength]

end VeriPay.ModelMonitor
