import Mathlib.Data.List.Perm.Subperm
import VeriPay.Drift.Profile

/-!
When a reference profile resolves its training column: every bin is populated, and there
are two of them at least if the column has two values. Both go by the ranks that the items
have in the sorted column.
-/

namespace VeriPay.Drift

open Lib

section Ranks

variable {F : Type} [Field F] [LinearOrder F]

/-- The rank of the `k`th quantile is past the last place of a value in the sorted column. -/
def EndsBefore (bins : ℕ) (values : List F) (k : ℕ) (v : F) : Prop :=
  values.countP (fun a => a ≤ v) * bins < (values.length - 1) * k + bins

/-- The rank of the `k`th quantile is ahead of the first place of a value. -/
def StartsAfter (bins : ℕ) (values : List F) (k : ℕ) (v : F) : Prop :=
  (values.length - 1) * k < values.countP (fun a => a < v) * bins

/-- Between the ranks of two quantiles in a row a value ends, or one value holds both of
them, or no value starts after the second. -/
def EndsBetween (bins : ℕ) (values : List F) : Prop :=
  ∀ k < bins,
    (∃ v ∈ values, ¬ EndsBefore bins values k v ∧ EndsBefore bins values (k + 1) v) ∨
      (∃ v ∈ values, ¬ StartsAfter bins values k v ∧ ¬ EndsBefore bins values (k + 1) v) ∨
      ∀ v ∈ values, ¬ StartsAfter bins values (k + 1) v

/-- A value ends before the rank of some quantile and another starts after it. -/
def Separates (bins : ℕ) (values : List F) : Prop :=
  ∃ k ≤ bins, (∃ v ∈ values, EndsBefore bins values k v) ∧
    ∃ w ∈ values, StartsAfter bins values k w

section Decide

variable (bins : ℕ) (values : List F)

instance (k : ℕ) (v : F) : Decidable (EndsBefore bins values k v) :=
  inferInstanceAs (Decidable (_ < _))

instance (k : ℕ) (v : F) : Decidable (StartsAfter bins values k v) :=
  inferInstanceAs (Decidable (_ < _))

instance : Decidable (EndsBetween bins values) :=
  inferInstanceAs (Decidable (∀ k < bins, _))

instance : Decidable (Separates bins values) :=
  inferInstanceAs (Decidable (∃ k ≤ bins, _))

end Decide

variable {bins : ℕ} {values : List F}

omit [Field F] in
theorem sorted_mergeSort (values : List F) : (values.mergeSort (· ≤ ·)).Pairwise (· ≤ ·) :=
  pairwise_mergeSort_key values

omit [Field F] in
theorem rank_le (values : List F) {k : ℕ} (hk : k ≤ bins) :
    (values.length - 1) * k ≤ ((values.mergeSort (· ≤ ·)).length - 1) * bins := by
  rw [List.length_mergeSort]
  exact Nat.mul_le_mul_left _ hk

variable [IsStrictOrderedRing F] (hbins : 1 ≤ bins)

include hbins

theorem quantile_mono (i j : ℕ) (hij : i ≤ j) (hj : j ≤ bins) :
    quantile bins values i ≤ quantile bins values j :=
  interpolate_mono (sorted_mergeSort values) hbins (Nat.mul_le_mul_left _ hij) (rank_le values hj)

theorem lt_quantile_iff {k : ℕ} (hk : k ≤ bins) {v : F} (hv : v ∈ values) :
    v < quantile bins values k ↔ EndsBefore bins values k v := by
  have hle := interpolate_le_iff (sorted_mergeSort values) hbins (rank_le values hk)
    (List.mem_mergeSort.mpr hv)
  rw [(List.mergeSort_perm values _).countP_eq] at hle
  rw [← not_le, quantile, hle, not_le]
  rfl

theorem quantile_lt_iff {k : ℕ} (hk : k ≤ bins) {v : F} (hv : v ∈ values) :
    quantile bins values k < v ↔ StartsAfter bins values k v := by
  have hle := le_interpolate_iff (sorted_mergeSort values) hbins (rank_le values hk)
    (List.mem_mergeSort.mpr hv)
  rw [(List.mergeSort_perm values _).countP_eq] at hle
  rw [← not_le, quantile, hle, not_le]
  rfl

/-- The first quantile is above nothing of the column. -/
theorem quantile_zero_le {v : F} (hv : v ∈ values) : quantile bins values 0 ≤ v := by
  have hpos : 0 < values.countP (fun a => a ≤ v) :=
    List.countP_pos_iff.mpr ⟨v, hv, decide_eq_true le_rfl⟩
  have hle : 1 * bins ≤ values.countP (fun a => a ≤ v) * bins := Nat.mul_le_mul_right bins hpos
  rw [← not_lt, lt_quantile_iff hbins (Nat.zero_le bins) hv, EndsBefore]
  omega

/-- The last quantile is below nothing of the column. -/
theorem le_quantile_bins {v : F} (hv : v ∈ values) : v ≤ quantile bins values bins := by
  have hless : values.countP (fun a => a < v) < values.length := by
    refine lt_of_le_of_ne List.countP_le_length ?_
    intro hall
    have h := List.countP_eq_length.mp hall v hv
    exact lt_irrefl v (of_decide_eq_true h)
  have hle : values.countP (fun a => a < v) * bins ≤ (values.length - 1) * bins :=
    Nat.mul_le_mul_right bins (by omega)
  rw [← not_lt, quantile_lt_iff hbins le_rfl hv, StartsAfter]
  omega

/-- No quantile is below all of the column. -/
theorem le_quantile {v : F} (hv : v ∈ values) (hleast : ∀ w ∈ values, v ≤ w) {k : ℕ}
    (hk : k ≤ bins) : v ≤ quantile bins values k := by
  have hnone : values.countP (fun a => a < v) = 0 := by
    rw [List.countP_eq_zero]
    intro w hw hless
    exact absurd (of_decide_eq_true hless) (not_lt.mpr (hleast w hw))
  rw [← not_lt, quantile_lt_iff hbins hk hv, StartsAfter, hnone]
  omega

/-- No quantile is above all of it. -/
theorem quantile_le {v : F} (hv : v ∈ values) (hgreatest : ∀ w ∈ values, w ≤ v) {k : ℕ}
    (hk : k ≤ bins) : quantile bins values k ≤ v := by
  have hall : values.countP (fun a => a ≤ v) = values.length :=
    List.countP_eq_length.mpr fun w hw => decide_eq_true (hgreatest w hw)
  obtain ⟨n, hn⟩ := Nat.exists_eq_succ_of_ne_zero (List.length_pos_of_mem hv).ne'
  have hle : n * k ≤ n * bins := Nat.mul_le_mul_left n hk
  rw [← not_lt, lt_quantile_iff hbins hk hv, EndsBefore, hall, hn, Nat.succ_eq_add_one,
    Nat.add_sub_cancel, Nat.add_mul]
  omega

/-- A quantile that the next one repeats is an item of the column. -/
theorem quantile_mem_of_eq_succ (hlong : 2 ≤ values.length) {k : ℕ} (hk : k < bins)
    (heq : quantile bins values k = quantile bins values (k + 1)) :
    quantile bins values k ∈ values := by
  have hne : values.mergeSort (· ≤ ·) ≠ [] := by
    refine List.ne_nil_of_length_pos ?_
    rw [List.length_mergeSort]
    omega
  have hless : (values.length - 1) * k < (values.length - 1) * (k + 1) :=
    Nat.mul_lt_mul_of_pos_left (Nat.lt_succ_self k) (by omega)
  exact List.mem_mergeSort.mp (interpolate_mem_of_eq (sorted_mergeSort values) hbins hne hless
    (rank_le values hk) heq)

end Ranks

section Edges

variable {F : Type} [Field F] [LinearOrder F] [IsStrictOrderedRing F] {bins : ℕ}
  {values : List F}

section Reaches

variable (hbins : 1 ≤ bins)

include hbins

/-- The edges reach around the column. -/
theorem exists_edges_around (hne : values ≠ []) :
    ∃ low ∈ profileEdges bins values, ∃ high ∈ profileEdges bins values,
      ∀ v ∈ values, low ≤ v ∧ v ≤ high := by
  rcases Nat.lt_or_ge (quantileEdges bins values).length 2 with hshort | hlong
  · obtain ⟨low, -, high, -, hmin, hmax, hall⟩ := exists_min_max hne
    rw [profileEdges_of_short hshort, hmin, hmax]
    refine ⟨low, List.mem_cons_self, high + 1, by simp, ?_⟩
    intro v hv
    obtain ⟨hleast, hgreatest⟩ := hall v hv
    exact ⟨hleast, hgreatest.trans (lt_add_one high).le⟩
  · rw [profileEdges_of_long hlong]
    exact ⟨_, quantile_mem_edges (Nat.zero_le bins), _, quantile_mem_edges le_rfl,
      fun v hv => ⟨quantile_zero_le hbins hv, le_quantile_bins hbins hv⟩⟩

/-- One quantile alone is that of a constant column. -/
theorem eq_of_short (hshort : (quantileEdges bins values).length < 2) {v w : F}
    (hv : v ∈ values) (hw : w ∈ values) : v = w := by
  have hends := eq_of_length_lt_two hshort (quantile_mem_edges (Nat.zero_le bins))
    (quantile_mem_edges le_rfl)
  have hle := (le_quantile_bins hbins hv).trans (hends.ge.trans (quantile_zero_le hbins hw))
  have hge := (le_quantile_bins hbins hw).trans (hends.ge.trans (quantile_zero_le hbins hv))
  exact le_antisymm hle hge

section Populated

variable (hlong : 2 ≤ (quantileEdges bins values).length)

include hlong in
/-- If every bin has an item of the column, the ranks say so. -/
theorem endsBetween_of_populated
    (hpopulated : ∀ count ∈ histogram (quantileEdges bins values) (values.map some), 0 < count) :
    EndsBetween bins values := by
  intro k hk
  have hle : quantile bins values k ≤ quantile bins values (k + 1) :=
    quantile_mono hbins k (k + 1) (Nat.le_succ k) hk
  rcases hle.lt_or_eq with hless | heq
  · have hsorted := quantileEdges_pairwise bins values
    obtain ⟨before, after, hedges⟩ := neighbours_of_step
      (quantile_mono hbins) (fun _ => mem_quantileEdges) hsorted hk hless
    rw [hedges] at hsorted
    by_cases hlast : after = []
    · -- The last bin ends with the greatest of the column.
      refine Or.inr (Or.inr ?_)
      intro w hw
      have hend : quantile bins values bins ∈ quantileEdges bins values :=
        quantile_mem_edges le_rfl
      rw [hedges] at hend
      rw [← quantile_lt_iff hbins hk hw, not_lt]
      exact (le_quantile_bins hbins hw).trans ((last_iff_greatest hsorted).mp hlast _ hend)
    · obtain ⟨cell, hcell, hbin⟩ := histogram_pos_iff.mp hpopulated before _ _ after hedges
      obtain ⟨v, hv, rfl⟩ := List.mem_map.mp hcell
      refine Or.inl ⟨v, hv, ?_⟩
      rw [← lt_quantile_iff hbins hk.le hv, ← lt_quantile_iff hbins hk hv, not_lt]
      simpa [inBin, hlast] using hbin
  · have hv := quantile_mem_of_eq_succ hbins (two_le_length_of_long hlong) hk heq
    refine Or.inr (Or.inl ⟨_, hv, ?_⟩)
    rw [← quantile_lt_iff hbins hk.le hv, ← lt_quantile_iff hbins hk hv]
    exact ⟨lt_irrefl _, not_lt.mpr heq.ge⟩

/-- And where the ranks say so, every bin has an item. -/
theorem populated_of_endsBetween (hranks : EndsBetween bins values) (hne : values ≠ []) :
    ∀ count ∈ histogram (quantileEdges bins values) (values.map some), 0 < count := by
  rw [histogram_pos_iff]
  intro before low high after hedges
  have hsorted := quantileEdges_pairwise bins values
  obtain ⟨k, hk, rfl, rfl⟩ := step_of_neighbours
    (quantile_mono hbins) (fun _ => mem_quantileEdges) hsorted hedges
  rw [hedges] at hsorted
  have hless := List.rel_of_pairwise_cons (List.pairwise_append.mp hsorted).2.1
    List.mem_cons_self
  rcases hranks k hk with ⟨v, hv, hge, hlt⟩ | ⟨v, hv, hle, hge⟩ | hlast
  · rw [← lt_quantile_iff hbins hk.le hv, not_lt] at hge
    rw [← lt_quantile_iff hbins hk hv] at hlt
    refine ⟨some v, List.mem_map_of_mem hv, ?_⟩
    cases after <;> simp [inBin, hge, hlt, hlt.le]
  · rw [← quantile_lt_iff hbins hk.le hv, not_lt] at hle
    rw [← lt_quantile_iff hbins hk hv, not_lt] at hge
    exact absurd hless (not_lt.mpr (hge.trans hle))
  · -- The greatest of the column is in the last bin, and this is the last.
    obtain ⟨_, -, greatest, hgreatest, -, -, hall⟩ := exists_min_max hne
    have htop : greatest ≤ quantile bins values (k + 1) := by
      rw [← not_lt, quantile_lt_iff hbins hk hgreatest]
      exact hlast greatest hgreatest
    have hend : after = [] := by
      rw [last_iff_greatest hsorted]
      intro edge hedge
      rw [← hedges] at hedge
      obtain ⟨i, hi, rfl⟩ := mem_quantileEdges.mp hedge
      exact (quantile_le hbins hgreatest (fun w hw => (hall w hw).2) hi).trans htop
    have hle := quantile_le hbins hgreatest (fun w hw => (hall w hw).2) hk
    have hge := hless.le.trans hle
    refine ⟨some greatest, List.mem_map_of_mem hgreatest, ?_⟩
    simp [inBin, hend, hge, htop]

/-- Some quantile is between others exactly when an item ends before its rank and another
starts after it. -/
theorem three_le_length_iff (hne : values ≠ []) :
    3 ≤ (quantileEdges bins values).length ↔ Separates bins values := by
  constructor
  · intro hlength
    have hsorted := quantileEdges_pairwise bins values
    obtain ⟨least, hleast, greatest, hgreatest, -, -, hall⟩ := exists_min_max hne
    have hterm : ∀ edge ∈ quantileEdges bins values, ∃ k ≤ bins, quantile bins values k = edge :=
      fun edge hedge => mem_quantileEdges.mp hedge
    match hedges : quantileEdges bins values, hlength with
    | first :: second :: third :: rest, _ =>
      rw [hedges] at hsorted hterm
      obtain ⟨hfirst, hlater⟩ := List.pairwise_cons.mp hsorted
      have hbelow := hfirst second (by simp)
      have habove := List.rel_of_pairwise_cons hlater List.mem_cons_self
      obtain ⟨i, hi, rfl⟩ := hterm first (by simp)
      obtain ⟨k, hk, rfl⟩ := hterm second (by simp)
      obtain ⟨j, hj, rfl⟩ := hterm third (by simp)
      refine ⟨k, hk, ⟨least, hleast, ?_⟩, greatest, hgreatest, ?_⟩
      · rw [← lt_quantile_iff hbins hk hleast]
        exact (le_quantile hbins hleast (fun w hw => (hall w hw).1) hi).trans_lt hbelow
      · rw [← quantile_lt_iff hbins hk hgreatest]
        exact habove.trans_le (quantile_le hbins hgreatest (fun w hw => (hall w hw).2) hj)
  · rintro ⟨k, hk, ⟨v, hv, hends⟩, w, hw, hstarts⟩
    rw [← lt_quantile_iff hbins hk hv] at hends
    rw [← quantile_lt_iff hbins hk hw] at hstarts
    have hbelow := (quantile_zero_le hbins hv).trans_lt hends
    have habove := hstarts.trans_le (le_quantile_bins hbins hw)
    have hnodup : [quantile bins values 0, quantile bins values k,
        quantile bins values bins].Nodup := by
      simp [hbelow.ne, habove.ne, (hbelow.trans habove).ne]
    have hsub : [quantile bins values 0, quantile bins values k, quantile bins values bins] ⊆
        quantileEdges bins values := by
      simp [quantile_mem_edges, hk]
    exact (hnodup.subperm hsub).length_le

end Populated

end Reaches

end Edges

section Resolution

variable {F : Type} [Field F] [LinearOrder F] [IsStrictOrderedRing F]

/-- What the profile of a column is to be like. -/
structure Resolves (bins : ℕ) (values : List F) (feature : ReferenceFeature F) : Prop where
  increasing : feature.edges.Pairwise (· < ·)
  total : feature.counts.sum = values.length
  populated : ∀ count ∈ feature.counts, 0 < count
  resolved : 2 ≤ bins → (∃ v ∈ values, ∃ w ∈ values, v ≠ w) → 2 ≤ feature.counts.length

/-- The ranks let the quantiles of the column make such bins. -/
def Resolvable (bins : ℕ) (values : List F) : Prop :=
  EndsBetween bins values ∧
    (2 ≤ bins → (∃ v ∈ values, ∃ w ∈ values, v ≠ w) → Separates bins values)

variable {bins : ℕ} {values : Column F} (hbins : 1 ≤ bins)

include hbins

/-- A constant column fills its one bin. -/
theorem populated_of_short (hshort : (quantileEdges bins values.1).length < 2) :
    (∀ count ∈ (referenceFeature bins values).counts, 0 < count) ∧
      EndsBetween bins values.1 := by
  obtain ⟨low, hlow, high, hhigh, hmin, hmax, hall⟩ := exists_min_max values.2
  constructor
  · have hedges : profileEdges bins values.1 = [low, high + 1] := by
      rw [profileEdges_of_short hshort, hmin, hmax]
      rfl
    show ∀ count ∈ histogram (profileEdges bins values.1) (values.1.map some), 0 < count
    rw [hedges, histogram, List.forall_mem_cons, List.countP_pos_iff]
    refine ⟨⟨some low, List.mem_map_of_mem hlow, ?_⟩, fun count hcount => by cases hcount⟩
    have hle := (hall low hlow).2.trans (lt_add_one high).le
    simp [inBin, hle]
  · intro k hk
    refine Or.inr (Or.inl ⟨low, hlow, ?_⟩)
    rw [← quantile_lt_iff hbins hk.le hlow, ← lt_quantile_iff hbins hk hlow, not_lt, not_lt]
    exact ⟨le_quantile hbins hlow (fun w hw => (hall w hw).1) hk.le,
      quantile_le hbins hlow (fun w hw => (eq_of_short hbins hshort hw hlow).le) hk⟩

theorem sum_referenceFeature : (referenceFeature bins values).counts.sum = values.1.length := by
  obtain ⟨low, hlow, high, hhigh, hall⟩ := exists_edges_around hbins values.2
  exact sum_histogram_eq_length (profileEdges_pairwise bins values.2)
    (two_le_length_profileEdges bins values.1) hlow hhigh hall

omit hbins in
theorem counts_of_long (hlong : 2 ≤ (quantileEdges bins values.1).length) :
    (referenceFeature bins values).counts =
      histogram (quantileEdges bins values.1) (values.1.map some) := by
  rw [← profileEdges_of_long hlong]
  rfl

/-- Every bin is populated exactly when the ranks say so. -/
theorem populated_iff :
    (∀ count ∈ (referenceFeature bins values).counts, 0 < count) ↔ EndsBetween bins values.1 := by
  rcases Nat.lt_or_ge (quantileEdges bins values.1).length 2 with hshort | hlong
  · obtain ⟨hpopulated, hranks⟩ := populated_of_short hbins hshort
    exact iff_of_true hpopulated hranks
  · rw [counts_of_long hlong]
    exact ⟨endsBetween_of_populated hbins hlong,
      fun hranks => populated_of_endsBetween hbins hranks values.2⟩

/-- There are two bins at least exactly when the ranks say so. -/
theorem two_le_length_counts_iff :
    2 ≤ (referenceFeature bins values).counts.length ↔ Separates bins values.1 := by
  rw [← three_le_length_iff hbins values.2]
  rcases Nat.lt_or_ge (quantileEdges bins values.1).length 2 with hshort | hlong
  · have hone : (referenceFeature bins values).counts.length = 1 := by
      show (histogram (profileEdges bins values.1) (values.1.map some)).length = 1
      rw [length_histogram, profileEdges_of_short hshort]
      rfl
    omega
  · rw [counts_of_long hlong, length_histogram]
    omega

/-- The profile of a column resolves it exactly when the ranks let it. -/
theorem resolves_referenceFeature_iff :
    Resolves bins values.1 (referenceFeature bins values) ↔ Resolvable bins values.1 := by
  have hincreasing : (referenceFeature bins values).edges.Pairwise (· < ·) :=
    profileEdges_pairwise bins values.2
  constructor
  · intro h
    exact ⟨(populated_iff hbins).mp h.populated, fun htwo hvalues =>
      (two_le_length_counts_iff hbins).mp (h.resolved htwo hvalues)⟩
  · rintro ⟨hranks, hseparates⟩
    exact ⟨hincreasing, sum_referenceFeature hbins, (populated_iff hbins).mpr hranks,
      fun htwo hvalues => (two_le_length_counts_iff hbins).mpr (hseparates htwo hvalues)⟩

/-- The profile that `compute_reference_profile` gives a column resolves it exactly when the
ranks let it. -/
theorem computeReferenceProfile_resolves_iff {frame : PyDict String (Column F)}
    {featureColumns : List String} {createdAt modelName version : String}
    {profile : TrainedProfile F}
    (h : computeReferenceProfile frame featureColumns createdAt bins modelName version =
      .ok profile)
    {column : String} (hcolumn : column ∈ featureColumns)
    (hvalues : frame.get? column = some values) :
    (∃ feature, profile.features.get? column = some feature ∧
      Resolves bins values.1 feature) ↔ Resolvable bins values.1 := by
  rw [get?_computeReferenceProfile h hcolumn hvalues, ← resolves_referenceFeature_iff hbins]
  constructor
  · rintro ⟨feature, hfeature, hresolves⟩
    cases hfeature
    exact hresolves
  · intro hresolves
    exact ⟨_, rfl, hresolves⟩

end Resolution

section FourValues

def fourValues : Column ℚ := ⟨[0, 1, 2, 3], by simp⟩

theorem columns_single {column : String} {values : Column ℚ} {frame : PyDict String (Column ℚ)}
    (hvalues : frame.get? column = some values) :
    ∀ other ∈ [column], ∃ values, frame.get? other = some values := by
  intro other hother
  rw [List.mem_singleton.mp hother]
  exact ⟨values, hvalues⟩

/-- Two bins split the four values in halves. -/
theorem computeReferenceProfile_fourValues :
    ∃ profile feature,
      computeReferenceProfile (.set ∅ "hour_of_day" fourValues) ["hour_of_day"]
          "2026-01-01T00:00:00+00:00" 2 = .ok profile ∧
        profile.features.get? "hour_of_day" = some feature ∧ Resolves 2 fourValues.1 feature := by
  have hvalues : (PyDict.set ∅ "hour_of_day" fourValues).get? "hour_of_day" = some fourValues :=
    PyDict.get?_set_self _ _ _
  obtain ⟨profile, hprofile⟩ := exists_computeReferenceProfile (columns_single hvalues)
    "2026-01-01T00:00:00+00:00" 2 "supervised" "unknown"
  have hresolvable : Resolvable 2 fourValues.1 :=
    ⟨by decide +kernel, fun _ _ => by decide +kernel⟩
  obtain ⟨feature, hfeature, hresolves⟩ := (computeReferenceProfile_resolves_iff (by decide)
    hprofile List.mem_cons_self hvalues).mpr hresolvable
  exact ⟨profile, feature, hprofile, hfeature, hresolves⟩

end FourValues

section RareFlag

/-- A column with a flag set in one row of twenty. -/
def rareFlag : Column ℚ := ⟨List.replicate 19 0 ++ [1], by simp⟩

/-- It has two values and one bin. -/
theorem rareFlag_unresolved :
    ∃ profile feature,
      computeReferenceProfile (.set ∅ "new_device" rareFlag) ["new_device"]
          "2026-01-01T00:00:00+00:00" = .ok profile ∧
        profile.features.get? "new_device" = some feature ∧
        feature.counts.length < 2 ∧ ¬ Resolves defaultBins rareFlag.1 feature := by
  have hvalues : (PyDict.set ∅ "new_device" rareFlag).get? "new_device" = some rareFlag :=
    PyDict.get?_set_self _ _ _
  obtain ⟨profile, hprofile⟩ := exists_computeReferenceProfile (columns_single hvalues)
    "2026-01-01T00:00:00+00:00" defaultBins "supervised" "unknown"
  have hmerged : ¬ Separates defaultBins rareFlag.1 := by decide +kernel
  refine ⟨profile, _, hprofile,
    get?_computeReferenceProfile hprofile List.mem_cons_self hvalues, ?_, ?_⟩
  · rw [← not_le, two_le_length_counts_iff (by decide)]
    exact hmerged
  · rw [resolves_referenceFeature_iff (by decide)]
    rintro ⟨-, hseparates⟩
    exact hmerged (hseparates (by decide) (by decide +kernel))

end RareFlag

end VeriPay.Drift
