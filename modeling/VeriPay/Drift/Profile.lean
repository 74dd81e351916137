import VeriPay.Drift.Detect
import VeriPay.Lib.Edges
import VeriPay.Lib.LinearQuantile

/-!
Reference profiles of the training data. The edges of a feature's bins are quantiles of its
column, equal ones counted once.
-/

namespace VeriPay.Drift

open Lib

section Compute

variable {F : Type} [Field F] [LinearOrder F]

/-- A column of a training frame: finite numbers, at least one. -/
abbrev Column (F : Type) := {values : List F // values ≠ []}

def defaultBins : ℕ := 10

/-- `np.quantile(values, k / bins)`. -/
def quantile (bins : ℕ) (values : List F) (k : ℕ) : F :=
  interpolate (values.mergeSort (· ≤ ·)) ((values.length - 1) * k) bins

/-- `np.unique(np.quantile(values, np.linspace(0.0, 1.0, bins + 1)))`. -/
def quantileEdges (bins : ℕ) (values : List F) : List F :=
  unique ((List.range (bins + 1)).map (quantile bins values))

/-- A constant feature has a single widened bin. -/
def profileEdges (bins : ℕ) (values : List F) : List F :=
  let edges := quantileEdges bins values
  if edges.length < 2 then [values.min?.getD 0, values.max?.getD 0 + 1] else edges

end Compute

section Edges

variable {F : Type} [Field F] [LinearOrder F] {bins : ℕ} {values : List F}

theorem mem_quantileEdges {edge : F} :
    edge ∈ quantileEdges bins values ↔ ∃ k, k ≤ bins ∧ quantile bins values k = edge := by
  rw [quantileEdges, mem_unique, List.mem_map]
  simp only [List.mem_range, Nat.lt_succ_iff]

theorem quantileEdges_pairwise (bins : ℕ) (values : List F) :
    (quantileEdges bins values).Pairwise (· < ·) := unique_pairwise _

theorem quantile_mem_edges {k : ℕ} (hk : k ≤ bins) :
    quantile bins values k ∈ quantileEdges bins values := mem_quantileEdges.mpr ⟨k, hk, rfl⟩

omit [Field F] [LinearOrder F] in
theorem eq_of_length_lt_two {edges : List F} (hshort : edges.length < 2) {edge other : F}
    (hedge : edge ∈ edges) (hother : other ∈ edges) : edge = other := by
  match edges, hshort with
  | [only], _ => rw [List.mem_singleton.mp hedge, List.mem_singleton.mp hother]

omit [Field F] in
/-- The least and the greatest value of a column that has one. -/
theorem exists_min_max (hne : values ≠ []) :
    ∃ low ∈ values, ∃ high ∈ values, values.min? = some low ∧ values.max? = some high ∧
      ∀ v ∈ values, low ≤ v ∧ v ≤ high := by
  obtain ⟨low, hlow⟩ := Option.isSome_iff_exists.mp (List.isSome_min?_of_ne_nil hne)
  obtain ⟨high, hhigh⟩ := Option.isSome_iff_exists.mp (List.isSome_max?_of_ne_nil hne)
  obtain ⟨hlow', hleast⟩ := List.min?_eq_some_iff.mp hlow
  obtain ⟨hhigh', hgreatest⟩ := List.max?_eq_some_iff.mp hhigh
  exact ⟨low, hlow', high, hhigh', hlow, hhigh, fun v hv => ⟨hleast v hv, hgreatest v hv⟩⟩

/-- Long enough, the edges are the quantiles. -/
theorem profileEdges_of_long (hlong : 2 ≤ (quantileEdges bins values).length) :
    profileEdges bins values = quantileEdges bins values :=
  if_neg (by omega)

/-- One quantile alone is widened by one. -/
theorem profileEdges_of_short (hshort : (quantileEdges bins values).length < 2) :
    profileEdges bins values = [values.min?.getD 0, values.max?.getD 0 + 1] :=
  if_pos hshort

theorem two_le_length_profileEdges (bins : ℕ) (values : List F) :
    2 ≤ (profileEdges bins values).length := by
  rcases Nat.lt_or_ge (quantileEdges bins values).length 2 with hshort | hlong
  · rw [profileEdges_of_short hshort]
    rfl
  · rw [profileEdges_of_long hlong]
    exact hlong

/-- A column of several quantiles has several items. -/
theorem two_le_length_of_long (hlong : 2 ≤ (quantileEdges bins values).length) :
    2 ≤ values.length := by
  by_contra hfew
  have hzero : values.length - 1 = 0 := by omega
  have hsame : ∀ edge ∈ quantileEdges bins values, edge = quantile bins values 0 := by
    intro edge hedge
    obtain ⟨k, -, rfl⟩ := mem_quantileEdges.mp hedge
    rw [quantile, quantile, hzero, Nat.zero_mul, Nat.zero_mul]
  match hedges : quantileEdges bins values, hlong with
  | first :: second :: rest, _ =>
    rw [hedges] at hsame
    have hpairwise := quantileEdges_pairwise bins values
    rw [hedges] at hpairwise
    have hless := List.rel_of_pairwise_cons hpairwise List.mem_cons_self
    rw [hsame first (by simp), hsame second (by simp)] at hless
    exact lt_irrefl _ hless

variable [IsStrictOrderedRing F]

theorem profileEdges_pairwise (bins : ℕ) (hne : values ≠ []) :
    (profileEdges bins values).Pairwise (· < ·) := by
  rcases Nat.lt_or_ge (quantileEdges bins values).length 2 with hshort | hlong
  · obtain ⟨low, hlow, high, -, hmin, hmax, hall⟩ := exists_min_max hne
    have hless : low < high + 1 := (hall low hlow).2.trans_lt (lt_add_one high)
    rw [profileEdges_of_short hshort, hmin, hmax]
    simpa using hless
  · rw [profileEdges_of_long hlong]
    exact quantileEdges_pairwise bins values

end Edges

section Reference

variable {F : Type} [Field F] [LinearOrder F] [IsStrictOrderedRing F]

/-- The profile of one column. -/
def referenceFeature (bins : ℕ) (values : Column F) : ReferenceFeature F where
  edges := profileEdges bins values.1
  counts := histogram (profileEdges bins values.1) (values.1.map some)
  sorted := (profileEdges_pairwise bins values.2).imp le_of_lt
  bins := by
    have hlong := two_le_length_profileEdges bins values.1
    rw [length_histogram]
    omega
  nonempty := by
    have hlong := two_le_length_profileEdges bins values.1
    refine List.ne_nil_of_length_pos ?_
    rw [length_histogram]
    omega

/-- What `compute_reference_profile` returns. -/
structure TrainedProfile (F : Type) [LinearOrder F] where
  modelName : String
  version : String
  createdAt : String
  features : ReferenceProfile F

/-- One round of the loop over the columns. -/
def addFeature (frame : PyDict String (Column F)) (bins : ℕ) (features : ReferenceProfile F)
    (column : String) : Py (ReferenceProfile F) := do
  let values ← frame.item column
  return features.set column (referenceFeature bins values)

/-- `compute_reference_profile`, with the clock a parameter. -/
def computeReferenceProfile (frame : PyDict String (Column F)) (featureColumns : List String)
    (createdAt : String) (bins : ℕ := defaultBins) (modelName : String := "supervised")
    (version : String := "unknown") : Py (TrainedProfile F) := do
  let features ← featureColumns.foldlM (addFeature frame bins) ∅
  return { modelName, version, createdAt, features }

variable {frame : PyDict String (Column F)} {bins : ℕ} {column : String} {values : Column F}

theorem get?_of_foldlM (hvalues : frame.get? column = some values) {columns : List String}
    {features result : ReferenceProfile F}
    (h : columns.foldlM (addFeature frame bins) features = .ok result)
    (hknown : column ∈ columns ∨ features.get? column = some (referenceFeature bins values)) :
    result.get? column = some (referenceFeature bins values) := by
  induction columns generalizing features with
  | nil =>
    cases h
    exact hknown.resolve_left List.not_mem_nil
  | cons first rest ih =>
    rw [List.foldlM_cons] at h
    obtain ⟨next, hfirst, hrest⟩ := Py.bind_eq_ok.mp h
    obtain ⟨found, hfound, hset⟩ := Py.bind_eq_ok.mp hfirst
    cases hset
    refine ih hrest ?_
    by_cases hcolumn : column = first
    · subst hcolumn
      rw [PyDict.item_of_get? hvalues] at hfound
      cases hfound
      exact Or.inr (PyDict.get?_set_self _ _ _)
    · rw [PyDict.get?_set_of_ne _ _ hcolumn]
      exact hknown.imp_left fun hmem => (List.mem_cons.mp hmem).resolve_left hcolumn

/-- Every column asked for has its own profile in the result. -/
theorem get?_computeReferenceProfile {featureColumns : List String}
    {createdAt modelName version : String} {profile : TrainedProfile F}
    (h : computeReferenceProfile frame featureColumns createdAt bins modelName version =
      .ok profile)
    (hcolumn : column ∈ featureColumns) (hvalues : frame.get? column = some values) :
    profile.features.get? column = some (referenceFeature bins values) := by
  obtain ⟨features, hfeatures, hprofile⟩ := Py.bind_eq_ok.mp h
  cases hprofile
  exact get?_of_foldlM hvalues hfeatures (Or.inl hcolumn)

/-- A frame that has all the columns is profiled. -/
theorem exists_computeReferenceProfile {featureColumns : List String}
    (hall : ∀ column ∈ featureColumns, ∃ values, frame.get? column = some values)
    (createdAt : String) (bins : ℕ) (modelName version : String) :
    ∃ profile, computeReferenceProfile frame featureColumns createdAt bins modelName version =
      .ok profile := by
  have hloop : ∀ features : ReferenceProfile F, ∃ result,
      featureColumns.foldlM (addFeature frame bins) features = .ok result := by
    induction featureColumns with
    | nil => exact fun features => ⟨features, rfl⟩
    | cons first rest ih =>
      intro features
      obtain ⟨values, hvalues⟩ := hall first List.mem_cons_self
      rw [List.foldlM_cons, addFeature, PyDict.item_of_get? hvalues]
      exact ih (fun column hcolumn => hall column (List.mem_cons_of_mem _ hcolumn)) _
  obtain ⟨features, hfeatures⟩ := hloop ∅
  exact ⟨_, by rw [computeReferenceProfile, hfeatures]; rfl⟩

end Reference

end VeriPay.Drift
