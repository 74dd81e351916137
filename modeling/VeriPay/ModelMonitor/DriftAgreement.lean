import VeriPay.ModelMonitor.AddedValues

/-!
When the two drift implementations agree. The monitor counts an absent feature as a zero
and as one missing cell; the data frame leaves it out of the histogram and counts its
whole row as missing.
-/

namespace VeriPay.ModelMonitor

open Lib Drift

variable {V F : Type}

/-- The cell of an absent feature is NaN. -/
def Observation.cell (observation : Observation V) (column : String) : Option V :=
  (observation.features.get? column).join

/-- The window as a data frame. -/
def frameOf (columns : List String) (observations : List (Observation V)) : Frame V where
  columns := columns
  rows := observations.map Observation.cell

/-- The reports agree on the verdict, the index of each feature, their maximum and the
missing rate. -/
structure SameFindings (first second : DriftReport F) : Prop where
  verdict : first.verdict = second.verdict
  featurePsi : first.featurePsi = second.featurePsi
  maxPsi : first.maxPsi = second.maxPsi
  missingRate : first.missingRate = second.missingRate

/-- A feature is absent, or not a number. -/
def Observation.incomplete (columns : List String) (observation : Observation V) : Bool :=
  columns.any fun column => (observation.cell column).isNone

/-- A feature that is absent is missing in the frame. -/
theorem incomplete_of_lacks {columns : List String} {observation : Observation V}
    {column : String}
    (hcolumn : column ∈ columns) (hlacks : observation.lacks column = true) :
    observation.incomplete columns = true := by
  refine List.any_eq_true.mpr ⟨column, hcolumn, ?_⟩
  rw [Observation.lacks, Option.isNone_iff_eq_none] at hlacks
  rw [Observation.cell, hlacks]
  rfl

/-- The two missing rates of a window that is not empty. -/
theorem missingRate_eq_iff (columns : List String) {observations : List (Observation V)}
    (hne : observations ≠ []) (missing : ℕ)
    (hmissing : missing ≤ observations.countP (Observation.incomplete columns) * columns.length) :
    (missing : ℚ) / (max (observations.length * columns.length) 1 : ℕ) =
        observations.countP (Observation.incomplete columns) / observations.length ↔
      missing = observations.countP (Observation.incomplete columns) * columns.length := by
  have hrows : 0 < observations.length := List.length_pos_iff.mpr hne
  rcases Nat.eq_zero_or_pos columns.length with hempty | hcolumns
  · have hnone : observations.countP (Observation.incomplete columns) = 0 := by
      rw [List.countP_eq_zero]
      intro observation _ h
      rw [List.length_eq_zero_iff.mp hempty] at h
      cases h
    rw [hempty, Nat.mul_zero] at hmissing
    rw [Nat.le_zero.mp hmissing, hnone]
    simp
  · have hcells : 0 < observations.length * columns.length := Nat.mul_pos hrows hcolumns
    rw [max_eq_left hcells, div_eq_div_iff (by exact_mod_cast hcells.ne')
      (by exact_mod_cast hrows.ne')]
    norm_cast
    rw [Nat.mul_left_comm, Nat.mul_comm missing, Nat.mul_right_inj hrows.ne']

/-- The monitor reads a complete observation as the frame does. -/
theorem reading_of_complete [Zero V] {columns : List String} {observation : Observation V}
    {column : String} (hcolumn : column ∈ columns)
    (hcomplete : observation.incomplete columns = false) :
    observation.reading column = observation.cell column := by
  have hcell := List.any_eq_false.mp hcomplete column hcolumn
  unfold Observation.cell at hcell ⊢
  unfold Observation.reading
  cases hread : observation.features.get? column with
  | none =>
    rw [hread] at hcell
    exact absurd rfl hcell
  | some value =>
    cases value with
    | none =>
      rw [hread] at hcell
      exact absurd rfl hcell
    | some value => rfl

/-- The cells of the complete observations, and the incomplete ones apart. -/
theorem map_perm (columns : List String) (value : Observation V → Option V) (blank : Option V)
    {observations : List (Observation V)} {column : String}
    (hcomplete : ∀ observation ∈ observations, observation.incomplete columns = false →
      value observation = observation.cell column)
    (hblank : ∀ observation ∈ observations, observation.incomplete columns = true →
      value observation = blank) :
    (observations.map value).Perm
      (((observations.filter fun observation => !observation.incomplete columns).map
          fun observation => observation.cell column) ++
        List.replicate (observations.countP (Observation.incomplete columns)) blank) := by
  have hsplit := (List.filter_append_perm (fun observation => !observation.incomplete columns)
    observations).symm.map value
  rw [List.map_append] at hsplit
  have hcells : (observations.filter fun observation => !observation.incomplete columns).map value =
      (observations.filter fun observation => !observation.incomplete columns).map
        fun observation => observation.cell column := by
    refine List.map_congr_left ?_
    intro observation hmem
    obtain ⟨hmem, hflag⟩ := List.mem_filter.mp hmem
    exact hcomplete observation hmem (by simpa using hflag)
  have hblanks : (observations.filter fun observation => !!observation.incomplete columns).map
      value = List.replicate (observations.countP (Observation.incomplete columns)) blank := by
    rw [List.eq_replicate_iff]
    constructor
    · rw [List.length_map, List.countP_eq_length_filter]
      simp only [Bool.not_not]
    · intro cell hcell
      obtain ⟨observation, hmem, rfl⟩ := List.mem_map.mp hcell
      obtain ⟨hmem, hflag⟩ := List.mem_filter.mp hmem
      exact hblank observation hmem (by simpa using hflag)
  rw [hcells, hblanks] at hsplit
  exact hsplit

variable [LinearOrder V] [Field F] [LinearOrder F]

/-- What the complete observations hold in a column. -/
def completeCells (columns : List String) (observations : List (Observation V))
    (column : String) : List (Option V) :=
  (observations.filter fun observation => !observation.incomplete columns).map
    fun observation => observation.cell column

/-- Nothing is missing, or what is missing is whole observations, and a zero for each of them
leaves the shares of every column's bins. -/
structure MissingWhole [Zero V] (profile : ReferenceProfile V) (columns : List String)
    (observations : List (Observation V)) : Prop where
  nonempty : observations ≠ []
  whole : ∀ observation ∈ observations, observation.incomplete columns = true →
    ∀ column ∈ columns, observation.lacks column = true ∧ (profile.get? column).isSome = true
  unseen : ∀ column ∈ columns, ∀ reference, profile.get? column = some reference →
    LeavesShares reference.edges (completeCells columns observations column) 0
      (observations.countP (Observation.incomplete columns))

section MissingRate

variable (profile : ReferenceProfile V) (columns : List String)

/-- The cells the monitor counts as missing. -/
def countsMissing (column : String) (observation : Observation V) : Bool :=
  (profile.get? column).isSome && observation.lacks column

theorem missingCount_eq (observations : List (Observation V)) :
    (columns.map fun column =>
      match profile.get? column with
      | none => 0
      | some _ => observations.countP fun observation => observation.lacks column).sum =
      (observations.map fun observation =>
        columns.countP fun column => countsMissing profile column observation).sum := by
  rw [← sum_countP_comm]
  congr 1
  refine List.map_congr_left ?_
  intro column _
  unfold countsMissing
  cases profile.get? column with
  | none => simp
  | some reference => simp

theorem countsMissing_le (observation : Observation V) :
    (columns.countP fun column => countsMissing profile column observation) ≤
      if observation.incomplete columns = true then columns.length else 0 := by
  split_ifs with hincomplete
  · exact List.countP_le_length
  · rw [Nat.le_zero, List.countP_eq_zero]
    intro column hcolumn hmissing
    rw [countsMissing, Bool.and_eq_true] at hmissing
    exact hincomplete (incomplete_of_lacks hcolumn hmissing.2)

/-- The cells the monitor counts are those of the incomplete observations exactly when
these are missing as a whole. -/
theorem missingCount_eq_iff (observations : List (Observation V)) :
    (observations.map fun observation =>
      columns.countP fun column => countsMissing profile column observation).sum =
      observations.countP (Observation.incomplete columns) * columns.length ↔
    ∀ observation ∈ observations, observation.incomplete columns = true →
      ∀ column ∈ columns, observation.lacks column = true ∧
        (profile.get? column).isSome = true := by
  rw [← sum_map_ite,
    sum_map_eq_iff fun observation _ => countsMissing_le profile columns observation]
  refine forall₂_congr ?_
  intro observation _
  by_cases hincomplete : observation.incomplete columns = true
  · rw [if_pos hincomplete, List.countP_eq_length]
    simp only [countsMissing, Bool.and_eq_true, and_comm, hincomplete, true_imp_iff]
  · have hzero := countsMissing_le profile columns observation
    rw [if_neg hincomplete, Nat.le_zero] at hzero
    rw [if_neg hincomplete]
    exact iff_of_true hzero fun h => absurd h hincomplete

end MissingRate

section Psi

variable (columns : List String)

/-- The frame leaves out the incomplete observations, where they lack a column. -/
theorem histogram_cells {observations : List (Observation V)} {column : String}
    (hlacks : ∀ observation ∈ observations, observation.incomplete columns = true →
      observation.lacks column = true) (edges : List V) :
    histogram edges (observations.map fun observation => observation.cell column) =
      histogram edges (completeCells columns observations column) := by
  refine (histogram_perm (map_perm columns _ none ?_ ?_) edges).trans
    (histogram_append_outside (fun _ h => by cases h) _ _)
  · intro observation _ _
    rfl
  · intro observation hmem hincomplete
    have hlacking := hlacks observation hmem hincomplete
    rw [Observation.lacks, Option.isNone_iff_eq_none] at hlacking
    rw [Observation.cell, hlacking]
    rfl

variable [Zero V]

/-- The monitor counts them as zeros. -/
theorem histogram_readings {observations : List (Observation V)} {column : String}
    (hcolumn : column ∈ columns)
    (hlacks : ∀ observation ∈ observations, observation.incomplete columns = true →
      observation.lacks column = true) (edges : List V) :
    histogram edges (observations.map fun observation => observation.reading column) =
      histogram edges (completeCells columns observations column ++
        List.replicate (observations.countP (Observation.incomplete columns)) (some 0)) := by
  refine histogram_perm (map_perm columns _ _ ?_ ?_) edges
  · intro observation _ hcomplete
    exact reading_of_complete hcolumn hcomplete
  · intro observation hmem hincomplete
    have hlacking := hlacks observation hmem hincomplete
    rw [Observation.lacks, Option.isNone_iff_eq_none] at hlacking
    rw [Observation.reading, hlacking]
    rfl

end Psi

section Reports

variable (log : F → F) (profile : ReferenceProfile V) (columns : List String)
  (observations : List (Observation V))

/-- The frame of a window has all its columns, so the report does not raise. -/
theorem driftReport_frameOf (minWindow : ℤ) (psiThreshold : F) :
    Drift.driftReport log profile (frameOf columns observations) columns minWindow psiThreshold =
      .ok (if (observations.length : ℤ) < minWindow then
          insufficient observations.length minWindow
        else classified (Drift.featureDrift log profile (frameOf columns observations) columns)
          (boolMean (observations.map (Observation.incomplete columns)))
          observations.length minWindow psiThreshold) := by
  have hlength : (frameOf columns observations).rows.length = observations.length :=
    List.length_map _
  have hcolumns : columns.all (· ∈ (frameOf columns observations).columns) = true := by
    rw [List.all_eq_true]
    intro column hcolumn
    exact decide_eq_true hcolumn
  have hmissing : missingRows (frameOf columns observations) columns =
      .ok (boolMean (observations.map (Observation.incomplete columns))) := by
    rw [missingRows, if_pos hcolumns, frameOf, List.map_map]
    rfl
  rw [Drift.driftReport, hlength, hmissing]
  split_ifs <;> rfl

theorem sameFindings_classified_iff (first second : PyDict String (WithTop F))
    (firstRate secondRate : Option ℚ) (windowSize : ℕ) (minWindow : ℤ) (psiThreshold : F) :
    SameFindings (classified first firstRate windowSize minWindow psiThreshold)
        (classified second secondRate windowSize minWindow psiThreshold) ↔
      first = second ∧ firstRate = secondRate := by
  constructor
  · intro h
    exact ⟨h.featurePsi, h.missingRate⟩
  · intro h
    obtain ⟨rfl, rfl⟩ := h
    exact ⟨rfl, rfl, rfl, rfl⟩

/-- The indices of the frame's report, whose columns are all there. -/
theorem featureDrift_frameOf :
    Drift.featureDrift log profile (frameOf columns observations) columns =
      PyDict.collect columns fun column =>
        (profile.get? column).map fun reference =>
          Drift.psi log reference.counts (histogram reference.edges
            (observations.map fun observation => observation.cell column)) := by
  refine (PyDict.collect_eq_iff columns _ _).mpr ?_
  intro column hcolumn
  have hframe : column ∈ (frameOf columns observations).columns := hcolumn
  cases profile.get? column with
  | none => rfl
  | some reference =>
    simp only [if_pos hframe]
    rw [frameOf, List.map_map]
    rfl

variable [Zero V]

/-- The indices of both reports. -/
theorem featurePsi_eq_iff :
    (featureDrift log profile observations columns).1 =
        Drift.featureDrift log profile (frameOf columns observations) columns ↔
      ∀ column ∈ columns, ∀ reference, profile.get? column = some reference →
        psi log reference.counts
            (histogram reference.edges (observations.map fun observation =>
              observation.reading column)) =
          psi log reference.counts
            (histogram reference.edges (observations.map fun observation =>
              observation.cell column)) := by
  rw [featureDrift_frameOf]
  show PyDict.collect columns _ = PyDict.collect columns _ ↔ _
  rw [PyDict.collect_eq_iff]
  refine forall₂_congr ?_
  intro column _
  cases profile.get? column with
  | none => simp
  | some reference =>
    simp only [Option.map_some, Option.some.injEq, forall_eq']
    rfl

/-- The missing rates of both reports. -/
theorem missing_eq_iff :
    some (featureDrift log profile observations columns).2 =
        boolMean (observations.map (Observation.incomplete columns)) ↔
      observations ≠ [] ∧ ∀ observation ∈ observations, observation.incomplete columns = true →
        ∀ column ∈ columns, observation.lacks column = true ∧
          (profile.get? column).isSome = true := by
  have hrate : (featureDrift log profile observations columns).2 =
      ((observations.map fun observation =>
        columns.countP fun column => countsMissing profile column observation).sum : ℚ) /
        (max (observations.length * columns.length) 1 : ℕ) := by
    rw [← missingCount_eq]
    rfl
  by_cases hempty : observations = []
  · subst hempty
    exact iff_of_false (by simp [boolMean]) (by simp)
  · have hmean : boolMean (observations.map (Observation.incomplete columns)) =
        some ((observations.countP (Observation.incomplete columns) : ℚ) /
          observations.length) := by
      have hpresent : (observations.map (Observation.incomplete columns)).isEmpty = false := by
        rw [List.isEmpty_map, List.isEmpty_eq_false_iff]
        exact hempty
      rw [boolMean, hpresent, if_neg Bool.false_ne_true, List.length_map, List.count,
        List.countP_map]
      simp only [Function.comp_def, beq_true]
    have hmissing := List.sum_le_sum fun observation (_ : observation ∈ observations) =>
      countsMissing_le profile columns observation
    rw [sum_map_ite] at hmissing
    rw [hrate, hmean, Option.some_inj, missingRate_eq_iff columns hempty _ hmissing,
      missingCount_eq_iff]
    exact (and_iff_right hempty).symm

/-- The two reports of a window. -/
def ReportsAgree (minWindow : ℤ) (psiThreshold : F) : Prop :=
  ∃ report, Drift.driftReport log profile (frameOf columns observations) columns minWindow
      psiThreshold = .ok report ∧
    SameFindings (driftReport log profile observations columns minWindow psiThreshold) report

/-- What is missing is whole observations, and the zeros for them leave every index. -/
theorem reportsAgree_iff (minWindow : ℤ) (psiThreshold : F) :
    ReportsAgree log profile columns observations minWindow psiThreshold ↔
      (observations.length : ℤ) < minWindow ∨
      (observations ≠ [] ∧ ∀ observation ∈ observations, observation.incomplete columns = true →
        ∀ column ∈ columns, observation.lacks column = true ∧
          (profile.get? column).isSome = true) ∧
      ∀ column ∈ columns, ∀ reference, profile.get? column = some reference →
        psi log reference.counts (histogram reference.edges
            (completeCells columns observations column ++
              List.replicate (observations.countP (Observation.incomplete columns)) (some 0))) =
          psi log reference.counts
            (histogram reference.edges (completeCells columns observations column)) := by
  rw [ReportsAgree, driftReport_frameOf]
  simp only [Except.ok.injEq, exists_eq_left']
  have hmonitor : driftReport log profile observations columns minWindow psiThreshold =
      if (observations.length : ℤ) < minWindow then insufficient observations.length minWindow
      else classified (featureDrift log profile observations columns).1
        (some (featureDrift log profile observations columns).2) observations.length minWindow
        psiThreshold := rfl
  rw [hmonitor]
  by_cases hsmall : (observations.length : ℤ) < minWindow
  · rw [if_pos hsmall, if_pos hsmall]
    exact iff_of_true ⟨rfl, rfl, rfl, rfl⟩ (Or.inl hsmall)
  · rw [if_neg hsmall, if_neg hsmall, sameFindings_classified_iff, featurePsi_eq_iff,
      missing_eq_iff, or_iff_right hsmall, and_comm]
    refine and_congr_right ?_
    intro hmissing
    refine forall₂_congr ?_
    intro column hcolumn
    have hlacks := fun observation hmem hincomplete =>
      (hmissing.2 observation hmem hincomplete column hcolumn).1
    refine forall₂_congr ?_
    intro reference _
    rw [histogram_readings columns hcolumn hlacks, histogram_cells columns hlacks]

end Reports

section Agreement

/-- The profiles have the same features, each with the same edges. -/
def SameBins (profile other : ReferenceProfile V) : Prop :=
  ∀ column, (other.get? column).map ReferenceFeature.edges =
    (profile.get? column).map ReferenceFeature.edges

/-- A feature with other counts. -/
def recounted (reference : ReferenceFeature V) (counts : List ℕ)
    (hlength : counts.length = reference.counts.length) : ReferenceFeature V where
  edges := reference.edges
  counts := counts
  sorted := reference.sorted
  bins := by rw [hlength, reference.bins]
  nonempty := by
    intro hempty
    rw [hempty] at hlength
    exact reference.nonempty (List.eq_nil_of_length_eq_zero hlength.symm)

theorem sameBins_recounted {profile : ReferenceProfile V} {column : String}
    {reference : ReferenceFeature V} (hreference : profile.get? column = some reference)
    (counts : List ℕ) (hlength : counts.length = reference.counts.length) :
    SameBins profile (profile.set column (recounted reference counts hlength)) := by
  intro other
  rw [PyDict.get?_set]
  split_ifs with hother
  · rw [hother, hreference]
    rfl
  · rfl

/-- Both implementations report the same on a window that is too small, or where the observations
that miss anything miss everything and the zeros for them leave the shares of the bins. Where they
report the same, the window is one or the other but perhaps for the shares; and that too, where
they report the same whatever the profile has counted in its bins. -/
theorem reports_agree_of_missingWhole [Zero V] (profile : ReferenceProfile V)
    (columns : List String) (observations : List (Observation V)) (minWindow : ℤ)
    (psiThreshold : ℝ) :
    ((observations.length : ℤ) < minWindow ∨ MissingWhole profile columns observations →
      ReportsAgree Real.log profile columns observations minWindow psiThreshold) ∧
    (ReportsAgree Real.log profile columns observations minWindow psiThreshold →
      (observations.length : ℤ) < minWindow ∨ observations ≠ [] ∧
        ∀ observation ∈ observations, observation.incomplete columns = true →
          ∀ column ∈ columns, observation.lacks column = true ∧
            (profile.get? column).isSome = true) ∧
    ((∀ other, SameBins profile other →
        ReportsAgree Real.log other columns observations minWindow psiThreshold) →
      (observations.length : ℤ) < minWindow ∨ MissingWhole profile columns observations) := by
  refine ⟨?_, ?_, ?_⟩
  · rw [reportsAgree_iff]
    intro h
    refine h.imp_right ?_
    intro hmissing
    refine ⟨⟨hmissing.nonempty, hmissing.whole⟩, ?_⟩
    intro column hcolumn reference hreference
    exact (hmissing.unseen column hcolumn reference hreference).psi_eq Real.log reference.counts
  · rw [reportsAgree_iff]
    exact fun h => h.imp_right fun hmissing => hmissing.1
  · intro hall
    by_cases hsmall : (observations.length : ℤ) < minWindow
    · exact Or.inl hsmall
    have hfindings : ∀ other, SameBins profile other → _ := fun other hbins =>
      ((reportsAgree_iff _ _ _ _ _ _).mp (hall other hbins)).resolve_left hsmall
    obtain ⟨⟨hne, hwhole⟩, -⟩ := hfindings profile fun _ => rfl
    refine Or.inr ⟨hne, hwhole, ?_⟩
    intro column hcolumn reference hreference
    refine leavesShares_of_psi_eq reference ?_
    intro counts hlength
    exact (hfindings _ (sameBins_recounted hreference counts hlength)).2 column hcolumn
      (recounted reference counts hlength) (PyDict.get?_set_self _ _ _)

end Agreement

section EmptyWindow

/-- A profile of one feature, all of it in one bin. -/
def amountFeature : ReferenceFeature ℚ where
  edges := [0, 10]
  counts := [100]
  sorted := List.pairwise_pair.mpr (by norm_num)
  bins := rfl
  nonempty := List.cons_ne_nil _ _

def amountProfile : ReferenceProfile ℚ := .set ∅ "amount_log" amountFeature

/-- Thirty observations without a feature. -/
def emptyWindow : List (Observation ℚ) := List.replicate 30 { features := ∅ }

theorem psi_emptyWindow :
    psi Real.log [100] (histogram amountFeature.edges
      (emptyWindow.map fun observation => observation.reading "amount_log")) = (0 : ℝ) := by
  have hcounts : histogram amountFeature.edges
      (emptyWindow.map fun observation => observation.reading "amount_log") = [30] := by
    decide +kernel
  rw [hcounts, psi, stabilityIndex]
  norm_num

theorem psi_emptyFrame :
    Drift.psi Real.log [100] (histogram amountFeature.edges
      (emptyWindow.map fun observation => observation.cell "amount_log")) = ⊤ := by
  have hcounts : histogram amountFeature.edges
      (emptyWindow.map fun observation => observation.cell "amount_log") = [0] := by
    decide +kernel
  rw [hcounts, Drift.psi, stabilityIndex]
  simp

/-- The indices of a report on the amounts alone. -/
theorem collect_amount (index : String → ReferenceFeature ℚ → WithTop ℝ) :
    PyDict.collect featureColumns (fun column =>
        (amountProfile.get? column).map fun reference => index column reference) =
      PyDict.set ∅ "amount_log" (index "amount_log" amountFeature) := by
  have hindex : ∀ column ∈ featureColumns,
      ((amountProfile.get? column).map fun reference => index column reference) =
        if column = "amount_log" then some (index "amount_log" amountFeature) else none := by
    intro column _
    rw [amountProfile, PyDict.get?_set]
    split_ifs with hcolumn
    · rw [hcolumn]
      rfl
    · rfl
  rw [(PyDict.collect_eq_iff _ _ _).mpr hindex]
  rfl

/-- An index of zero on the amounts is no drift. -/
theorem classified_zero_stable (missingRate : Option ℚ) (windowSize : ℕ) (minWindow : ℤ) :
    (classified (PyDict.set ∅ "amount_log" ((0 : ℝ) : WithTop ℝ)) missingRate windowSize
      minWindow psiTrigger).verdict = .stable := by
  have hzero : maxPsi (PyDict.set ∅ "amount_log" ((0 : ℝ) : WithTop ℝ)) = ((0 : ℝ) : WithTop ℝ) :=
    rfl
  have hbelow : ¬ ((psiTrigger : ℝ) : WithTop ℝ) ≤ ((0 : ℝ) : WithTop ℝ) := by
    rw [WithTop.coe_le_coe, psiTrigger]
    norm_num
  rw [classified, hzero]
  exact if_neg hbelow

theorem driftReport_emptyWindow :
    driftReport Real.log amountProfile emptyWindow =
      classified (PyDict.set ∅ "amount_log" ((0 : ℝ) : WithTop ℝ)) (some (1 / 10)) 30 30
        psiTrigger := by
  have hindices : (featureDrift Real.log amountProfile emptyWindow).1 =
      PyDict.set ∅ "amount_log" ((0 : ℝ) : WithTop ℝ) := by
    rw [← psi_emptyWindow]
    exact collect_amount fun column reference =>
      psi Real.log reference.counts
        (histogram reference.edges (featureValues emptyWindow column).1)
  have hrate : (featureDrift Real.log amountProfile emptyWindow).2 = 1 / 10 := by
    decide +kernel
  rw [← hindices, ← hrate]
  rfl

theorem driftReport_emptyFrame :
    Drift.driftReport Real.log amountProfile (frameOf featureColumns emptyWindow)
        featureColumns =
      .ok (classified (PyDict.set ∅ "amount_log" (⊤ : WithTop ℝ)) (some 1) 30 30
        psiTrigger) := by
  have hindices : Drift.featureDrift Real.log amountProfile
      (frameOf featureColumns emptyWindow) featureColumns = PyDict.set ∅ "amount_log" ⊤ := by
    rw [featureDrift_frameOf, collect_amount fun column reference =>
      Drift.psi Real.log reference.counts (histogram reference.edges
        (emptyWindow.map fun observation => observation.cell column))]
    exact congrArg _ psi_emptyFrame
  have hrate : boolMean (emptyWindow.map (Observation.incomplete featureColumns)) = some 1 := by
    decide +kernel
  rw [driftReport_frameOf, hindices, hrate]
  rfl

/-- The monitor calls the window stable, the frame's report calls it drift. -/
theorem emptyWindow_disagrees :
    ∃ report, Drift.driftReport Real.log amountProfile (frameOf featureColumns emptyWindow)
        featureColumns = .ok report ∧
      report.verdict = .drift ∧ report.missingRate = some 1 ∧
      (driftReport Real.log amountProfile emptyWindow).verdict = .stable ∧
      (driftReport Real.log amountProfile emptyWindow).missingRate = some (1 / 10) ∧
      ¬ SameFindings (driftReport Real.log amountProfile emptyWindow) report := by
  have htop : maxPsi (PyDict.set ∅ "amount_log" (⊤ : WithTop ℝ)) = ⊤ := rfl
  rw [driftReport_emptyWindow]
  refine ⟨_, driftReport_emptyFrame, ?_, rfl, classified_zero_stable _ _ _, rfl, ?_⟩
  · simp only [classified, htop, le_top, if_true]
  · intro h
    have hrates := h.missingRate
    exact absurd (Option.some.inj hrates) (by norm_num)

end EmptyWindow

end VeriPay.ModelMonitor
