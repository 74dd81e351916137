import VeriPay.ModelMonitor.DriftAgreement

/-!
Which observations of a window the drift histograms count: the readings within the outer
edges of the training data. A reading beyond them is in no bin and leaves the index alone.
-/

namespace VeriPay.ModelMonitor

open Lib Drift

variable {V F : Type} [LinearOrder V] [Zero V] [Field F] [LinearOrder F]

/-- The bin counts of a feature that `feature_drift` passes to `psi`. -/
def windowCounts (reference : ReferenceFeature V) (observations : List (Observation V))
    (column : String) : List ℕ :=
  histogram reference.edges (featureValues observations column).1

/-- The index of every profiled feature is that of counts that sum to the window. -/
def AccountsForAll (log : F → F) (profile : ReferenceProfile V)
    (observations : List (Observation V)) (columns : List String) : Prop :=
  ∀ column ∈ columns, ∀ reference, profile.get? column = some reference →
    (featureDrift log profile observations columns).1.get? column =
        some (psi log reference.counts (windowCounts reference observations column)) ∧
      (windowCounts reference observations column).sum = observations.length

/-- The reading is a number within the training range. -/
def WithinEdges (reference : ReferenceFeature V) (reading : Option V) : Prop :=
  ∃ value ∈ reading, (∃ low ∈ reference.edges.head?, low ≤ value) ∧
    ∃ high ∈ reference.edges.getLast?, value ≤ high

theorem featureDrift_get? (log : F → F) (profile : ReferenceProfile V)
    (observations : List (Observation V)) {columns : List String} {column : String}
    (hcolumn : column ∈ columns) {reference : ReferenceFeature V}
    (hreference : profile.get? column = some reference) :
    (featureDrift log profile observations columns).1.get? column =
      some (psi log reference.counts (windowCounts reference observations column)) := by
  refine (PyDict.get?_collect columns _ column).trans ?_
  rw [if_pos hcolumn, hreference]
  rfl

/-- The counts of a feature sum to the window exactly when every reading is within the outer
edges. -/
theorem sum_windowCounts_iff (reference : ReferenceFeature V)
    (observations : List (Observation V)) (column : String) :
    (windowCounts reference observations column).sum = observations.length ↔
      ∀ observation ∈ observations, WithinEdges reference (observation.reading column) := by
  obtain ⟨edges, counts, hsorted, hbins, hnonempty⟩ := reference
  have hpos := List.length_pos_iff.mpr hnonempty
  obtain ⟨low, high, rest, rfl⟩ : ∃ low high rest, edges = low :: high :: rest := by
    match edges, hbins with
    | [], hbins => simp at hbins
    | [edge], hbins =>
      simp only [List.length_singleton] at hbins
      omega
    | low :: high :: rest, _ => exact ⟨low, high, rest, rfl⟩
  obtain ⟨last, hlast⟩ : ∃ last, (high :: rest).getLast? = some last :=
    ⟨_, List.getLast?_eq_getLast_of_ne_nil (List.cons_ne_nil high rest)⟩
  have hsum := sum_histogram hsorted hlast (featureValues observations column).1
  have hlength : (featureValues observations column).1.length = observations.length :=
    List.length_map _
  rw [windowCounts, hsum, ← hlength, List.countP_eq_length]
  simp only [featureValues, List.forall_mem_map]
  refine forall₂_congr fun observation _ => ?_
  simp only [WithinEdges, List.head?_cons, List.getLast?_cons_cons, hlast, Option.mem_some_iff,
    exists_eq_left']
  cases observation.reading column with
  | none => simp [inRange]
  | some value => simp [inRange]

/-- Every profiled feature accounts for the whole window exactly when all its readings are
numbers within the training range. -/
theorem accountsForAll_iff (log : F → F) (profile : ReferenceProfile V)
    (observations : List (Observation V)) (columns : List String) :
    AccountsForAll log profile observations columns ↔
      ∀ column ∈ columns, ∀ reference, profile.get? column = some reference →
        ∀ observation ∈ observations, WithinEdges reference (observation.reading column) := by
  refine forall₂_congr fun column hcolumn => forall₂_congr fun reference hreference => ?_
  rw [← sum_windowCounts_iff, and_iff_right]
  exact featureDrift_get? log profile observations hcolumn hreference

section ShiftedWindow

/-- An observation of one amount. -/
def amountObservation (amount : ℚ) : Observation ℚ where
  features := .set ∅ "amount_log" (some amount)

/-- Thirty amounts, all but one far above the training range. -/
def shiftedWindow : List (Observation ℚ) :=
  amountObservation 5 :: List.replicate 29 (amountObservation 1000)

theorem windowCounts_shiftedWindow :
    windowCounts amountFeature shiftedWindow "amount_log" = [1] := by
  decide +kernel

theorem driftReport_shiftedWindow :
    (driftReport Real.log amountProfile shiftedWindow).verdict = .stable := by
  have hpsi : psi Real.log [100] (windowCounts amountFeature shiftedWindow "amount_log") =
      (0 : ℝ) := by
    rw [windowCounts_shiftedWindow, psi, stabilityIndex]
    norm_num
  have hindices : (featureDrift Real.log amountProfile shiftedWindow).1 =
      PyDict.set ∅ "amount_log" ((0 : ℝ) : WithTop ℝ) := by
    rw [← hpsi]
    exact collect_amount fun column reference =>
      psi Real.log reference.counts (windowCounts reference shiftedWindow column)
  have hlong : ¬ (shiftedWindow.length : ℤ) < 30 := by decide
  rw [driftReport, if_neg hlong]
  dsimp only
  rw [hindices]
  exact classified_zero_stable _ _ _

/-- They are in no bin, and the report is stable on the one amount that is. -/
theorem shiftedWindow_unaccounted :
    amountProfile.get? "amount_log" = some amountFeature ∧ shiftedWindow.length = 30 ∧
      (windowCounts amountFeature shiftedWindow "amount_log").sum = 1 ∧
      (driftReport Real.log amountProfile shiftedWindow).verdict = .stable ∧
      ¬ AccountsForAll Real.log amountProfile shiftedWindow featureColumns := by
  have hprofile : amountProfile.get? "amount_log" = some amountFeature :=
    PyDict.get?_set_self _ _ _
  have hsum : (windowCounts amountFeature shiftedWindow "amount_log").sum = 1 := by
    rw [windowCounts_shiftedWindow]
    rfl
  refine ⟨hprofile, rfl, hsum, driftReport_shiftedWindow, ?_⟩
  intro h
  have hall := (h "amount_log" List.mem_cons_self amountFeature hprofile).2
  rw [hsum] at hall
  exact absurd hall (by decide)

end ShiftedWindow

end VeriPay.ModelMonitor
