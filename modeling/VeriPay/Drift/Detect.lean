import Mathlib.Algebra.Field.Rat
import VeriPay.Lib.Histogram
import VeriPay.Lib.PyDict

/-!
Drift detection over a data frame. A profile holds a histogram of the training data for
each feature; the same edges are applied to the live window and the two histograms are
compared. Readings may be of any ordered type, the index is computed in any ordered field.
-/

namespace VeriPay.Drift

open Lib

/-- One feature of a profile: at least one bin, and a count for each. -/
structure ReferenceFeature (V : Type) [LinearOrder V] where
  edges : List V
  counts : List ℕ
  sorted : edges.Pairwise (· ≤ ·)
  bins : edges.length = counts.length + 1
  nonempty : counts ≠ []

/-- `profile["features"]`. -/
abbrev ReferenceProfile (V : Type) [LinearOrder V] := PyDict String (ReferenceFeature V)

inductive DriftVerdict
  | insufficientData
  | drift
  | stable
  deriving DecidableEq

/-- A report. The missing rate of no rows is not a number. -/
structure DriftReport (F : Type) where
  verdict : DriftVerdict
  featurePsi : PyDict String (WithTop F)
  maxPsi : Option (WithTop F)
  windowSize : ℕ
  minWindow : ℤ
  missingRate : Option ℚ
  psiThreshold : Option F

/-- A data frame of numbers; `none` is NaN. -/
structure Frame (V : Type) where
  columns : List String
  rows : List (String → Option V)

section Psi

variable {F : Type} [Field F] [LinearOrder F]

def psiTrigger : F := 1 / 4

def epsilon : F := 1 / 1000000

/-- `psi`, with the logarithm a parameter. -/
def psi (log : F → F) (referenceCounts currentCounts : List ℕ) : WithTop F :=
  stabilityIndex epsilon log (referenceCounts.map Nat.cast) (currentCounts.map Nat.cast)

/-- `max(per_feature.values()) if per_feature else 0.0`. -/
def maxPsi (perFeature : PyDict String (WithTop F)) : WithTop F :=
  match perFeature.values with
  | [] => (0 : F)
  | first :: rest => rest.foldl max first

/-- The report of a window that is too small. -/
def insufficient (windowSize : ℕ) (minWindow : ℤ) : DriftReport F where
  verdict := .insufficientData
  featurePsi := ∅
  maxPsi := none
  windowSize := windowSize
  minWindow := minWindow
  missingRate := some 0
  psiThreshold := none

/-- The report of a window, from its indices and missing rate. -/
def classified (perFeature : PyDict String (WithTop F)) (missingRate : Option ℚ)
    (windowSize : ℕ) (minWindow : ℤ) (psiThreshold : F) : DriftReport F where
  verdict := if psiThreshold ≤ maxPsi perFeature then .drift else .stable
  featurePsi := perFeature
  maxPsi := some (maxPsi perFeature)
  windowSize := windowSize
  minWindow := minWindow
  missingRate := missingRate
  psiThreshold := some psiThreshold

end Psi

section Detect

variable {V F : Type} [LinearOrder V] [Field F] [LinearOrder F] (log : F → F)

/-- `feature_drift`: a column of neither the profile nor the frame is left out. -/
def featureDrift (profile : ReferenceProfile V) (currentFrame : Frame V)
    (featureColumns : List String) : PyDict String (WithTop F) :=
  .collect featureColumns fun column =>
    match profile.get? column with
    | none => none
    | some reference =>
      if column ∈ currentFrame.columns then
        let counts := histogram reference.edges (currentFrame.rows.map fun row => row column)
        some (psi log reference.counts counts)
      else none

/-- The mean of booleans, NaN when there are none. -/
def boolMean (flags : List Bool) : Option ℚ :=
  if flags.isEmpty then none else some (flags.count true / flags.length)

/-- `frame[feature_columns].isna().any(axis=1).mean()`. -/
def missingRows (currentFrame : Frame V) (featureColumns : List String) : Py (Option ℚ) :=
  if featureColumns.all (· ∈ currentFrame.columns) then
    .ok (boolMean (currentFrame.rows.map fun row =>
      featureColumns.any fun column => (row column).isNone))
  else .error (.keyError "not in index")

def driftReport (profile : ReferenceProfile V) (currentFrame : Frame V)
    (featureColumns : List String) (minWindow : ℤ := 30) (psiThreshold : F := psiTrigger) :
    Py (DriftReport F) := do
  let windowSize := currentFrame.rows.length
  if (windowSize : ℤ) < minWindow then
    return insufficient windowSize minWindow
  let perFeature := featureDrift log profile currentFrame featureColumns
  let missing ← missingRows currentFrame featureColumns
  return classified perFeature missing windowSize minWindow psiThreshold

end Detect

end VeriPay.Drift
