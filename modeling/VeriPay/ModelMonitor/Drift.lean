import VeriPay.Drift.Detect

/-!
The model monitor's drift detection over observations. It mirrors the one over data
frames; an observation that lacks a feature is counted with the reading zero.
-/

namespace VeriPay.ModelMonitor

open Lib Drift

/-- An observation's features; `none` is NaN. -/
structure Observation (V : Type) where
  features : PyDict String (Option V)

def featureColumns : List String :=
  ["amount_log", "mcc_risk", "velocity_5m", "device_trust", "network_trust",
    "impossible_travel", "new_device", "hour_of_day", "weekend", "distance_km"]

section Drift

variable {V F : Type} [LinearOrder V] [Zero V] [Field F] [LinearOrder F]

/-- `column not in observation.features`. -/
def Observation.lacks (observation : Observation V) (column : String) : Bool :=
  (observation.features.get? column).isNone

/-- `observation.features.get(column, 0.0)`. -/
def Observation.reading (observation : Observation V) (column : String) : Option V :=
  (observation.features.get? column).getD (some 0)

/-- `psi`, which mirrors the one of `ml/drift`. -/
def psi (log : F → F) (referenceCounts currentCounts : List ℕ) : WithTop F :=
  stabilityIndex epsilon log (referenceCounts.map Nat.cast) (currentCounts.map Nat.cast)

/-- `_feature_values`: the readings of a column and its missing rate. -/
def featureValues (observations : List (Observation V)) (column : String) : List (Option V) × ℚ :=
  (observations.map fun observation => observation.reading column,
    observations.countP (fun observation => observation.lacks column) /
      (max observations.length 1 : ℕ))

variable (log : F → F)

def featureDrift (profile : ReferenceProfile V) (observations : List (Observation V))
    (columns : List String := featureColumns) : PyDict String (WithTop F) × ℚ :=
  let perFeature := .collect columns fun column =>
    (profile.get? column).map fun reference =>
      psi log reference.counts (histogram reference.edges (featureValues observations column).1)
  let missingCount : ℕ := (columns.map fun column =>
    match profile.get? column with
    | none => 0
    | some _ => observations.countP fun observation => observation.lacks column).sum
  let missingRate : ℚ := missingCount / (max (observations.length * columns.length) 1 : ℕ)
  (perFeature, missingRate)

def driftReport (profile : ReferenceProfile V) (observations : List (Observation V))
    (columns : List String := featureColumns) (minWindow : ℤ := 30)
    (psiThreshold : F := psiTrigger) : DriftReport F :=
  let windowSize := observations.length
  if (windowSize : ℤ) < minWindow then insufficient windowSize minWindow
  else
    let (perFeature, missingRate) := featureDrift log profile observations columns
    classified perFeature (some missingRate) windowSize minWindow psiThreshold

end Drift

end VeriPay.ModelMonitor
