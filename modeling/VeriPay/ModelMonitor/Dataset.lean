import VeriPay.Lib.Rounding
import VeriPay.ModelMonitor.Drift
import VeriPay.ModelMonitor.Labels
import VeriPay.ModelMonitor.Registry

/-!
The dataset of a retrain: the observations with a usable label, mapped back to the
columns of the training data and appended to the base rows.
-/

namespace VeriPay.ModelMonitor

open Lib Common

/-- An observation of the window, with its own label. -/
structure StoredObservation extends Observation ℚ where
  transactionId : NonEmptyStr
  label : Option ReviewLabel := none

/-- `_label_to_flag`. -/
def labelToFlag (label : Option String) : Option ℕ :=
  if label = some "CONFIRMED_FRAUD" then some 1
  else if label = some "LEGITIMATE" ∨ label = some "FALSE_POSITIVE" then some 0
  else none

/-- The flag of an observation: the fed-back label first, then its own. -/
def labelFlag (feedbackLabels : LocalLabels) (observation : StoredObservation) : Option ℕ :=
  match labelToFlag (feedbackLabels observation.transactionId.val) with
  | some flag => some flag
  | none => labelToFlag (observation.label.map ReviewLabel.value)

def collectLabeled (observations : List StoredObservation) (feedbackLabels : LocalLabels) :
    List (StoredObservation × ℕ) :=
  observations.filterMap fun observation =>
    (labelFlag feedbackLabels observation).map fun flag => (observation, flag)

/-- A cell of the dataset; a float `none` is NaN. -/
inductive Cell
  | text (value : String)
  | int (value : ℤ)
  | float (value : Option ℚ)

abbrev Row := List (String × Cell)

/-- What building a dataset calls of Python's library: `math.expm1`, and the reader and
writer of a table with a header. -/
structure DatasetLib (C : Type) where
  expm1 : ℚ → Py ℚ
  readRows : C → Py (List String × List Row)
  writeRows : List String → List Row → Py C

/-- `_MCC_BY_RISK`. -/
def mccByRisk : List (ℚ × ℕ) :=
  [(10 / 100, 5411), (10 / 100, 4900), (20 / 100, 4121), (20 / 100, 5412), (25 / 100, 5712),
    (30 / 100, 5814), (30 / 100, 7995), (35 / 100, 5691), (40 / 100, 5311), (45 / 100, 5812),
    (55 / 100, 4814), (70 / 100, 5968), (80 / 100, 4829), (85 / 100, 6011)]

/-- `_nearest_mcc`: the first of the nearest. Nothing is nearer than NaN. -/
def nearestMcc (mccRisk : Option ℚ) : ℕ :=
  match mccRisk with
  | none => 5411
  | some mccRisk =>
    (mccByRisk.foldl
      (fun best pair => if |pair.1 - mccRisk| < |best.1 - mccRisk| then pair else best)
      (10 / 100, 5411)).2

/-- A float that has to be a number. -/
def asNumber : Option ℚ → Py ℚ
  | some value => .ok value
  | none => .error (.valueError "cannot convert float NaN to integer")

namespace StoredObservation

variable (observation : StoredObservation)

/-- `features.get(column, default)`. -/
def featureD (column : String) (default : ℚ) : Option ℚ :=
  (observation.features.get? column).getD (some default)

/-- `int(features.get(column, default))`. -/
def intFeature (column : String) (default : ℚ := 0) : Py Cell := do
  let value ← asNumber (observation.featureD column default)
  return .int (truncate value)

/-- `round(float(features.get(column, 0.0)), digits)`. -/
def roundedFeature (column : String) (digits : ℕ) : Cell :=
  .float ((observation.featureD column 0).map (roundTo digits))

end StoredObservation

def observationToRow (expm1 : ℚ → Py ℚ) (observation : StoredObservation) (flag : ℕ) :
    Py Row := do
  let amountLog ← asNumber (observation.featureD "amount_log" 0)
  let amountMinor ← expm1 amountLog
  let hourOfDay ← observation.intFeature "hour_of_day"
  let weekend ← observation.intFeature "weekend"
  let velocity5m ← observation.intFeature "velocity_5m"
  let deviceTrust ← observation.intFeature "device_trust" (-1)
  let networkTrust ← observation.intFeature "network_trust" (-1)
  let impossibleTravel ← observation.intFeature "impossible_travel"
  let newDevice ← observation.intFeature "new_device"
  return [("transaction_id", .text observation.transactionId.val),
    ("amount_minor", .int (roundEven amountMinor)),
    ("amount_log", observation.roundedFeature "amount_log" 6),
    ("mcc", .int (nearestMcc (observation.featureD "mcc_risk" 0))),
    ("mcc_risk", observation.roundedFeature "mcc_risk" 6),
    ("hour_of_day", hourOfDay),
    ("weekend", weekend),
    ("velocity_5m", velocity5m),
    ("device_trust", deviceTrust),
    ("network_trust", networkTrust),
    ("impossible_travel", impossibleTravel),
    ("new_device", newDevice),
    ("distance_km", observation.roundedFeature "distance_km" 2),
    ("is_fraud", .int flag)]

/-- `_DATASET_COLUMNS`. -/
def datasetColumns : List String :=
  ["transaction_id", "amount_minor", "amount_log", "mcc", "mcc_risk", "hour_of_day", "weekend",
    "velocity_5m", "device_trust", "network_trust", "impossible_travel", "new_device",
    "distance_km", "is_fraud"]

/-- The base rows followed by the labeled ones, under the columns of the base. -/
def augmentedRows (fieldnames : List String) (base labeled : List Row) : List Row :=
  base ++ labeled.map fun row =>
    fieldnames.map fun key => (key, (row.lookup key).getD (.text ""))

def buildAugmentedDataset {C : Type} (lib : DatasetLib C) (baseCsv : Path)
    (labeledRows : List Row) (output : Path) : Effect (World C) ℕ := do
  let world ← get
  match world.files baseCsv with
  | none => throw (.other "FileNotFoundError")
  | some text =>
    let (header, base) ← (liftM (lib.readRows text) : Effect (World C) (List String × List Row))
    let fieldnames := if header.isEmpty then datasetColumns else header
    let content ← (liftM (lib.writeRows fieldnames (augmentedRows fieldnames base labeledRows)) :
      Effect (World C) C)
    modify fun world => { world with files := Function.update world.files output (some content) }
    return labeledRows.length

end VeriPay.ModelMonitor
