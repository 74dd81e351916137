import VeriPay.AnalystApi.Features
import VeriPay.Lib.Rounding

/-!
Supervised scoring. The trained model answers where its artifact could be loaded; a weighted sum
stands in for it otherwise. The sum rises with every signal it weighs, and with distrust: a trust
signal that is missing or unknown counts for more than one that is trusted, and for less than one
that is not.
-/

namespace VeriPay.SupervisedModel

open Lib Common AnalystApi

def heuristicWeights : List (String × ℚ) :=
  [("amount_log", 2), ("mcc_risk", 30), ("velocity_5m", 2), ("impossible_travel", 20),
    ("new_device", 15), ("hour_of_day", 4 / 10), ("weekend", 3), ("distance_km", 1 / 100)]

/-- What an untrusted and what an unknown signal adds. -/
def trustRisk : List (String × ℚ × ℚ) := [("device_trust", 12, 4), ("network_trust", 10, 3)]

structure ScoreRequest where
  transactionId : NonEmptyStr
  features : Features

structure ScoreResponse where
  transactionId : String
  fraudProbability : UnitFloat
  riskScore : RiskScore
  modelName : String
  modelVersion : String
  modelAvailable : Bool
  fallback : Bool := false

/-- A loaded model: the second column of `predict_proba` on one row, and the version of the
sidecar. -/
structure ModelBundle where
  predictProba : List ℚ → ℚ
  version : String

/-- The ordered model matrix; missing features are 0. -/
def featureVector (features : Features) : List ℚ := featureColumns.map features.getD

/-- What a trust signal of the given value adds. -/
def trustTerm (untrusted unknown value : ℚ) : ℚ :=
  if value = 0 then untrusted else if value < 0 then unknown else 0

/-- The sum before it is rounded. A missing trust signal is unknown. -/
def heuristicTotal (features : Features) : ℚ :=
  (heuristicWeights.map fun (column, weight) => features.getD column * weight).sum +
    (trustRisk.map fun (column, untrusted, unknown) =>
      trustTerm untrusted unknown ((features.get? column).getD (-1))).sum

def heuristicRisk (features : Features) : RiskScore :=
  clampScore (roundEven (heuristicTotal features))

/-- `None` for a bundle without an artifact. -/
def evaluate (bundle : Option ModelBundle) (request : ScoreRequest) : Py ScoreResponse :=
  match bundle with
  | none => do
    let riskScore := heuristicRisk request.features
    let fraudProbability ←
      UnitFloat.validate "fraud_probability" (roundTo 4 ((riskScore.val : ℚ) / 100))
    return {
      transactionId := request.transactionId.val
      fraudProbability
      riskScore
      modelName := "supervised-heuristic"
      modelVersion := "fallback"
      modelAvailable := false
      fallback := true }
  | some model => do
    let probability := model.predictProba (featureVector request.features)
    let fraudProbability ← UnitFloat.validate "fraud_probability" (roundTo 4 probability)
    return {
      transactionId := request.transactionId.val
      fraudProbability
      riskScore := clampScore (roundEven (probability * 100))
      modelName := "supervised"
      modelVersion := model.version
      modelAvailable := true }

section Heuristic

/-- How little a trust signal is trusted: not at all, unknown, or trusted. -/
def distrust (features : Features) (column : String) : ℕ :=
  let value := (features.get? column).getD (-1)
  if value = 0 then 2 else if value < 0 then 1 else 0

end Heuristic

end VeriPay.SupervisedModel
