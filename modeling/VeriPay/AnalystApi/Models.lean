import Mathlib.Data.Rat.Defs
import Mathlib.Algebra.Order.Field.Rat
import VeriPay.Lib.DateTime
import VeriPay.Lib.Json
import VeriPay.Common.RiskPolicy

/-!
Wire models of the analyst API. Floats are exact rationals, so every number is
finite. `Platform` collects what the service takes from the language and leaves
uninterpreted here: trigonometry, logarithm, square root, and number and date
formatting.
-/

namespace VeriPay.AnalystApi

open Lib Common

inductive Decision
  | block | reviewStealth | reviewUnusual | pass
  deriving DecidableEq, Repr

inductive RiskLevel
  | high | moderate | low
  deriving DecidableEq, Repr

def Decision.value : Decision → String
  | block => "BLOCK"
  | reviewStealth => "REVIEW_STEALTH"
  | reviewUnusual => "REVIEW_UNUSUAL"
  | pass => "PASS"

/-- A pydantic `float` field with `ge=0, le=1`. -/
abbrev UnitFloat := {q : ℚ // 0 ≤ q ∧ q ≤ 1}

def UnitFloat.validate (field : String) (q : ℚ) : Py UnitFloat :=
  if h : 0 ≤ q ∧ q ≤ 1 then .ok ⟨q, h⟩ else .error (.validationError field)

/-- A pydantic `float` field with `ge=-1, le=1`. -/
abbrev SignedUnitFloat := {q : ℚ // -1 ≤ q ∧ q ≤ 1}

/-- A pydantic `float` field with `ge=0, le=100`. -/
abbrev Percentage := {q : ℚ // 0 ≤ q ∧ q ≤ 100}

def Percentage.validate (field : String) (q : ℚ) : Py Percentage :=
  if h : 0 ≤ q ∧ q ≤ 100 then .ok ⟨q, h⟩ else .error (.validationError field)

theorem toNat_le_hundred {n : ℤ} (h : 0 ≤ n ∧ n ≤ 100) : n.toNat ≤ 100 := by
  omega

/-- The `ge=0, le=100` check on an integer. -/
def validateScore (field : String) (n : ℤ) : Py RiskScore :=
  if h : 0 ≤ n ∧ n ≤ 100 then .ok ⟨n.toNat, toNat_le_hundred h⟩ else .error (.validationError field)

structure GeoPoint where
  lat : ℚ
  lon : ℚ
  lat_bounds : -90 ≤ lat ∧ lat ≤ 90
  lon_bounds : -180 ≤ lon ∧ lon ≤ 180
  deriving DecidableEq

structure Platform where
  /-- `haversine_km`. -/
  haversineKm : GeoPoint → GeoPoint → ℚ
  /-- `math.log1p`. -/
  log1p : ℚ → ℚ
  /-- `math.sqrt`. -/
  sqrt : ℚ → ℚ
  /-- `float(text)`. -/
  parseFloat : String → Py ℚ
  /-- `int(text)`. -/
  parseInt : String → Py ℤ
  /-- `f"{x:g}"`. -/
  formatG : ℚ → String
  /-- `f"{x:.nf}"`. -/
  formatFixed : ℕ → ℚ → String
  /-- `f"{x:,.2f}"`. -/
  formatGrouped : ℚ → String
  /-- `f"{x}"` of a float. -/
  formatFloat : ℚ → String
  /-- `str(value)` of a list or an object. -/
  formatContainer : Json → String
  /-- `value.isoformat()`. -/
  isoformat : DateTime → String
  /-- `value.strftime("%Y-%m-%d %H:%M")`. -/
  formatMinutes : DateTime → String

/-- `str(value)`. -/
def Platform.str (platform : Platform) : Json → String
  | .null => "None"
  | .bool value => if value then "True" else "False"
  | .int value => toString value
  | .float value => platform.formatFloat value
  | .str value => value
  | .arr items => platform.formatContainer (.arr items)
  | .obj fields => platform.formatContainer (.obj fields)

/-- A feature vector, by column. -/
abbrev Features := List (String × ℚ)

structure TransactionInput where
  transactionId : NonEmptyStr
  ccNum : {n : ℕ // 1 ≤ n}
  amount : {q : ℚ // 0 ≤ q}
  merchant : NonEmptyStr
  category : String := ""
  timestamp : DateTime
  location : Option GeoPoint := none
  merchantLocation : Option GeoPoint := none
  mccRisk : UnitFloat := ⟨1 / 2, by norm_num⟩
  deviceTrust : SignedUnitFloat := ⟨-1, by norm_num⟩
  networkTrust : SignedUnitFloat := ⟨-1, by norm_num⟩
  newDevice : UnitFloat := ⟨0, by norm_num⟩
  impossibleTravel : UnitFloat := ⟨0, by norm_num⟩
  modelFeatures : Option Features := none

structure FeatureRow where
  name : String
  value : String
  customerBaseline : String := "—"
  unit : String := ""
  deriving DecidableEq

structure ContributorShare where
  feature : String
  contributionPct : Percentage

structure XgbContribution where
  feature : String
  shapValue : ℚ

structure RecentTransaction where
  time : String
  amount : ℚ
  merchant : String
  category : String
  location : String

/-- One adjustment as the response reports it. -/
structure AdjustmentItem where
  kind : String
  effect : String
  description : String
  anomalyFactor : ℚ := 1
  fraudAdd : ℚ := 0

structure ScoreResponse where
  transactionId : NonEmptyStr
  ccNum : ℕ
  decision : Decision
  riskLevel : RiskLevel
  verificationAction : String
  action : DecisionAction
  riskBand : RiskBand
  riskTier : RiskTier
  fusedRiskScore : RiskScore
  fraudProbability : UnitFloat
  anomalyScore : UnitFloat
  rawFraudProbability : UnitFloat
  rawAnomalyScore : UnitFloat
  modelAvailable : Bool
  featureMode : String
  adjustments : List AdjustmentItem
  features : List FeatureRow
  features16 : List FeatureRow
  anomalyTopContributors : List ContributorShare
  xgboostFeatureContributions : List XgbContribution
  recentTransactions : List RecentTransaction
  networkRiskScore : UnitFloat
  networkAvailable : Bool
  networkFindings : List String
  networkEgo : Option JsonObj
  networkCommunity : Option JsonObj

structure CaseReport where
  verdict : String
  evidence : List String
  patternMatch : String
  recommendedAction : String
  crosschecked : Bool := false
  hallucinationFlagged : Bool := false

structure ExplainResponse where
  transactionId : NonEmptyStr
  ccNum : ℕ
  riskLevel : RiskLevel
  verificationAction : String
  caseReport : CaseReport
  score : ScoreResponse

structure AlertItem where
  transactionId : NonEmptyStr
  ccNum : ℕ
  customerName : String
  amount : ℚ
  currency : String := "USD"
  merchant : String
  time : String
  decision : Decision
  riskLevel : RiskLevel
  fraudProbability : UnitFloat
  anomalyScore : UnitFloat

structure FeedbackInput where
  transactionId : NonEmptyStr
  ccNum : {n : ℕ // 1 ≤ n}
  analystDecision : NonEmptyStr
  analystId : String := "analyst"
  notes : String := ""
  decision : Decision := .pass

structure FeedbackResult where
  status : String
  transactionId : NonEmptyStr
  recorded : Bool := true
  note : String := ""
  deriving DecidableEq

end VeriPay.AnalystApi
