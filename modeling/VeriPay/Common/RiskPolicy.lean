import Mathlib.Data.Rat.Defs
import Mathlib.Algebra.Order.Field.Rat
import Mathlib.Tactic.Linarith
import VeriPay.Lib.PyError
import VeriPay.Common.Enums

/-!
The deterministic risk policy: the four tiers of the 0-100 score, the policy
each tier carries, and the projections between tiers and the legacy bands.
-/

namespace VeriPay.Common

open Lib

/-- A pydantic `int` field with `ge=0, le=100`. -/
abbrev RiskScore := {n : ℕ // n ≤ 100}

/-- `max(0, min(100, n))`. -/
def clampScore (n : ℤ) : RiskScore := ⟨(max 0 (min 100 n)).toNat, by omega⟩

structure TierPolicy where
  tier : RiskTier
  minimumScore : ℕ
  maximumScore : ℕ
  friction : FrictionType
  workflow : VerificationWorkflow
  timeoutSeconds : ℕ
  timeoutFallback : TimeoutFallback
  fallbackAction : DecisionAction
  temporaryLock : Bool := false
  analystEscalation : Bool := false
  deriving DecidableEq, Repr

def tierPolicies : List TierPolicy :=
  [ { tier := .noRisk
      minimumScore := 0
      maximumScore := 5
      friction := .none
      workflow := .silentPass
      timeoutSeconds := 0
      timeoutFallback := .standardAudit
      fallbackAction := .allow },
    { tier := .low
      minimumScore := 6
      maximumScore := 25
      friction := .push
      workflow := .pushApproveDeny
      timeoutSeconds := 30
      timeoutFallback := .autoDecline
      fallbackAction := .decline },
    { tier := .moderate
      minimumScore := 26
      maximumScore := 50
      friction := .biometric
      workflow := .pushBiometric
      timeoutSeconds := 30
      timeoutFallback := .autoDeclineAndLock
      fallbackAction := .decline
      temporaryLock := true },
    { tier := .high
      minimumScore := 51
      maximumScore := 100
      friction := .multiFactor
      workflow := .exactAmountBiometricSwipe
      timeoutSeconds := 30
      timeoutFallback := .liveAnalystEscalation
      fallbackAction := .review
      analystEscalation := true } ]

/-- The tier boundaries alone, without the source's range check. -/
def classifyScore (score : ℚ) : RiskTier :=
  if score ≤ 5 then .noRisk
  else if score ≤ 25 then .low
  else if score ≤ 50 then .moderate
  else .high

/-- The place of a tier, from `NO_RISK` up. -/
def RiskTier.level : RiskTier → ℕ
  | .noRisk => 0
  | .low => 1
  | .moderate => 2
  | .high => 3

/-- A higher score is never classified lower. -/
theorem classifyScore_mono {score score' : ℚ} (h : score ≤ score') :
    (classifyScore score).level ≤ (classifyScore score').level := by
  unfold classifyScore
  split_ifs <;> first | decide | (exfalso; linarith)

def tierForScore (score : ℚ) : Py RiskTier :=
  if 0 ≤ score ∧ score ≤ 100 then .ok (classifyScore score)
  else .error (.valueError "Risk score must be between 0 and 100")

/-- The range check never fires on a validated score. -/
theorem tierForScore_riskScore (score : RiskScore) :
    tierForScore (score.val : ℚ) = .ok (classifyScore (score.val : ℚ)) := by
  have hlow : (0 : ℚ) ≤ (score.val : ℚ) := Nat.cast_nonneg _
  have hhigh : (score.val : ℚ) ≤ 100 := by exact_mod_cast score.property
  simp only [tierForScore, hlow, hhigh, and_self, if_true]

/-- `next(policy for policy in TIER_POLICIES if policy.tier == tier)`: every
tier has a policy, so the generator is never exhausted. -/
def policyForTier (tier : RiskTier) : TierPolicy :=
  (tierPolicies.find? (fun policy => policy.tier = tier)).get (by cases tier <;> rfl)

@[simp] theorem policyForTier_tier (tier : RiskTier) : (policyForTier tier).tier = tier := by
  cases tier <;> rfl

def tierFromBand : RiskBand → RiskTier
  | .approve => .low
  | .verify => .moderate
  | .block => .high

def bandForTier : RiskTier → RiskBand
  | .noRisk => .approve
  | .low => .approve
  | .moderate => .verify
  | .high => .block

/-- Projecting a band to a tier and back loses nothing; the other round trip
merges `noRisk` into `low`. -/
@[simp] theorem bandForTier_tierFromBand (band : RiskBand) :
    bandForTier (tierFromBand band) = band := by
  cases band <;> rfl

theorem tierFromBand_ne_noRisk (band : RiskBand) : tierFromBand band ≠ .noRisk := by
  cases band <;> decide

theorem tierFromBand_bandForTier_iff (tier : RiskTier) :
    tierFromBand (bandForTier tier) = tier ↔ tier ≠ .noRisk := by
  cases tier <;> decide

def processingPathForRail (rail : PaymentRail) : ProcessingPath :=
  if rail = .card ∨ rail = .iso8583 then .fast else .secondary

def allowedActionsForTier : RiskTier → List DecisionAction
  | .noRisk => [.allow, .monitor]
  | .low => [.allow, .challenge, .decline]
  | .moderate => [.challenge, .review, .decline]
  | .high => [.review, .decline, .reverse]

theorem allowedActionsForTier_ne_nil (tier : RiskTier) : allowedActionsForTier tier ≠ [] := by
  cases tier <;> simp [allowedActionsForTier]

end VeriPay.Common
