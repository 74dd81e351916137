import VeriPay.Lib.FloatValue
import VeriPay.Lib.NumberText
import VeriPay.AnalystApi.Models

/-!
From the decision engine's action and tier to the analyst vocabulary, and the check
that a generated text cites no number its payload does not carry.
-/

namespace VeriPay.AnalystApi

open Lib Common

def mapDecision : DecisionAction → Decision
  | .allow => .pass
  | .monitor => .reviewUnusual
  | .challenge => .reviewUnusual
  | .review => .reviewStealth
  | .decline => .block
  | .reverse => .block

def mapRiskLevel : RiskTier → RiskLevel
  | .high => .high
  | .moderate => .moderate
  | .low => .low
  | .noRisk => .low

/-- Deterministic verification action for the decision. -/
def verificationActionText (decision : Decision) (tier : RiskTier) : String :=
  match decision with
  | .pass => "No action."
  | .reviewUnusual =>
    if tier = .moderate then
      "Hold payment for 5 minutes; push notification 'Was this you?'; " ++
        "release if confirmed; escalate if no response."
    else "Soft check: confirm amount/date/vendor, then release."
  | .reviewStealth => "Hold payment; require biometric; notify analyst."
  | .block =>
    "Hold payment; require biometric (fingerprint/face); notify analyst immediately."

/-- How severe a decision is: `PASS`, `REVIEW_UNUSUAL`, `REVIEW_STEALTH`, `BLOCK`. -/
def Decision.severity : Decision → ℕ
  | .pass => 0
  | .reviewUnusual => 1
  | .reviewStealth => 2
  | .block => 3

/-- `extract_numbers`. -/
def extractNumbers (text : String) : List (List Char) := numberTokens text.toList

/-- The numbers in the payload's values, truth values apart. -/
def allowedNumberStrings (platform : Platform) (payload : JsonObj) : List (List Char) :=
  payload.flatMap fun
    | (_, .bool _) => []
    | (_, value) => extractNumbers (platform.str value)

def wholeNumberFloor : ℤ := 200

/-- `float(token)`. -/
def floatOf (token : List Char) : FloatValue := .ofRat (tokenValue token)

/-- The float `0.05`. -/
def tolerance : ℚ := FloatValue.nearest (5 / 100)

theorem tolerance_nonneg : 0 ≤ tolerance := FloatValue.nearest_nonneg (by norm_num)

/-- The number itself, or one at most five percent of it away. -/
def matchesAllowed (token : List Char) (allowed : List (List Char)) : Bool :=
  token ∈ allowed ∨
    allowed.any fun candidate => FloatValue.isWithin tolerance (floatOf candidate) (floatOf token)

/-- Whole numbers below the floor count as incidental. -/
def isChecked (token : List Char) (floor : ℤ := wholeNumberFloor) : Bool :=
  '.' ∈ token ∨ (floatOf token).reaches floor

/-- Whether there was something to check against, and whether a number failed. -/
def crosscheckNumbers (platform : Platform) (text : String) (payload : JsonObj)
    (floor : ℤ := wholeNumberFloor) : Bool × Bool :=
  let allowed := allowedNumberStrings platform payload
  if allowed = [] then (false, false)
  else (true, (extractNumbers text).any fun token =>
    isChecked token floor && !matchesAllowed token allowed)

end VeriPay.AnalystApi
