import VeriPay.Lib.PyText
import VeriPay.AnalystApi.Models

/-!
Live, per-transaction score adjustments: what the analyst verdicts on a customer
and the drift of its behaviour do to the two model scores.
-/

namespace VeriPay.AnalystApi

open Lib Common

def benignLabels : List String :=
  ["false_alarm", "false_positive", "customer_confirmed_legitimate", "legitimate"]

def confirmedLabels : List String := ["confirmed_fraud", "confirmed_fraud?"]

def isBenign (label : String) : Bool := lower (strip label) ∈ benignLabels

def isConfirmedFraud (label : String) : Bool := lower (strip label) ∈ confirmedLabels

def toReviewLabel (label : String) : ReviewLabel :=
  let normalized := lower (strip label)
  if normalized ∈ ["confirmed_fraud", "confirmed_fraud?"] then .confirmedFraud
  else if normalized ∈ ["false_alarm", "false_positive"] then .falsePositive
  else if normalized ∈ ["legitimate", "customer_confirmed_legitimate"] then .legitimate
  else .needsReview

theorem notMem_benignLabels : ∀ label ∈ confirmedLabels, label ∉ benignLabels := by decide

/-- No verdict is both. -/
theorem not_isBenign_of_isConfirmedFraud {label : String} (h : isConfirmedFraud label = true) :
    isBenign label = false :=
  decide_eq_false (notMem_benignLabels _ (of_decide_eq_true h))

structure FeedbackOutcome where
  anomalyFactor : ℚ
  fraudAdd : ℚ
  effect : String
  description : String

structure DriftOutcome where
  anomalyFactor : ℚ
  effect : String
  description : String

/-- The combined result of the feedback and drift chain. -/
structure Adjustment where
  anomalyFactor : ℚ
  fraudAdd : ℚ

/-- `items[-n:]`, which is the whole list for `n = 0`. -/
def lastItems {α : Type} (n : ℕ) (items : List α) : List α :=
  if n = 0 then items else items.drop (items.length - n)

def trustBoosted (window : ℕ) (labels : List String) : Bool :=
  window ≤ (lastItems window labels).length ∧ (lastItems window labels).all isBenign

/-- `labels` are the customer's verdicts, oldest first. -/
def feedbackAdjustment (platform : Platform) (labels : List String) (window : ℕ)
    (trustFactor add : ℚ) : FeedbackOutcome :=
  let confirmed := labels.any isConfirmedFraud
  let boosted := trustBoosted window labels
  let alertText := "Recent analyst feedback confirmed fraud on this customer; " ++
    "fraud probability +" ++ platform.formatFixed 2 add ++ "."
  let boostText := "Last " ++ toString window ++ " analyst verdicts for this customer were " ++
    "benign; anomaly score ×" ++ platform.formatFloat trustFactor ++ "."
  { anomalyFactor := if boosted then trustFactor else 1
    fraudAdd := if confirmed then add else 0
    effect :=
      if confirmed then "heightened_alert"
      else if boosted then "trust_boost"
      else "no_adjustment"
    description :=
      if confirmed then if boosted then alertText ++ " " ++ boostText else alertText
      else if boosted then boostText
      else "No recent feedback; no adjustment." }

def driftAdjustment (platform : Platform) (driftKind : Option String)
    (confirmedByFeedback : Bool) (gradualFactor suddenFactor : ℚ) : DriftOutcome :=
  if driftKind = some "gradual" ∧ confirmedByFeedback then
    { anomalyFactor := gradualFactor
      effect := "gradual_drift"
      description := "Customer relocated / changed lifestyle (gradual drift) and it was " ++
        "confirmed by feedback; anomaly score ×" ++ platform.formatFloat gradualFactor ++ "." }
  else if driftKind = some "sudden" then
    { anomalyFactor := suddenFactor
      effect := "sudden_drift"
      description := "Sudden drift: location jumped hundreds of kilometres in minutes; " ++
        "anomaly score ×" ++ platform.formatFloat suddenFactor ++ "." }
  else
    { anomalyFactor := 1
      effect := "no_adjustment"
      description := "No drift; no adjustment." }

def chain (feedback : FeedbackOutcome) (drift : DriftOutcome) : Adjustment where
  anomalyFactor := feedback.anomalyFactor * drift.anomalyFactor
  fraudAdd := feedback.fraudAdd

end VeriPay.AnalystApi
