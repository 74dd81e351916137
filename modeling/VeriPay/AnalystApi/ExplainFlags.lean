import VeriPay.AnalystApi.Citations
import VeriPay.AnalystApi.ResponseIdentity

/-!
When an explanation is flagged. The payload carries the raw figures of the score; the
evidence also cites the adjusted ones and the constants of the adjustments. So an
explanation without other numbers is unflagged exactly where what the customer's
verdicts and drift made of the figures comes close to a figure of the payload.
-/

namespace VeriPay.AnalystApi

open Lib Common AnalystOrchestrator

/-- The fraud probability as the customer's verdicts leave it. -/
def raisedFraud (settings : Settings) (labels : List String) (rawFraud : ℚ) : ℚ :=
  clamp01 (rawFraud +
    if labels.any isConfirmedFraud then settings.heightenedAlertAdd else 0)

/-- The anomaly score as the customer's verdicts and drift leave it. -/
def scaledAnomaly (settings : Settings) (labels : List String) (driftKind : Option String)
    (confirmedByFeedback : Bool) (rawAnomaly : ℚ) : ℚ :=
  clamp01 (rawAnomaly *
    ((if trustBoosted settings.trustBoostWindow labels then settings.trustBoostFactor else 1) *
      (if driftKind = some "gradual" ∧ confirmedByFeedback then settings.gradualDriftFactor
        else if driftKind = some "sudden" then settings.suddenDriftFactor else 1)))

/-- The payload of the check, from the answers. -/
def answerPayload (tx : TransactionInput) (scores : ModelScores) (network : NetworkAxis)
    (fusion : FusionAnswer) : JsonObj :=
  [ ("fraud_probability", .float (roundTo 4 scores.rawFraud)),
    ("anomaly_score", .float (roundTo 4 scores.rawAnomaly)),
    ("risk_score", .int fusion.unified),
    ("amount", .float tx.amount.val),
    ("network_risk_score", .float (roundTo 4 network.risk)) ]

section Fresh

variable {W : Type} (analyst : AnalystOrchestrator W)

/-- What the verdicts and a drift of this kind make of the answers may be cited next to
them. -/
def AnswersCitable (store : ProfileStore) (tx : TransactionInput) (scores : ModelScores)
    (network : NetworkAxis) (fusion : FusionAnswer) (driftKind : Option String) : Prop :=
  let labels := store.feedbackForCustomer tx.ccNum.val
  let confirmedByFeedback :=
    store.recentBenign tx.ccNum.val analyst.settings.trustBoostWindow
  AdjustmentsCitable analyst.platform
    (allowedNumberStrings analyst.platform (answerPayload tx scores network fusion))
    (roundTo 4 (raisedFraud analyst.settings labels scores.rawFraud))
    (roundTo 4 (scaledAnomaly analyst.settings labels driftKind confirmedByFeedback
      scores.rawAnomaly))
    (feedbackNumbers analyst.platform analyst.settings labels ++
      driftNumbers analyst.platform analyst.settings driftKind confirmedByFeedback)

variable {analyst} {pipeline : Pipeline W} {tx : TransactionInput}

theorem adjustedFor_anomaly (analyst : AnalystOrchestrator W) (store : ProfileStore)
    (customer : ℕ) (scores : ModelScores) (driftKind : Option String) :
    (analyst.adjustedFor store customer scores driftKind).anomaly =
      scaledAnomaly analyst.settings (store.feedbackForCustomer customer) driftKind
        (store.recentBenign customer analyst.settings.trustBoostWindow) scores.rawAnomaly := by
  simp only [adjustedFor, scaledAnomaly, feedbackAdjustment, driftAdjustment, chain]
  split_ifs <;> rfl

theorem isFigure_roundTo {q : ℚ} (h : 0 ≤ q ∧ q ≤ 1) : IsFigure (roundTo 4 q) :=
  ⟨(roundTo_unit h).1, (roundTo_unit h).2, roundTo_roundTo 4 q⟩

/-- Where neither a verdict nor a drift counts, there is nothing to object to. -/
theorem answersCitable_of_unadjusted (hreads : analyst.platform.ReadsBack) {store : ProfileStore}
    (network : NetworkAxis) (fusion : FusionAnswer) {scores : ModelScores}
    (hscores : scores.InRange) {driftKind : Option String}
    (hconfirmed : ¬ (store.feedbackForCustomer tx.ccNum.val).any isConfirmedFraud = true)
    (hboosted : ¬ trustBoosted analyst.settings.trustBoostWindow
      (store.feedbackForCustomer tx.ccNum.val) = true)
    (hgradual : ¬ (driftKind = some "gradual" ∧
      store.recentBenign tx.ccNum.val analyst.settings.trustBoostWindow = true))
    (hsudden : ¬ driftKind = some "sudden") :
    AnswersCitable analyst store tx scores network fusion driftKind where
  fraud := by
    rw [raisedFraud, if_neg hconfirmed, add_zero, clamp01_of_unit hscores.fraud_bounds]
    exact citable_figure hreads (isFigure_roundTo hscores.fraud_bounds)
      (mem_allowedNumberStrings "fraud_probability" (by simp [answerPayload]))
  anomaly := by
    rw [scaledAnomaly, if_neg hboosted, if_neg hgradual, if_neg hsudden, mul_one, mul_one,
      clamp01_of_unit hscores.anomaly_bounds]
    exact citable_figure hreads (isFigure_roundTo hscores.anomaly_bounds)
      (mem_allowedNumberStrings "anomaly_score" (by simp [answerPayload]))
  texts := by
    rw [feedbackNumbers, if_neg hconfirmed, if_neg hboosted, driftNumbers, if_neg hgradual,
      if_neg hsudden]
    simp

end Fresh

section Runs

variable {W : Type} {analyst : AnalystOrchestrator W} {pipeline : Pipeline W}
  {tx : TransactionInput}

end Runs

/-- A platform at noon that writes numbers as Python does. -/
def Platform.reading : Platform :=
  { Platform.atNoon with formatFixed := fixedText, formatFloat := shortText }

end VeriPay.AnalystApi
