import VeriPay.AnalystApi.Service

/-!
The explanation of a score: the transaction is scored, or its retained score taken,
and the case report is generated from that score, the customer's history and the
investigation service's summary.
-/

namespace VeriPay.AnalystApi

open Lib Common

/-- What the summary of an investigation comes to as a text. -/
def summaryText (platform : Platform) (investigation : JsonObj) : String :=
  platform.str (investigation.getD "summary" (.str ""))

def scoreEvidence (platform : Platform) (score : ScoreResponse) : List String :=
  [ "Fraud probability " ++ platform.formatFixed 4 score.rawFraudProbability.val ++
      " (adjusted " ++ platform.formatFixed 4 score.fraudProbability.val ++ ").",
    "Anomaly score " ++ platform.formatFixed 4 score.rawAnomalyScore.val ++
      " (adjusted " ++ platform.formatFixed 4 score.anomalyScore.val ++ ").",
    "Unified risk score " ++ toString score.fusedRiskScore.val ++ "/100 (" ++
      score.riskTier.value ++ ")." ] ++
  (score.adjustments.map AdjustmentItem.description).filter (· ≠ "")

/-- The graph findings the analyst sees. -/
def networkEvidence (platform : Platform) (score : ScoreResponse) : List String :=
  if score.networkAvailable then
    ("Network risk score " ++ platform.formatFixed 4 score.networkRiskScore.val ++
      " (graph axis available).") :: score.networkFindings
  else []

def explainEvidence (platform : Platform) (score : ScoreResponse) (summary : String) :
    List String :=
  scoreEvidence platform score ++ (if summary = "" then [] else [summary]) ++
    networkEvidence platform score

def patternMatch (score : ScoreResponse) : String :=
  if 6 / 10 ≤ score.fraudProbability.val ∧ 6 / 10 ≤ score.anomalyScore.val then
    "Card testing or account-takeover pattern (unusual AND matches known fraud)."
  else if 6 / 10 ≤ score.anomalyScore.val then
    "Unusual behaviour but no known-fraud pattern match (likely traveller/holiday)."
  else if 6 / 10 ≤ score.fraudProbability.val then
    "Matches a known-fraud pattern while appearing normal (stealth)."
  else "None identified."

/-- The pattern, unless the graph axis is the dominant driver. -/
def explainPattern (score : ScoreResponse) : String :=
  if score.networkAvailable ∧
      max score.rawFraudProbability.val score.rawAnomalyScore.val ≤ score.networkRiskScore.val ∧
      0 < score.networkRiskScore.val then
    "Network-connected risk: this customer shares merchant(s) with " ++
      "confirmed-fraud accounts — coordinated-fraud signal from the " ++
      "graph axis (PLAN §12)."
  else patternMatch score

def verdictPhrase : Decision → String
  | .block => "transaction frozen and escalated to an analyst."
  | .reviewStealth => "flagged for analyst review (appears normal but matches fraud)."
  | .reviewUnusual => "held for a soft verification check."
  | .pass => "no action required."

/-- The figures the generated text may cite. -/
def crosscheckPayload (tx : TransactionInput) (score : ScoreResponse) : JsonObj :=
  [ ("fraud_probability", .float score.rawFraudProbability.val),
    ("anomaly_score", .float score.rawAnomalyScore.val),
    ("risk_score", .int score.fusedRiskScore.val),
    ("amount", .float tx.amount.val),
    ("network_risk_score", .float score.networkRiskScore.val) ]

/-- The text whose numbers are checked. -/
def crosscheckText (platform : Platform) (score : ScoreResponse) (summary : String) : String :=
  score.decision.value ++ " " ++ summary ++ " " ++
    " ".intercalate (explainEvidence platform score summary)

def caseReport (platform : Platform) (tx : TransactionInput) (score : ScoreResponse)
    (summary : String) : CaseReport :=
  let checked :=
    crosscheckNumbers platform (crosscheckText platform score summary) (crosscheckPayload tx score)
  { verdict := score.decision.value ++ " — " ++ verdictPhrase score.decision
    evidence := explainEvidence platform score summary
    patternMatch := explainPattern score
    recommendedAction := score.verificationAction
    crosschecked := checked.1
    hallucinationFlagged := checked.2 }

/-- The explanation names the request, the score what is retained. -/
def explainResponse (platform : Platform) (tx : TransactionInput) (score : ScoreResponse)
    (investigation : JsonObj) : ExplainResponse where
  transactionId := tx.transactionId
  ccNum := tx.ccNum.val
  riskLevel := score.riskLevel
  verificationAction := score.verificationAction
  caseReport := caseReport platform tx score (summaryText platform investigation)
  score

def investigatePayload (tx : TransactionInput) (score : ScoreResponse)
    (prior : List StoredTransaction) : InvestigatePayload where
  transactionId := tx.transactionId
  amount := tx.amount.val
  merchant := tx.merchant
  category := tx.category
  transactionHistory := (lastItems 20 prior).map fun h => (h.amount, h.merchant)
  riskScore := score.fusedRiskScore
  decision := score.decision
  ccNum := tx.ccNum.val

/-- Retain the explanation for lookups. -/
def Pipeline.retainExplain {W : Type} (result : ExplainResponse) (pipeline : Pipeline W) :
    Pipeline W :=
  { pipeline with
    scoredExplain :=
      Function.update pipeline.scoredExplain result.transactionId.val (some result) }

namespace AnalystOrchestrator

variable {W : Type} (self : AnalystOrchestrator W)

/-- What `explain` does with a score, retained or new. -/
def explainScored (tx : TransactionInput) (score : ScoreResponse) :
    Effect (Pipeline W) ExplainResponse := do
  let pipeline ← get
  let history ← liftM (pipeline.store.history tx.ccNum.val)
  -- the transaction just scored is dropped, so that prior data is described
  let prior := history.filter fun h => h.transactionId ≠ tx.transactionId
  let investigation ← Pipeline.call (self.client.investigate (investigatePayload tx score prior))
  let result := explainResponse self.platform tx score investigation
  modify (Pipeline.retainExplain result)
  return result

def explain (tx : TransactionInput) : Effect (Pipeline W) ExplainResponse := do
  let score ← self.score tx
  self.explainScored tx score

end AnalystOrchestrator

end VeriPay.AnalystApi
