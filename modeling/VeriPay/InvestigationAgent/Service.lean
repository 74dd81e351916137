import VeriPay.Common.PiiRedactor
import VeriPay.Common.RiskPolicy

/-!
The investigation agent: a request's transaction is redacted, its history cut to the
last thirty days, and a provider asked for a summary. Floating-point numbers, and what
the redactor calls of Python's library, are parameters.
-/

namespace VeriPay.InvestigationAgent

open Lib Common

structure LlmExplanation where
  summary : String
  regulatoryReasonCodes : List String := []
  modelName : String
  promptVersion : String
  generatedAt : DateTime
  fallback : Bool := false

abbrev Record (F : Type) := Object (Scalar F)

structure InvestigationRequest (F : Type) where
  transactionId : NonEmptyStr
  transaction : Record F
  transactionHistory : List (Record F) := []
  riskScore : RiskScore
  macroContext : Record F
  promptVersion : String := "fraud-explanation-v1"

/-- The `dict` a provider is given, by its keys. -/
structure Context (F : Type) where
  transaction : Record F
  baseline30d : List (Record F)
  riskScore : RiskScore
  macroContext : Record F

structure LocalLlmProvider (F : Type) where
  modelName : String
  explain : Context F → Py String

variable {F : Type}

/-- `f"{baseline}"`, the `repr` of the list of events. -/
def baselineText (texts : Texts F) (baseline : List (Record F)) : String :=
  pyStr texts (.list (baseline.map Object.payload))

def deterministicSummary (texts : Texts F) (context : Context F) : String :=
  "Risk score " ++ toString context.riskScore.val ++ "/100; 30-day baseline contains " ++
    baselineText texts context.baseline30d ++ " transactions; macro context fields: " ++
      toString context.macroContext.fields.length ++ "."

def deterministicLocalLlmProvider (texts : Texts F) : LocalLlmProvider F where
  modelName := "local-governed-explainer"
  explain context := .ok (deterministicSummary texts context)

def reasonCodes (score : RiskScore) (baselineCount : ℕ) (macroContext : Record F) : List String :=
  let reasons :=
    (if 50 < score.val then ["RISK_SCORE_HIGH"]
      else if 25 < score.val then ["RISK_SCORE_MODERATE"]
      else if 5 < score.val then ["RISK_SCORE_LOW"]
      else []) ++
    (if baselineCount = 0 then ["BASELINE_UNAVAILABLE"] else []) ++
    (if macroContext.fields ≠ [] then ["MACRO_CONTEXT_CONSIDERED"] else [])
  if reasons = [] then ["NO_ADVERSE_FACTOR"] else reasons

/-- `event.get("occurred_at") or event.get("timestamp")`. -/
def timeEntry (texts : Texts F) (event : Record F) : Option (Payload (Scalar F)) :=
  match event.get? "occurred_at" with
  | some value => if truthy texts value then some value else event.get? "timestamp"
  | none => event.get? "timestamp"

def eventTime (texts : Texts F) (event : Record F) : Option DateTime :=
  match timeEntry texts event with
  | some (.leaf (.datetime value)) => some value.orUtc
  | _ => none

/-- An event without a time is kept. Both times are aware, so they can be ordered. -/
def inWindow (texts : Texts F) (cutoff : DateTime) (event : Record F) : Bool :=
  match eventTime texts event with
  | none => true
  | some occurredAt => cutoff.instant ≤ occurredAt.instant

/-- `current - timedelta(days=30)`. -/
def cutoffOf (now : DateTime) : Py DateTime :=
  now.orUtc.addMicros (-(30 * DateTime.microsPerDay))

/-- The context `evaluate` builds. -/
def contextOf (lib : RedactorLib F) (redactor : DeterministicPiiRedactor)
    (request : InvestigationRequest F) (cutoff : DateTime) : Context F where
  transaction := (redactor.redact lib request.transaction).payload
  baseline30d := request.transactionHistory.filter (inWindow lib.texts cutoff)
  riskScore := request.riskScore
  macroContext := request.macroContext

/-- Explain a model result. `now` is the caller's or the clock's time. -/
def evaluate (lib : RedactorLib F) (request : InvestigationRequest F)
    (redactor : DeterministicPiiRedactor) (provider : LocalLlmProvider F) (now : DateTime) :
    Py LlmExplanation := do
  let cutoff ← cutoffOf now
  let context := contextOf lib redactor request cutoff
  let (summary, modelName, fallback) ← (match provider.explain context with
    | .ok summary => return (summary, provider.modelName, false)
    | .error _ => do
      let deterministic := deterministicLocalLlmProvider lib.texts
      let summary ← deterministic.explain context
      return (summary, deterministic.modelName, true) : Py (String × String × Bool))
  return {
    summary
    regulatoryReasonCodes :=
      reasonCodes request.riskScore context.baseline30d.length request.macroContext
    modelName
    promptVersion := request.promptVersion
    generatedAt := now.orUtc
    fallback }

/-- With the deterministic provider the summary is the one of the context. -/
theorem evaluate_deterministic (lib : RedactorLib F) (request : InvestigationRequest F)
    (redactor : DeterministicPiiRedactor) (now : DateTime) :
    (evaluate lib request redactor (deterministicLocalLlmProvider lib.texts) now).map
        LlmExplanation.summary =
      (cutoffOf now).map fun cutoff =>
        deterministicSummary lib.texts (contextOf lib redactor request cutoff) := by
  unfold evaluate
  cases cutoffOf now with
  | error e => rfl
  | ok cutoff => rfl

end VeriPay.InvestigationAgent
