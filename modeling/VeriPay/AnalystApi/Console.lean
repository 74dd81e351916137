import VeriPay.AnalystApi.Bookkeeping
import VeriPay.Lib.Http
import VeriPay.Lib.StableSort

/-!
The analyst console. It sends a transaction to be scored or explained, or looks up what one was
scored or explained with, by its id or by its customer; and it lists the alerts, the most suspicious
first.
-/

namespace VeriPay.AnalystApi

open Lib Common AnalystOrchestrator

/-- What `except LookupError` catches. -/
def isLookupError : PyErr → Bool
  | .keyError _ => true
  | .other kind => kind = "LookupError" ∨ kind = "IndexError"
  | _ => false

structure AnalystScoreRequest where
  transaction : Option TransactionInput := none
  transactionId : Option String := none
  ccNum : Option {n : ℕ // 1 ≤ n} := none
  target : transaction ≠ none ∨ (transactionId ≠ none ∧ transactionId ≠ some "") ∨ ccNum ≠ none

section Lookups

variable {W : Type} (pipeline : Pipeline W)

/-- `transaction_id or self._lookup_by_customer.get(cc_num or -1)`. No customer has the number
`-1`. -/
def lookupKey (transactionId : Option String) (ccNum : Option {n : ℕ // 1 ≤ n}) :
    Option String :=
  match transactionId.filter (fun id => id ≠ "") with
  | some id => some id
  | none => ccNum.bind fun customer => pipeline.lookupByCustomer customer.val

/-- The result retained under the key looked up. -/
def lookup {α : Type} (retained : String → Option α) (transactionId : Option String)
    (ccNum : Option {n : ℕ // 1 ≤ n}) : Py α :=
  match (lookupKey pipeline transactionId ccNum).bind retained with
  | none => .error (.other "LookupError")
  | some result => .ok result

def lookupScore (transactionId : Option String) (ccNum : Option {n : ℕ // 1 ≤ n}) :
    Py ScoreResponse :=
  lookup pipeline pipeline.scored transactionId ccNum

def lookupExplain (transactionId : Option String) (ccNum : Option {n : ℕ // 1 ≤ n}) :
    Py ExplainResponse :=
  lookup pipeline pipeline.scoredExplain transactionId ccNum

/-- The sort key of an alert. `add` is the addition of floats. -/
def suspicion (add : ℚ → ℚ → ℚ) (alert : AlertItem) : ℚ :=
  add alert.fraudProbability.val alert.anomalyScore.val

def alerts (add : ℚ → ℚ → ℚ) : List AlertItem :=
  pipeline.alerts.mergeSort fun a b => suspicion add b ≤ suspicion add a

end Lookups

inductive ConsoleCall
  | score (request : AnalystScoreRequest)
  | explain (request : AnalystScoreRequest)
  | submitFeedback (feedback : FeedbackInput) (received : DateTime)
  | alerts

inductive ConsoleBody
  | score (response : ScoreResponse)
  | explain (response : ExplainResponse)
  | feedback (result : FeedbackResult)
  | alerts (items : List AlertItem)

/-- What the endpoints make of an exception. -/
def surfaced {α : Type} (service : String) (make : α → ConsoleBody) :
    Py α → Except HTTPException ConsoleBody
  | .ok answer => .ok (make answer)
  | .error e =>
    if isLookupError e then .error ⟨404, "Unknown scored transaction"⟩
    else .error ⟨502, service ++ " downstream unavailable: " ++ e.message⟩

section Endpoints

variable {W : Type} (analyst : AnalystOrchestrator W) (add : ℚ → ℚ → ℚ)

/-- The answer and the state of a call of the orchestrator. -/
def surfacedCall {α : Type} (service : String) (make : α → ConsoleBody)
    (outcome : Py α × Pipeline W) : Except HTTPException ConsoleBody × Pipeline W :=
  (surfaced service make outcome.1, outcome.2)

def postScore (request : AnalystScoreRequest) (pipeline : Pipeline W) :
    Except HTTPException ConsoleBody × Pipeline W :=
  surfacedCall "Scoring" .score <|
    match request.transaction with
    | some tx => Effect.exec (analyst.score tx) pipeline
    | none => (lookupScore pipeline request.transactionId request.ccNum, pipeline)

def postExplain (request : AnalystScoreRequest) (pipeline : Pipeline W) :
    Except HTTPException ConsoleBody × Pipeline W :=
  surfacedCall "Explanation" .explain <|
    match request.transaction with
    | some tx => Effect.exec (analyst.explain tx) pipeline
    | none => (lookupExplain pipeline request.transactionId request.ccNum, pipeline)

/-- The endpoints. -/
def consoleStep (pipeline : Pipeline W) :
    ConsoleCall → Except HTTPException ConsoleBody × Pipeline W
  | .score request => postScore analyst request pipeline
  | .explain request => postExplain analyst request pipeline
  | .submitFeedback feedback received =>
    let (answer, after) := Effect.exec (analyst.submitFeedback feedback received) pipeline
    match answer with
    | .ok result => (.ok (.feedback result), after)
    | .error _ => (.error ⟨500, "Internal Server Error"⟩, after)
  | .alerts => (.ok (.alerts (alerts pipeline add)), pipeline)

def consoleMachine :
    Machine (Pipeline W) ConsoleCall (Except HTTPException ConsoleBody) where
  step := consoleStep analyst add

end Endpoints

end VeriPay.AnalystApi
