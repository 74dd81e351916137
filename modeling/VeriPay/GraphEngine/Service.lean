import VeriPay.Lib.Effect
import VeriPay.Lib.Json
import VeriPay.GraphEngine.Extract

/-!
The endpoints of the graph engine over its store. Scoring a transaction observes
it first. What the engine then reads out of the graph changes nothing and is a
parameter here.
-/

namespace VeriPay.GraphEngine

open Lib

/-- The validated body of `/graph/observe` and `/graph/score`. -/
structure GraphObserveRequest where
  transactionId : NonEmptyStr
  ccNum : {n : ℕ // 1 ≤ n}
  merchant : NonEmptyStr
  amount : {q : ℚ // 0 ≤ q}
  timestamp : DateTime
  location : Option (List ℚ) := none
  flagged : Bool := false

/-- What the engine answers from its graph for a customer. -/
structure GraphViews where
  /-- `network_context`, as the score response carries it. -/
  networkContext : GraphStore → ℕ → Py JsonObj
  /-- `GraphStore.community`. -/
  community : GraphStore → ℕ → Py JsonObj

def GraphObserveRequest.observed (request : GraphObserveRequest) : ObservedTransaction where
  transactionId := request.transactionId.val
  ccNum := request.ccNum.val
  merchant := request.merchant.val
  amount := request.amount.val
  timestamp := request.timestamp
  location :=
    match request.location with
    | some [lat, lon] => some (lat, lon)
    | _ => none
  flagged := request.flagged

def observeEndpoint (request : GraphObserveRequest) : Effect GraphStore JsonObj := do
  modify (fun store => store.observe request.observed)
  return [("status", .str "recorded"), ("transaction_id", .str request.transactionId.val),
    ("recorded", .bool true)]

def scoreEndpoint (views : GraphViews) (request : GraphObserveRequest) :
    Effect GraphStore JsonObj := do
  modify (fun store => store.observe request.observed)
  let store ← get
  liftM (views.networkContext store request.ccNum.val)

def communityEndpoint (views : GraphViews) (customer : ℕ) : Effect GraphStore JsonObj := do
  let store ← get
  liftM (views.community store customer)

/-- A score leaves its transaction observed, also where the context raises. -/
theorem exec_scoreEndpoint (views : GraphViews) (request : GraphObserveRequest)
    (store : GraphStore) :
    Effect.exec (scoreEndpoint views request) store =
      (views.networkContext (store.observe request.observed) request.ccNum.val,
        store.observe request.observed) := rfl

end VeriPay.GraphEngine
