import VeriPay.Lib.DateTime
import VeriPay.Lib.Effect
import VeriPay.Lib.Http
import VeriPay.Lib.Machine
import VeriPay.Lib.PyDict

/-!
The audit store. Events are appended, each id once; a transaction has one state, which is
overwritten.
-/

namespace VeriPay.AuditStore

open Lib

structure TransactionState where
  transactionId : NonEmptyStr
  state : NonEmptyStr
  updatedAt : DateTime
  metadata : PyDict String String := ∅

structure AuditEvent where
  eventId : String
  transactionId : NonEmptyStr
  eventType : NonEmptyStr
  actor : NonEmptyStr
  occurredAt : DateTime
  payload : PyDict String String := ∅
  retentionUntil : Option DateTime := none
  immutable : Bool := true

structure InMemoryAuditRepository where
  events : List AuditEvent := []
  states : PyDict String TransactionState := ∅

namespace InMemoryAuditRepository

variable (repository : InMemoryAuditRepository)

def appended (event : AuditEvent) : InMemoryAuditRepository :=
  { repository with events := repository.events ++ [event] }

def recordEvent (event : AuditEvent) : Effect InMemoryAuditRepository AuditEvent := do
  if (← get).events.any fun existing => existing.eventId = event.eventId then
    throw (.valueError "Audit event already exists")
  else
    modify (appended · event)
    return event

def eventsFor (transactionId : String) : List AuditEvent :=
  repository.events.filter fun event => event.transactionId.val = transactionId

def saveState (state : TransactionState) : InMemoryAuditRepository :=
  { repository with states := repository.states.set state.transactionId.val state }

def getState (transactionId : String) : Option TransactionState :=
  repository.states.get? transactionId

/-- An event is appended where its id is new, and refused without a change where it is not. -/
theorem exec_recordEvent (event : AuditEvent) :
    Effect.exec (recordEvent event) repository =
      if event.eventId ∈ repository.events.map AuditEvent.eventId then
        (.error (.valueError "Audit event already exists"), repository)
      else (.ok event, repository.appended event) := by
  have hknown : (repository.events.any fun existing => existing.eventId = event.eventId) = true ↔
      event.eventId ∈ repository.events.map AuditEvent.eventId := by
    simp [List.any_eq_true]
  rw [recordEvent, Effect.exec_bind_ok (Effect.exec_get _), Effect.exec_ite]
  simp only [hknown]
  rfl

end InMemoryAuditRepository

inductive AuditRequest
  | recordEvent (event : AuditEvent)
  | listEvents (transactionId : String)
  | saveState (transactionId : String) (state : TransactionState)
  | getState (transactionId : String)

inductive AuditBody
  | event (event : AuditEvent)
  | events (events : List AuditEvent)
  | state (state : TransactionState)

/-- `except ValueError` of the record endpoint. -/
def recordAnswer : Py AuditEvent → Except HTTPException AuditBody
  | .ok event => .ok (.event event)
  | .error e => .error ⟨if e.isValueError then 409 else 500, e.message⟩

def recordEvent (repository : InMemoryAuditRepository) (event : AuditEvent) :
    Except HTTPException AuditBody × InMemoryAuditRepository :=
  let (answer, after) := Effect.exec (InMemoryAuditRepository.recordEvent event) repository
  (recordAnswer answer, after)

def saveState (repository : InMemoryAuditRepository) (transactionId : String)
    (state : TransactionState) : Except HTTPException AuditBody × InMemoryAuditRepository :=
  if state.transactionId.val ≠ transactionId then
    (.error ⟨400, "Transaction ID does not match path"⟩, repository)
  else (.ok (.state state), repository.saveState state)

/-- The endpoints. -/
def handle (repository : InMemoryAuditRepository) :
    AuditRequest → Except HTTPException AuditBody × InMemoryAuditRepository
  | .recordEvent event => recordEvent repository event
  | .listEvents transactionId => (.ok (.events (repository.eventsFor transactionId)), repository)
  | .saveState transactionId state => saveState repository transactionId state
  | .getState transactionId =>
    ((found "Transaction state not found" (repository.getState transactionId)).map .state,
      repository)

def auditMachine : Machine InMemoryAuditRepository AuditRequest (Except HTTPException AuditBody)
    where
  step := handle

end VeriPay.AuditStore
