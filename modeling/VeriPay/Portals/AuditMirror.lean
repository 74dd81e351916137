import VeriPay.AuditStore.Trail
import VeriPay.Portals.Requests

/-!
The fraud operations portal beside the audit store. The store keeps one log and filters it by
transaction, the portal a list for each transaction. A portal that is given what the store accepts
shows of every transaction what the store does.
-/

namespace VeriPay.Portals

open Lib AuditStore

def eventView (event : AuditEvent) : OpsAuditEventView where
  eventId := event.eventId
  transactionId := event.transactionId.val
  eventType := event.eventType
  actor := event.actor
  occurredAt := event.occurredAt
  payload := event.payload

def stateView (state : TransactionState) : OpsTransactionStateView where
  transactionId := state.transactionId.val
  state := state.state
  updatedAt := state.updatedAt
  metadata := state.metadata

/-- What the portal saves of an answer of the store. -/
def savedOf (request : AuditRequest) (answer : Except HTTPException AuditBody)
    (repository : InMemoryFiOpsRepository) : InMemoryFiOpsRepository :=
  match request, answer with
  | .recordEvent _, .ok (.event event) => repository.saveAuditEvent (eventView event)
  | .saveState _ _, .ok (.state state) => repository.saveTransactionState (stateView state)
  | _, _ => repository

structure AuditMirror where
  store : InMemoryAuditRepository := {}
  portal : InMemoryFiOpsRepository := {}

def auditMirrorMachine : Machine AuditMirror AuditRequest (Except HTTPException AuditBody) where
  step mirror request :=
    let (answer, store) := handle mirror.store request
    (answer, { store, portal := savedOf request answer mirror.portal })

/-- The portal shows the events and the state of every transaction as the store does. -/
structure ShowsAudit (mirror : AuditMirror) : Prop where
  events : ∀ transactionId, mirror.portal.auditEventsFor transactionId =
    (mirror.store.eventsFor transactionId).map eventView
  states : ∀ transactionId, mirror.portal.getTransactionState transactionId =
    (mirror.store.getState transactionId).map stateView

section Steps

variable {mirror : AuditMirror}

theorem auditEventsFor_saveAuditEvent (repository : InMemoryFiOpsRepository)
    (event : OpsAuditEventView) (transactionId : String) :
    (repository.saveAuditEvent event).auditEventsFor transactionId =
      if transactionId = event.transactionId then repository.auditEventsFor transactionId ++ [event]
      else repository.auditEventsFor transactionId := by
  rw [InMemoryFiOpsRepository.auditEventsFor, InMemoryFiOpsRepository.saveAuditEvent,
    PyDict.get?_set]
  split_ifs with h
  · rw [h]
    rfl
  · rfl

/-- An event that the store appends is appended for its transaction. -/
theorem ShowsAudit.recordEvent (h : ShowsAudit mirror) (event : AuditEvent) :
    ShowsAudit (auditMirrorMachine.next mirror (.recordEvent event)) := by
  have hexec := mirror.store.exec_recordEvent event
  by_cases hknown : event.eventId ∈ mirror.store.events.map AuditEvent.eventId
  · rw [if_pos hknown] at hexec
    have hnext : auditMirrorMachine.next mirror (.recordEvent event) = mirror := by
      simp only [Machine.next, auditMirrorMachine, handle, AuditStore.recordEvent, hexec,
        recordAnswer, savedOf]
    rwa [hnext]
  · rw [if_neg hknown] at hexec
    have hnext : auditMirrorMachine.next mirror (.recordEvent event) =
        { store := mirror.store.appended event
          portal := mirror.portal.saveAuditEvent (eventView event) } := by
      simp only [Machine.next, auditMirrorMachine, handle, AuditStore.recordEvent, hexec,
        recordAnswer, savedOf]
    rw [hnext]
    refine ⟨?_, h.states⟩
    intro transactionId
    have hfilter : (mirror.store.appended event).eventsFor transactionId =
        mirror.store.eventsFor transactionId ++
          if transactionId = event.transactionId.val then [event] else [] := by
      rw [InMemoryAuditRepository.eventsFor, InMemoryAuditRepository.appended, List.filter_append,
        List.filter_singleton]
      simp only [eq_comm (a := transactionId), Bool.cond_decide]
      rfl
    show (mirror.portal.saveAuditEvent (eventView event)).auditEventsFor transactionId = _
    rw [auditEventsFor_saveAuditEvent, hfilter, List.map_append, h.events]
    show (if transactionId = event.transactionId.val then _ else _) = _
    split_ifs
    · rfl
    · rw [List.map_nil, List.append_nil]

theorem ShowsAudit.saveState (h : ShowsAudit mirror) (transactionId : String)
    (state : TransactionState) :
    ShowsAudit (auditMirrorMachine.next mirror (.saveState transactionId state)) := by
  by_cases hpath : state.transactionId.val = transactionId
  · have hnext : auditMirrorMachine.next mirror (.saveState transactionId state) =
        { store := mirror.store.saveState state
          portal := mirror.portal.saveTransactionState (stateView state) } := by
      simp only [Machine.next, auditMirrorMachine, handle, AuditStore.saveState,
        if_neg (not_not.mpr hpath), savedOf]
    rw [hnext]
    refine ⟨h.events, ?_⟩
    intro other
    show (mirror.portal.transactionStates.set state.transactionId.val (stateView state)).get?
      other = ((mirror.store.states.set state.transactionId.val state).get? other).map stateView
    rw [PyDict.get?_set, PyDict.get?_set]
    split_ifs
    · rfl
    · exact h.states other
  · have hnext : auditMirrorMachine.next mirror (.saveState transactionId state) = mirror := by
      simp only [Machine.next, auditMirrorMachine, handle, AuditStore.saveState, if_pos hpath,
        savedOf]
    rwa [hnext]

theorem ShowsAudit.next (h : ShowsAudit mirror) (request : AuditRequest) :
    ShowsAudit (auditMirrorMachine.next mirror request) := by
  cases request with
  | recordEvent event => exact h.recordEvent event
  | saveState transactionId state => exact h.saveState transactionId state
  | listEvents transactionId => exact h
  | getState transactionId => exact h

end Steps

end VeriPay.Portals
