import VeriPay.AuditStore.Service
import VeriPay.Lib.FirstPerKey
import VeriPay.Lib.Records

/-!
The audit trail over a run. The events kept are those submitted, but for ids that came before, in
the order they came; nothing kept is changed or lost. The state of a transaction is what was last
saved for it under its own path.
-/

namespace VeriPay.AuditStore

open Lib HeldKeys

/-- The events submitted by some requests. -/
def submitted (requests : List AuditRequest) : List AuditEvent :=
  requests.filterMap fun
    | .recordEvent event => some event
    | _ => none

/-- What a request does to the states. -/
def stateMove : AuditRequest → Move String TransactionState
  | .saveState transactionId state =>
    if state.transactionId.val = transactionId then .put state.transactionId.val state else .idle
  | _ => .idle

section Steps

variable (repository : InMemoryAuditRepository)

theorem submitted_concat (requests : List AuditRequest) (request : AuditRequest) :
    submitted (requests ++ [request]) = submitted requests ++ submitted [request] :=
  List.filterMap_append

theorem states_next (request : AuditRequest) :
    (auditMachine.next repository request).states =
      repository.states.move (stateMove request) := by
  cases request with
  | recordEvent event =>
    show (Effect.exec (InMemoryAuditRepository.recordEvent event) repository).2.states = _
    rw [InMemoryAuditRepository.exec_recordEvent]
    split_ifs <;> rfl
  | saveState transactionId state =>
    show (saveState repository transactionId state).2.states = _
    rw [saveState, stateMove]
    by_cases hpath : state.transactionId.val = transactionId
    · rw [if_neg (not_not.mpr hpath), if_pos hpath]
      rfl
    · rw [if_pos hpath, if_neg hpath]
      rfl
  | listEvents transactionId => rfl
  | getState transactionId => rfl

theorem eq_transactionId_of_put (request : AuditRequest) (transactionId : String)
    (state : TransactionState) (h : stateMove request = .put transactionId state) :
    transactionId = state.transactionId.val := by
  unfold stateMove at h
  split at h
  · split_ifs at h
    cases h
    rfl
  · cases h

/-- Only a submission touches the events. -/
theorem events_next (request : AuditRequest) :
    (auditMachine.next repository request).events =
      match request with
      | .recordEvent event =>
        if event.eventId ∈ repository.events.map AuditEvent.eventId then repository.events
        else repository.events ++ [event]
      | _ => repository.events := by
  cases request with
  | recordEvent event =>
    show (Effect.exec (InMemoryAuditRepository.recordEvent event) repository).2.events = _
    rw [InMemoryAuditRepository.exec_recordEvent]
    dsimp only
    split_ifs <;> rfl
  | saveState transactionId state =>
    show (saveState repository transactionId state).2.events = _
    unfold saveState
    split_ifs <;> rfl
  | listEvents transactionId => rfl
  | getState transactionId => rfl

end Steps

/-- The events after a run are those submitted, each id once, as it came first. -/
theorem events_run (requests : List AuditRequest) :
    (auditMachine.run {} requests).events =
      firstPerKey AuditEvent.eventId (submitted requests) := by
  induction requests using List.reverseRecOn with
  | nil => rfl
  | append_singleton requests request ih =>
    rw [Machine.run_concat, events_next, ih, submitted_concat]
    cases request with
    | recordEvent event =>
      show _ = firstPerKey AuditEvent.eventId (submitted requests ++ [event])
      simp only [firstPerKey_concat, mem_map_firstPerKey_iff]
    | _ => exact congrArg _ (List.append_nil _).symm

/-- The trail of a run. -/
structure Trail (requests : List AuditRequest) : Prop where
  events : (auditMachine.run {} requests).events =
    firstPerKey AuditEvent.eventId (submitted requests)
  appendOnly : ∀ earlier later, requests = earlier ++ later →
    (auditMachine.run {} earlier).events <+: (auditMachine.run {} requests).events
  answers : ∀ earlier event later, requests = earlier ++ .recordEvent event :: later →
    (auditMachine.event (auditMachine.run {} earlier) (.recordEvent event)).answer =
      if event.eventId ∈ (submitted earlier).map AuditEvent.eventId then
        .error ⟨409, "Audit event already exists"⟩
      else .ok (.event event)
  states : ∀ transactionId state,
    (handle (auditMachine.run {} requests) (.getState transactionId)).1 = .ok (.state state) ↔
      state.transactionId.val = transactionId ∧
        LastPut (requests.map stateMove) state.transactionId.val state

theorem run_trail (requests : List AuditRequest) : Trail requests where
  events := events_run requests
  appendOnly := by
    rintro earlier later rfl
    induction later using List.reverseRecOn with
    | nil => simp
    | append_singleton later request ih =>
      rw [← List.append_assoc, Machine.run_concat, events_next]
      refine ih.trans ?_
      cases request with
      | recordEvent event =>
        dsimp only
        split_ifs
        · exact List.prefix_rfl
        · exact List.prefix_append _ _
      | _ => exact List.prefix_rfl
  answers := by
    intro earlier event later _
    show recordAnswer (Effect.exec (InMemoryAuditRepository.recordEvent event)
      (auditMachine.run {} earlier)).1 = _
    rw [InMemoryAuditRepository.exec_recordEvent, events_run]
    simp only [mem_map_firstPerKey_iff]
    split_ifs <;> rfl
  states := by
    intro transactionId state
    have hempty : ({} : InMemoryAuditRepository).states = ∅ := rfl
    rw [← (run_records states_next eq_transactionId_of_put hempty requests).1]
    exact found_map_eq_ok_iff (fun _ _ => AuditBody.state.inj) state

end VeriPay.AuditStore
