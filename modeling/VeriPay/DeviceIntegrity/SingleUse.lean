import VeriPay.Lib.OneUse
import VeriPay.DeviceIntegrity.Service

/-!
Device challenges are single use. Under fresh challenge ids every run of the service is a
run of one-use tickets: issuing a challenge opens its ticket, and the first call that gets
past the replay check and does not raise before the provider has answered spends it.
-/

namespace VeriPay.DeviceIntegrity

open Lib Common

/-- What issuing a challenge leaves. -/
theorem issueChallenge_cases (env : IssueEnv) (request : DeviceChallengeRequest)
    (store : DeviceStore) :
    (∃ e, Effect.exec (issueChallenge env request) store = (.error e, store)) ∨
    ∃ challenge : DeviceChallenge, challenge.challengeId = challengeIdOf env.uuid ∧
      Effect.exec (issueChallenge env request) store =
        (.ok challenge, store.saveChallenge { challenge }) := by
  unfold issueChallenge
  cases hnonce : env.nonce with
  | error e => exact Or.inl ⟨e, Effect.exec_bind_error (Effect.exec_lift _ store)⟩
  | ok nonce =>
    rw [Effect.exec_bind_ok (Effect.exec_lift _ store)]
    cases hnow : env.now with
    | error e => exact Or.inl ⟨e, Effect.exec_bind_error (Effect.exec_lift _ store)⟩
    | ok now =>
      rw [Effect.exec_bind_ok (Effect.exec_lift _ store)]
      cases hexpiry : now.addMicros (request.ttlSeconds * DateTime.microsPerSecond) with
      | error e => exact Or.inl ⟨e, Effect.exec_bind_error (Effect.exec_lift _ store)⟩
      | ok expiresAt =>
        rw [Effect.exec_bind_ok (Effect.exec_lift _ store)]
        exact Or.inr ⟨_, rfl, rfl⟩

/-- The request presents the challenge before it expires. -/
structure Presents (env : VerifyEnv) (request : AttestationRequest) (challenge : DeviceChallenge) :
    Prop where
  deviceId : challenge.deviceId = request.deviceId.val
  platform : challenge.platform = request.platform
  nonce : challenge.nonce = request.nonce.val
  unexpired : ∃ now, env.now = .ok now ∧ now.lt challenge.expiresAt = .ok true

theorem lt_of_not_le {a b : DateTime} (h : a.le b = .ok false) : b.lt a = .ok true := by
  have hcomparable := DateTime.comparable_of_le_ok h
  rw [DateTime.le_ok hcomparable, Except.ok.injEq, decide_eq_false_iff_not, not_le] at h
  rw [DateTime.lt_ok hcomparable.symm, Except.ok.injEq, decide_eq_true_iff]
  exact h

section Verify

variable (env : VerifyEnv) (request : AttestationRequest) {store : DeviceStore}
  {record : ChallengeRecord}

/-- The request is on the provider's record whether or not it answers. -/
theorem exec_askProvider (store : DeviceStore) :
    Effect.exec (askProvider env request) store =
      (match env.provider request.platform request.attestationToken.val with
        | .raised error => .error error
        | .triple checked => .ok checked,
        store.asked request.platform request.attestationToken.val) := by
  rw [askProvider, Effect.exec_bind_ok (Effect.exec_modify _ store)]
  cases env.provider request.platform request.attestationToken.val with
  | raised error => rfl
  | triple checked => rfl

theorem verifyAttestation_unknown (h : store.getChallenge request.challengeId.val = none) :
    Effect.exec (verifyAttestation env request) store =
      (.ok (request.rejected "CHALLENGE_NOT_FOUND"), store) := by
  rw [verifyAttestation, Effect.exec_bind_ok (Effect.exec_get store)]
  simp only [h]
  rfl

/-- A consumed challenge is never looked at again. -/
theorem verifyAttestation_replayed (h : store.getChallenge request.challengeId.val = some record)
    (hconsumed : record.consumed = true) :
    Effect.exec (verifyAttestation env request) store =
      (.ok (request.rejected "CHALLENGE_REPLAYED"), store) := by
  rw [verifyAttestation, Effect.exec_bind_ok (Effect.exec_get store)]
  simp only [h, if_pos hconsumed]
  rfl

/-- How a call on an open challenge ends: it raises and leaves the challenges as they are, it
is rejected and the challenge consumed, or the provider's triple decides. -/
inductive OpenCase (store : DeviceStore) (record : ChallengeRecord) :
    Py AttestationResult × DeviceStore → Prop
  | raised (e : PyErr) (after : DeviceStore) (h : after.challenges = store.challenges) :
      OpenCase store record (.error e, after)
  | rejected (reasonCode : String) :
      OpenCase store record
        (.ok (request.rejected reasonCode), store.consume request.challengeId.val record)
  | provided (checked : Py Verdict) (hpresents : Presents env request record.challenge)
      (hprovider : env.provider request.platform request.attestationToken.val = .triple checked) :
      OpenCase store record (checked.map request.result,
        (store.asked request.platform request.attestationToken.val).consume
          request.challengeId.val record)

theorem verifyAttestation_open (h : store.getChallenge request.challengeId.val = some record)
    (hopen : record.consumed = false) :
    OpenCase env request store record (Effect.exec (verifyAttestation env request) store) := by
  rw [verifyAttestation, Effect.exec_bind_ok (Effect.exec_get store)]
  simp only [h, hopen, Bool.false_eq_true, if_false]
  cases hnow : env.now with
  | error e =>
    rw [Effect.exec_bind_error (Effect.exec_lift _ store)]
    exact .raised e store rfl
  | ok now =>
    rw [Effect.exec_bind_ok (Effect.exec_lift _ store)]
    cases hexpired : record.challenge.expiresAt.le now with
    | error e =>
      rw [Effect.exec_bind_error (Effect.exec_lift _ store)]
      exact .raised e store rfl
    | ok expired =>
      rw [Effect.exec_bind_ok (Effect.exec_lift _ store)]
      cases expired with
      | true => exact .rejected "CHALLENGE_EXPIRED"
      | false =>
        rw [if_neg Bool.false_ne_true]
        by_cases hbinding : bindingMismatch record.challenge request
        · rw [if_pos hbinding]
          exact .rejected "CHALLENGE_BINDING_MISMATCH"
        · rw [if_neg hbinding]
          by_cases hnonce : record.challenge.nonce = request.nonce.val
          · rw [if_neg (not_not_intro hnonce)]
            obtain ⟨hdevice, hplatform⟩ := not_or.mp hbinding
            have hpresents : Presents env request record.challenge :=
              ⟨not_not.mp hdevice, not_not.mp hplatform, hnonce, now, hnow, lt_of_not_le hexpired⟩
            have hask := exec_askProvider env request store
            cases hanswer : env.provider request.platform request.attestationToken.val with
            | raised e =>
              rw [hanswer] at hask
              rw [Effect.exec_bind_error hask]
              exact .raised e _ rfl
            | triple checked =>
              rw [hanswer] at hask
              rw [Effect.exec_bind_ok hask, Effect.exec_bind_ok (Effect.exec_modify _ _)]
              have hprovided : OpenCase env request store record _ :=
                .provided checked hpresents hanswer
              cases checked with
              | error e => exact hprovided
              | ok verdict => exact hprovided
          · rw [if_pos hnonce]
            exact .rejected "CHALLENGE_NONCE_MISMATCH"

/-- A call that returns leaves the store as it is, or consumes an open challenge; what it then
says is the service's own, or the provider's if the challenge was presented. -/
theorem verifyAttestation_returns {result : AttestationResult} {later : DeviceStore}
    (h : Effect.exec (verifyAttestation env request) store = (.ok result, later)) :
    (later = store ∧ ∀ record, store.getChallenge request.challengeId.val = some record →
      record.consumed = true) ∨
    ∃ record, store.getChallenge request.challengeId.val = some record ∧
      record.consumed = false ∧
      later.challenges = (store.consume request.challengeId.val record).challenges ∧
      (later.providerCalls = store.providerCalls ∨
        ∃ verdict, Presents env request record.challenge ∧
          env.provider request.platform request.attestationToken.val = .triple (.ok verdict) ∧
          result = request.result verdict) := by
  cases hget : store.getChallenge request.challengeId.val with
  | none =>
    rw [verifyAttestation_unknown env request hget] at h
    exact Or.inl ⟨(Prod.mk.inj h).2.symm, fun record hrecord => by cases hrecord⟩
  | some record =>
    cases hconsumed : record.consumed with
    | true =>
      rw [verifyAttestation_replayed env request hget hconsumed] at h
      refine Or.inl ⟨(Prod.mk.inj h).2.symm, ?_⟩
      rintro _ ⟨⟩
      exact hconsumed
    | false =>
      refine Or.inr ⟨record, rfl, hconsumed, ?_⟩
      have hcase := verifyAttestation_open env request hget hconsumed
      rw [h] at hcase
      generalize houtcome : ((.ok result, later) : Py AttestationResult × DeviceStore) = outcome
        at hcase
      cases hcase with
      | raised e later' hsame => cases houtcome
      | rejected reasonCode =>
        cases houtcome
        exact ⟨rfl, Or.inl rfl⟩
      | provided checked hpresents hprovider =>
        cases checked with
        | error e => cases houtcome
        | ok verdict =>
          cases houtcome
          exact ⟨rfl, Or.inr ⟨verdict, hpresents, hprovider, rfl⟩⟩

/-- What a call does to the challenges, whether it returns or raises. -/
theorem verifyAttestation_challenges (store : DeviceStore) :
    (Effect.exec (verifyAttestation env request) store).2.challenges = store.challenges ∨
    ∃ record, store.getChallenge request.challengeId.val = some record ∧
      record.consumed = false ∧
      (Effect.exec (verifyAttestation env request) store).2.challenges =
        (store.consume request.challengeId.val record).challenges := by
  cases hget : store.getChallenge request.challengeId.val with
  | none =>
    rw [verifyAttestation_unknown env request hget]
    exact Or.inl rfl
  | some record =>
    cases hconsumed : record.consumed with
    | true =>
      rw [verifyAttestation_replayed env request hget hconsumed]
      exact Or.inl rfl
    | false =>
      have hcase := verifyAttestation_open env request hget hconsumed
      generalize Effect.exec (verifyAttestation env request) store = outcome at hcase
      cases hcase with
      | raised e later hsame => exact Or.inl hsame
      | rejected reasonCode => exact Or.inr ⟨record, rfl, hconsumed, rfl⟩
      | provided checked hpresents hprovider => exact Or.inr ⟨record, rfl, hconsumed, rfl⟩

end Verify

def ticket (record : ChallengeRecord) : OneUse.Ticket DeviceChallenge :=
  if record.consumed then .spent record.challenge else .opened record.challenge

def book (store : DeviceStore) : OneUse.Book String DeviceChallenge :=
  fun id => (store.getChallenge id).map ticket

abbrev CallEvent := Machine.Event DeviceStore Call Answer

/-- The state after a row of calls. -/
def after (calls : List Call) : DeviceStore := deviceMachine.run {} calls

/-- The ticket move that takes one record of a challenge to another. -/
def recordMove (id : String) : Option ChallengeRecord → Option ChallengeRecord →
    OneUse.Move String DeviceChallenge
  | some before, some after =>
    if before.consumed = after.consumed then .idle else .spend id before.challenge
  | _, _ => .idle

def moveOf (e : CallEvent) : OneUse.Move String DeviceChallenge :=
  match e.call, e.answer with
  | .issue _ _, .issued (.ok challenge) => .open challenge.challengeId challenge
  | .verify _ request, _ =>
    recordMove request.challengeId.val (e.before.getChallenge request.challengeId.val)
      (e.after.getChallenge request.challengeId.val)
  | _, _ => .idle

/-- The id an issue files its challenge under. -/
def Call.newChallenge : Call → Option String
  | .issue env _ => some (challengeIdOf env.uuid)
  | .verify _ _ => none

/-- No challenge id is drawn twice. -/
def FreshIds (calls : List Call) : Prop := (calls.filterMap Call.newChallenge).Nodup

theorem book_of_get {store : DeviceStore} {id : String} {record : ChallengeRecord}
    (h : store.getChallenge id = some record) : book store id = some (ticket record) := by
  rw [book, h]
  rfl

theorem ticket_of_open {record : ChallengeRecord} (h : record.consumed = false) :
    ticket record = .opened record.challenge := by
  rw [ticket, h]
  rfl

theorem ticket_of_consumed {record : ChallengeRecord} (h : record.consumed = true) :
    ticket record = .spent record.challenge := by
  rw [ticket, if_pos h]

theorem book_congr {store other : DeviceStore} (h : other.challenges = store.challenges) :
    book other = book store := by
  funext id
  rw [book, book, DeviceStore.getChallenge, DeviceStore.getChallenge, h]

theorem book_save (store : DeviceStore) (record : ChallengeRecord) :
    book (store.saveChallenge record) =
      Function.update (book store) record.challenge.challengeId (some (ticket record)) := by
  funext id
  rw [book, DeviceStore.getChallenge_saveChallenge, Function.update_apply]
  split_ifs
  · rfl
  · rfl

theorem book_consume (store : DeviceStore) (id : String) (record : ChallengeRecord) :
    book (store.consume id record) =
      Function.update (book store) id (some (.spent record.challenge)) := by
  funext other
  rw [book, DeviceStore.getChallenge_consume, Function.update_apply]
  split_ifs
  · rfl
  · rfl

section VerifyMoves

variable (env : VerifyEnv) (request : AttestationRequest) {store : DeviceStore}
  {record : ChallengeRecord}

theorem moveOf_verify :
    moveOf (deviceMachine.event store (.verify env request)) =
      recordMove request.challengeId.val (store.getChallenge request.challengeId.val)
        ((deviceMachine.next store (.verify env request)).getChallenge
          request.challengeId.val) := rfl

/-- A call that keeps the challenges makes no move. -/
theorem moveOf_of_kept
    (h : (deviceMachine.next store (.verify env request)).challenges = store.challenges) :
    moveOf (deviceMachine.event store (.verify env request)) = .idle := by
  rw [moveOf_verify, DeviceStore.getChallenge, DeviceStore.getChallenge, h]
  cases store.challenges.get? request.challengeId.val with
  | none => rfl
  | some found => exact if_pos rfl

/-- A call that consumes an open challenge spends its ticket. -/
theorem moveOf_of_consumed (hget : store.getChallenge request.challengeId.val = some record)
    (hopen : record.consumed = false)
    (h : (deviceMachine.next store (.verify env request)).challenges =
      (store.consume request.challengeId.val record).challenges) :
    moveOf (deviceMachine.event store (.verify env request)) =
      .spend request.challengeId.val record.challenge := by
  have hafter : (deviceMachine.next store (.verify env request)).getChallenge
      request.challengeId.val = some { record with consumed := true } := by
    rw [DeviceStore.getChallenge, h]
    exact (DeviceStore.getChallenge_consume _ _ store _).trans (if_pos rfl)
  rw [moveOf_verify, hget, hafter, recordMove, if_neg]
  rw [hopen]
  exact Bool.false_ne_true

/-- A call spends the ticket of an open challenge, or leaves the book as it is. -/
theorem verify_refines :
    OneUse.Step (book store) (moveOf (deviceMachine.event store (.verify env request)))
      (book (deviceMachine.next store (.verify env request))) := by
  rcases verifyAttestation_challenges env request store with hkept | ⟨record, hget, hopen, hnext⟩
  · have hbook : book (deviceMachine.next store (.verify env request)) = book store :=
      book_congr hkept
    rw [moveOf_of_kept env request hkept, hbook]
    exact .idle _
  · have hbook : book (deviceMachine.next store (.verify env request)) =
        book (store.consume request.challengeId.val record) := book_congr hnext
    rw [moveOf_of_consumed env request hget hopen hnext, hbook, book_consume]
    apply OneUse.Step.spend
    rw [book_of_get hget, ticket_of_open hopen]

end VerifyMoves

/-- Every call is the move it makes, when an issue draws a fresh id. -/
theorem step_refines (store : DeviceStore) (call : Call)
    (hfresh : ∀ id, call.newChallenge = some id → store.getChallenge id = none) :
    OneUse.Step (book store) (moveOf (deviceMachine.event store call))
      (book (deviceMachine.next store call)) := by
  cases call with
  | issue env request =>
    rcases issueChallenge_cases env request store with ⟨e, hexec⟩ | ⟨challenge, hid, hexec⟩
    · have hmove : moveOf (deviceMachine.event store (.issue env request)) = .idle := by
        simp only [moveOf, Machine.event, deviceMachine, step, hexec]
      have hnext : deviceMachine.next store (.issue env request) = store := by
        simp only [Machine.next, deviceMachine, step, hexec]
      rw [hmove, hnext]
      exact .idle _
    · have hmove : moveOf (deviceMachine.event store (.issue env request)) =
          .open challenge.challengeId challenge := by
        simp only [moveOf, Machine.event, deviceMachine, step, hexec]
      have hnext : deviceMachine.next store (.issue env request) =
          store.saveChallenge { challenge } := by
        simp only [Machine.next, deviceMachine, step, hexec]
      rw [hmove, hnext, book_save, ticket_of_open rfl]
      apply OneUse.Step.open
      rw [book, hid, hfresh _ rfl]
      rfl
  | verify env request => exact verify_refines env request

/-- A challenge comes into the store when it is issued. -/
theorem getChallenge_next (store : DeviceStore) (call : Call) {id : String}
    (hnew : call.newChallenge ≠ some id) (hnone : store.getChallenge id = none) :
    (deviceMachine.next store call).getChallenge id = none := by
  cases call with
  | issue env request =>
    rcases issueChallenge_cases env request store with ⟨e, hexec⟩ | ⟨challenge, hid, hexec⟩
    · simp only [Machine.next, deviceMachine, step, hexec]
      exact hnone
    · simp only [Machine.next, deviceMachine, step, hexec]
      rw [DeviceStore.getChallenge_saveChallenge, if_neg, hnone]
      rintro rfl
      exact hnew (by rw [hid]; rfl)
  | verify env request =>
    show (Effect.exec (verifyAttestation env request) store).2.challenges.get? id = none
    rcases verifyAttestation_challenges env request store with hkept | ⟨record, hget, -, hnext⟩
    · rw [hkept]
      exact hnone
    · have hother : id ≠ request.challengeId.val := by
        rintro rfl
        rw [hnone] at hget
        cases hget
      rw [hnext]
      exact (DeviceStore.getChallenge_consume _ _ store id).trans ((if_neg hother).trans hnone)

theorem getChallenge_after (calls : List Call) {id : String}
    (hnew : id ∉ calls.filterMap Call.newChallenge) : (after calls).getChallenge id = none := by
  refine deviceMachine.run_history_invariant (P := fun _ store => store.getChallenge id = none)
    rfl calls ?_
  intro pre call post hcalls hbefore
  refine getChallenge_next _ call ?_ hbefore
  intro hcall
  apply hnew
  rw [hcalls, List.filterMap_append, List.filterMap_cons_some hcall]
  exact List.mem_append_right _ List.mem_cons_self

theorem getChallenge_of_fresh {pre post : List Call} {call : Call}
    (hfresh : FreshIds (pre ++ call :: post)) {id : String} (hid : call.newChallenge = some id) :
    (after pre).getChallenge id = none := by
  apply getChallenge_after
  intro hmem
  rw [FreshIds, List.filterMap_append, List.filterMap_cons_some hid] at hfresh
  exact (List.nodup_append.mp hfresh).2.2 id hmem id List.mem_cons_self rfl

/-- A run of the service is a run of its tickets. -/
theorem run_refines (pre post : List Call) (hfresh : FreshIds (pre ++ post)) :
    OneUse.Run (book (after pre)) ((deviceMachine.trace (after pre) post).map moveOf)
      (book (after (pre ++ post))) := by
  induction post generalizing pre with
  | nil =>
    rw [List.append_nil]
    exact .nil _
  | cons call rest ih =>
    have hstep := step_refines (after pre) call (fun id hid => getChallenge_of_fresh hfresh hid)
    have hnext : deviceMachine.next (after pre) call = after (pre ++ [call]) :=
      (deviceMachine.run_concat {} pre call).symm
    have hrest := ih (pre ++ [call]) (by simpa using hfresh)
    rw [← hnext, List.append_assoc] at hrest
    exact .cons hstep hrest

/-- The event issues the challenge. -/
def Issues (e : CallEvent) (challenge : DeviceChallenge) : Prop :=
  ∃ env request, e.call = .issue env request ∧ e.answer = .issued (.ok challenge)

/-- The event is a call on a challenge that asked the provider and returned. -/
def Provided (e : CallEvent) (id : String) (env : VerifyEnv) (request : AttestationRequest)
    (result : AttestationResult) : Prop :=
  e.call = .verify env request ∧ request.challengeId.val = id ∧
    e.answer = .verified (.ok result) ∧ e.after.providerCalls ≠ e.before.providerCalls

/-- Asking the provider and returning is a spend of the challenge, which was presented, and the
result is the provider's. -/
theorem moveOf_of_provided {store : DeviceStore} {call : Call} {id : String} {env : VerifyEnv}
    {request : AttestationRequest} {result : AttestationResult}
    (h : Provided (deviceMachine.event store call) id env request result) :
    ∃ challenge verdict, moveOf (deviceMachine.event store call) = .spend id challenge ∧
      Presents env request challenge ∧
      env.provider request.platform request.attestationToken.val = .triple (.ok verdict) ∧
      result = request.result verdict := by
  obtain ⟨hcall, rfl, hanswer, hasked⟩ := h
  obtain rfl : call = .verify env request := hcall
  have hexec : Effect.exec (verifyAttestation env request) store =
      (.ok result, deviceMachine.next store (.verify env request)) :=
    Prod.ext (Answer.verified.inj hanswer) rfl
  change (deviceMachine.next store (.verify env request)).providerCalls ≠ store.providerCalls
    at hasked
  rcases verifyAttestation_returns env request hexec with ⟨hkept, -⟩ |
    ⟨record, hget, hopen, hnext, hcalls | ⟨verdict, hpresents, hprovider, hresult⟩⟩
  · rw [hkept] at hasked
    exact absurd rfl hasked
  · exact absurd hcalls hasked
  · exact ⟨record.challenge, verdict, moveOf_of_consumed env request hget hopen hnext, hpresents,
      hprovider, hresult⟩

/-- An opening move is an issue of the run. -/
theorem issues_of_moveOf {e : CallEvent} {id : String} {challenge : DeviceChallenge}
    (h : moveOf e = .open id challenge) : Issues e challenge ∧ challenge.challengeId = id := by
  obtain ⟨before, call, answer, later⟩ := e
  cases call with
  | issue env request =>
    cases answer with
    | issued answer =>
      cases answer with
      | ok issued =>
        cases h
        exact ⟨⟨env, request, rfl, rfl⟩, rfl⟩
      | error e => cases h
    | verified answer => cases h
  | verify env request =>
    simp only [moveOf] at h
    unfold recordMove at h
    split at h
    · split_ifs at h
    · cases h

/-- A call on an existing challenge that returns leaves it spent. -/
theorem spent_of_returns (env : VerifyEnv) (request : AttestationRequest) {store : DeviceStore}
    {record : ChallengeRecord} {result : AttestationResult}
    (hget : store.getChallenge request.challengeId.val = some record)
    (hreturns : (deviceMachine.step store (.verify env request)).1 = .verified (.ok result)) :
    book (deviceMachine.next store (.verify env request)) request.challengeId.val =
      some (.spent record.challenge) := by
  have hexec : Effect.exec (verifyAttestation env request) store =
      (.ok result, deviceMachine.next store (.verify env request)) :=
    Prod.ext (Answer.verified.inj hreturns) rfl
  rcases verifyAttestation_returns env request hexec with ⟨hkept, hconsumed⟩ |
    ⟨other, hother, -, hnext, -⟩
  · rw [hkept, book_of_get hget, ticket_of_consumed (hconsumed record hget)]
  · rw [hget] at hother
    cases hother
    rw [book_congr hnext, book_consume, Function.update_self]

/-- A spent challenge is answered as a replay. -/
theorem replayed_of_spent (env : VerifyEnv) (request : AttestationRequest) {store : DeviceStore}
    {challenge : DeviceChallenge}
    (hspent : book store request.challengeId.val = some (.spent challenge)) :
    (deviceMachine.step store (.verify env request)).1 =
      .verified (.ok (request.rejected "CHALLENGE_REPLAYED")) := by
  obtain ⟨record, hget, hticket⟩ := Option.map_eq_some_iff.mp hspent
  have hconsumed : record.consumed = true := by
    unfold ticket at hticket
    split_ifs at hticket with hconsumed
    exact hconsumed
  show Answer.verified (Effect.exec (verifyAttestation env request) store).1 = _
  rw [verifyAttestation_replayed env request hget hconsumed]

/-- What a run may do with its challenges. -/
structure SingleUse (calls : List Call) : Prop where
  /-- At most one call on a challenge returns what the provider said. -/
  provided_once : (deviceMachine.trace {} calls).Pairwise (fun earlier later =>
    ∀ id env request result env' request' result',
      Provided earlier id env request result → ¬ Provided later id env' request' result')
  /-- It presented the challenge as it was issued, before it expired. -/
  provided_presents : ∀ e ∈ deviceMachine.trace {} calls, ∀ id env request result,
    Provided e id env request result →
      ∃ created ∈ deviceMachine.trace {} calls, ∃ challenge verdict,
        Issues created challenge ∧ challenge.challengeId = id ∧ Presents env request challenge ∧
        env.provider request.platform request.attestationToken.val = .triple (.ok verdict) ∧
        result = request.result verdict
  /-- Once a call on an existing challenge has returned, the later ones are replays. -/
  replayed : ∀ pre env request mid env' request' post,
    calls = pre ++ .verify env request :: (mid ++ .verify env' request' :: post) →
    request'.challengeId = request.challengeId →
    ∀ record, (after pre).getChallenge request.challengeId.val = some record →
    ∀ result, (deviceMachine.step (after pre) (.verify env request)).1 = .verified (.ok result) →
      (deviceMachine.step (after (pre ++ .verify env request :: mid)) (.verify env' request')).1 =
        .verified (.ok (request'.rejected "CHALLENGE_REPLAYED"))

/-- Single use, over every run with fresh challenge ids. -/
theorem singleUse (calls : List Call) (hfresh : FreshIds calls) : SingleUse calls := by
  have hrun := run_refines [] calls hfresh
  change OneUse.Run _ ((deviceMachine.trace {} calls).map moveOf) _ at hrun
  refine ⟨?_, ?_, ?_⟩
  · have hspends := List.pairwise_map.mp hrun.spend_once
    refine hspends.imp_of_mem ?_
    intro earlier later hearlier hlater honce id env request result env' request' result'
      hprovided hprovided'
    obtain ⟨_, _, _, _, rfl⟩ := (deviceMachine.mem_trace_iff _ _ _).mp hearlier
    obtain ⟨_, _, _, _, rfl⟩ := (deviceMachine.mem_trace_iff _ _ _).mp hlater
    obtain ⟨challenge, _, hmove, -⟩ := moveOf_of_provided hprovided
    obtain ⟨challenge', _, hmove', -⟩ := moveOf_of_provided hprovided'
    exact honce id challenge challenge' hmove hmove'
  · intro e he id env request result hprovided
    obtain ⟨_, _, _, _, rfl⟩ := (deviceMachine.mem_trace_iff _ _ _).mp he
    obtain ⟨challenge, verdict, hmove, hpresents, hverdict, hresult⟩ :=
      moveOf_of_provided hprovided
    have hmem := List.mem_map_of_mem (f := moveOf) he
    rw [hmove] at hmem
    obtain ⟨pre, post, hmoves⟩ := List.append_of_mem hmem
    rw [hmoves] at hrun
    rcases hrun.spend_opened with ⟨ticket, hticket, -⟩ | hopened
    · cases hticket
    · have hopen : .open id challenge ∈ (deviceMachine.trace {} calls).map moveOf := by
        rw [hmoves]
        exact List.mem_append_left _ hopened
      obtain ⟨created, hcreated, hmove'⟩ := List.mem_map.mp hopen
      obtain ⟨hissues, hid⟩ := issues_of_moveOf hmove'
      exact ⟨created, hcreated, challenge, verdict, hissues, hid, hpresents, hverdict, hresult⟩
  · rintro pre env request mid env' request' post rfl hsame record hget result hreturns
    have hspent := spent_of_returns env request hget hreturns
    have hfresh' : FreshIds ((pre ++ [.verify env request]) ++ mid) := by
      refine List.Nodup.sublist (List.Sublist.filterMap _ ?_) hfresh
      simp
    have hnext : deviceMachine.next (after pre) (.verify env request) =
        after (pre ++ [.verify env request]) := (deviceMachine.run_concat {} pre _).symm
    rw [hnext] at hspent
    have hlater := (run_refines _ _ hfresh').spent_stable hspent
    rw [List.append_assoc, List.singleton_append, ← hsame] at hlater
    exact replayed_of_spent env' request' hlater

/-- A phone asks for a challenge at the start of the first day of year 1. -/
def phoneIssue : Call :=
  .issue { uuid := "00", nonce := .ok "5eed", now := .ok (.atHour true 0 0) }
    { deviceId := ⟨"phone_1", by decide⟩, platform := .ios }

/-- It answers the challenge a minute later. -/
def phoneAttestation : AttestationRequest where
  challengeId := ⟨"challenge_00", by decide⟩
  nonce := ⟨"5eed", by decide⟩
  deviceId := ⟨"phone_1", by decide⟩
  platform := .ios
  attestationToken := ⟨"valid-attestation", by decide⟩

def minuteLater : VerifyEnv where
  now := .ok { wall := DateTime.microsPerMinute, utcOffset := some 0 }
  provider := deterministicAttestationProvider

/-- Its first answer is trusted and its second is a replay. -/
theorem singleUse_phone :
    (deviceMachine.step (after [phoneIssue]) (.verify minuteLater phoneAttestation)).1 =
        .verified (.ok (phoneAttestation.result ⟨.verified, .trusted, "ATTESTATION_VERIFIED"⟩)) ∧
      (deviceMachine.step (after [phoneIssue, .verify minuteLater phoneAttestation])
        (.verify minuteLater phoneAttestation)).1 =
          .verified (.ok (phoneAttestation.rejected "CHALLENGE_REPLAYED")) := by
  have hfirst : (deviceMachine.step (after [phoneIssue])
      (.verify minuteLater phoneAttestation)).1 =
        .verified (.ok (phoneAttestation.result
          ⟨.verified, .trusted, "ATTESTATION_VERIFIED"⟩)) := by rfl
  refine ⟨hfirst, ?_⟩
  have hsingle : SingleUse [phoneIssue, .verify minuteLater phoneAttestation,
      .verify minuteLater phoneAttestation] := singleUse _ (List.nodup_singleton _)
  exact hsingle.replayed [phoneIssue] minuteLater phoneAttestation [] minuteLater phoneAttestation
    [] rfl rfl _ rfl _ hfirst

end VeriPay.DeviceIntegrity
