import VeriPay.Mobile.ChallengeNonce

/-!
What a store holds after some calls: a value from its issue until it is presented, whatever was
presented before the issue, with the sum of the store's own arithmetic.
-/

namespace VeriPay.Mobile

open Lib Lib.HeldKeys

section History

variable {T : Type} (accepts : T → Bool)

/-- The value a call issues. -/
def Call.issued? : Call T → Option String
  | .issue ttl value _ => if accepts ttl then some value else none
  | .consume _ _ => none

/-- No nonce value is issued twice. -/
def DistinctNonces (calls : List (Call T)) : Prop := (calls.filterMap (Call.issued? accepts)).Nodup

/-- The value has been passed to `consume`. -/
def Presented (history : List (Call T)) (value : String) : Prop :=
  ∃ nonce now, .consume nonce now ∈ history ∧ nonce.value = value

/-- The value was issued after the first calls of the history, and not presented since. -/
def HeldSince (history before : List (Call T)) (value : String) (ttl issuedAt : T) : Prop :=
  ∃ after, history = before ++ .issue ttl value issuedAt :: after ∧ accepts ttl = true ∧
    ¬ Presented after value

section Distinct

variable {accepts} {value : String}

theorem issued?_issue {ttl issuedAt : T} (haccepts : accepts ttl = true) :
    (Call.issue ttl value issuedAt).issued? accepts = some value := if_pos haccepts

/-- After the issue of a value there is no other. -/
theorem not_issued_after {before after : List (Call T)} {ttl issuedAt : T}
    (hdistinct : DistinctNonces accepts (before ++ .issue ttl value issuedAt :: after))
    (haccepts : accepts ttl = true) {call : Call T} (hcall : call ∈ after) :
    call.issued? accepts ≠ some value := by
  rw [DistinctNonces, List.filterMap_append,
    List.filterMap_cons_some (issued?_issue haccepts)] at hdistinct
  obtain ⟨-, hnodup, -⟩ := List.nodup_append.mp hdistinct
  intro hissued
  exact (List.nodup_cons.mp hnodup).1 (List.mem_filterMap.mpr ⟨call, hcall, hissued⟩)

/-- A value has one issue in a history. -/
theorem issue_unique {before after before' after' : List (Call T)} {ttl issuedAt ttl' issuedAt' : T}
    (hdistinct : DistinctNonces accepts (before ++ .issue ttl value issuedAt :: after))
    (haccepts : accepts ttl = true) (haccepts' : accepts ttl' = true)
    (heq : before ++ .issue ttl value issuedAt :: after =
      before' ++ .issue ttl' value issuedAt' :: after') :
    before = before' ∧ ttl = ttl' ∧ issuedAt = issuedAt' := by
  rcases List.append_eq_append_iff.mp heq with ⟨between, hbefore, hrest⟩ | ⟨between, hbefore, hrest⟩
  · cases between with
    | nil =>
      cases hrest
      exact ⟨by simpa using hbefore.symm, rfl, rfl⟩
    | cons first between =>
      obtain ⟨-, rfl⟩ := List.cons.inj hrest
      exact absurd (issued?_issue haccepts') (not_issued_after hdistinct haccepts
        (List.mem_append_right between List.mem_cons_self))
  · rw [heq] at hdistinct
    cases between with
    | nil =>
      cases hrest
      exact ⟨by simpa using hbefore, rfl, rfl⟩
    | cons first between =>
      obtain ⟨-, rfl⟩ := List.cons.inj hrest
      exact absurd (issued?_issue haccepts) (not_issued_after hdistinct haccepts'
        (List.mem_append_right between List.mem_cons_self))

theorem DistinctNonces.of_append {history rest : List (Call T)}
    (h : DistinctNonces accepts (history ++ rest)) : DistinctNonces accepts history := by
  rw [DistinctNonces, List.filterMap_append] at h
  exact (List.nodup_append.mp h).1

end Distinct

section Store

variable [Add T]

def moveOf : Call T → Move String T
  | .issue ttl value now => if accepts ttl then .put value (now + ttl) else .idle
  | .consume nonce _ => .take nonce.value

variable {accepts}

theorem moveOf_eq_put_iff {call : Call T} {value : String} {expiry : T} :
    moveOf accepts call = .put value expiry ↔
      ∃ ttl now, call = .issue ttl value now ∧ accepts ttl = true ∧ expiry = now + ttl := by
  cases call with
  | issue ttl other now =>
    simp only [moveOf]
    split_ifs with haccepts
    · constructor
      · intro h
        cases h
        exact ⟨ttl, now, rfl, haccepts, rfl⟩
      · rintro ⟨_, _, hcall, -, rfl⟩
        cases hcall
        rfl
    · refine iff_of_false (fun h => by cases h) ?_
      rintro ⟨_, _, hcall, haccepted, -⟩
      cases hcall
      exact haccepts haccepted
  | consume nonce now =>
    refine iff_of_false (fun h => by cases h) ?_
    rintro ⟨_, _, hcall, -⟩
    cases hcall

/-- A move is on a value when it issues or presents it. -/
theorem moveOf_key?_eq_some_iff {call : Call T} {value : String} :
    (moveOf accepts call).key? = some value ↔
      call.issued? accepts = some value ∨ ∃ nonce now, call = .consume nonce now ∧
        nonce.value = value := by
  cases call with
  | issue ttl other now =>
    simp only [moveOf, Call.issued?]
    split_ifs <;> simp [Move.key?]
  | consume nonce now => simp [moveOf, Call.issued?, Move.key?]

/-- With distinct nonces, the last put of a value is its issue, if it was not presented since. -/
theorem lastPut_iff_heldSince {history : List (Call T)} (hdistinct : DistinctNonces accepts history)
    {value : String} {expiry : T} :
    LastPut (history.map (moveOf accepts)) value expiry ↔
      ∃ before ttl issuedAt, HeldSince accepts history before value ttl issuedAt ∧
        expiry = issuedAt + ttl := by
  constructor
  · rintro ⟨earlier, later, hmoves, hlater⟩
    obtain ⟨before, rest, rfl, rfl, hrest⟩ := List.map_eq_append_iff.mp hmoves
    obtain ⟨call, after, rfl, hcall, rfl⟩ := List.map_eq_cons_iff.mp hrest
    obtain ⟨ttl, issuedAt, rfl, haccepts, rfl⟩ := moveOf_eq_put_iff.mp hcall
    refine ⟨before, ttl, issuedAt, ⟨after, rfl, haccepts, ?_⟩, rfl⟩
    rintro ⟨nonce, now, hmem, hvalue⟩
    refine hlater _ (List.mem_map_of_mem hmem) (moveOf_key?_eq_some_iff.mpr (Or.inr ?_))
    exact ⟨nonce, now, rfl, hvalue⟩
  · rintro ⟨before, ttl, issuedAt, ⟨after, rfl, haccepts, hpresented⟩, rfl⟩
    refine ⟨before.map (moveOf accepts), after.map (moveOf accepts), ?_, ?_⟩
    · rw [List.map_append, List.map_cons, moveOf_eq_put_iff.mpr ⟨ttl, issuedAt, rfl, haccepts, rfl⟩]
    · intro move hmove hkey
      obtain ⟨call, hcall, rfl⟩ := List.mem_map.mp hmove
      rcases moveOf_key?_eq_some_iff.mp hkey with hissued | ⟨nonce, now, rfl, hvalue⟩
      · exact not_issued_after hdistinct haccepts hcall hissued
      · exact hpresented ⟨nonce, now, hcall, hvalue⟩

variable [LT T] [DecidableLT T]

/-- The machine of a store that takes these times to live. -/
abbrev storeMachine (accepts : T → Bool) :=
  nonceMachine (SingleUseNonceStore.issueAccepting accepts) SingleUseNonceStore.takeOut

/-- What the store holds after some calls. -/
theorem expirations_run (history : List (Call T)) :
    ((storeMachine accepts).run {} history).expirations =
      HeldKeys.run (history.map (moveOf accepts)) := by
  induction history using List.reverseRecOn with
  | nil => rfl
  | append_singleton history call ih =>
    rw [Machine.run_concat, List.map_append, List.map_singleton, HeldKeys.run_concat, ← ih]
    generalize (storeMachine accepts).run {} history = store
    cases call with
    | issue ttl value now =>
      simp only [Machine.next, nonceMachine, SingleUseNonceStore.issueAccepting, moveOf]
      split_ifs <;> rfl
    | consume nonce now =>
      simp only [Machine.next, nonceMachine, SingleUseNonceStore.takeOut, moveOf, HeldKeys.apply]
      cases hheld : store.expirations nonce.value with
      | none => exact (Function.update_eq_self_iff.mpr hheld.symm).symm
      | some expiration => rfl

theorem consume_answer_iff (store : SingleUseNonceStore T) (nonce : ChallengeNonce T) (now : T) :
    ((storeMachine accepts).event store (.consume nonce now)).answer = .consumed true ↔
      ∃ expiry, store.expirations nonce.value = some expiry ∧ now < expiry := by
  simp only [Machine.event, nonceMachine, SingleUseNonceStore.takeOut]
  cases store.expirations nonce.value with
  | none => simp
  | some expiry => simp

/-- `consume` answers yes for a value that is held and whose stored expiry is later. -/
theorem consume_eq_true_iff {history : List (Call T)} (hdistinct : DistinctNonces accepts history)
    (nonce : ChallengeNonce T) (now : T) :
    ((storeMachine accepts).event ((storeMachine accepts).run {} history)
      (.consume nonce now)).answer = .consumed true ↔
        ∃ before ttl issuedAt, HeldSince accepts history before nonce.value ttl issuedAt ∧
          now < issuedAt + ttl := by
  rw [consume_answer_iff, expirations_run]
  simp only [HeldKeys.run_eq_some_iff, lastPut_iff_heldSince hdistinct]
  constructor
  · rintro ⟨_, ⟨before, ttl, issuedAt, hsince, rfl⟩, hlater⟩
    exact ⟨before, ttl, issuedAt, hsince, hlater⟩
  · rintro ⟨before, ttl, issuedAt, hsince, hlater⟩
    exact ⟨_, ⟨before, ttl, issuedAt, hsince, rfl⟩, hlater⟩

end Store

end History

end VeriPay.Mobile
