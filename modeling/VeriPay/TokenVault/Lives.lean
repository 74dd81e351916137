import VeriPay.Lib.Budget
import VeriPay.TokenVault.Service

/-!
The lives of a token id. Each creation begins a new life of the id with the uses of its
request, whatever was left of the life before; consuming spends the uses of the current
life. The vault stores the record of the current life, and as many requests to consume
succeed as the lives grant.
-/

namespace VeriPay.TokenVault

open Lib Common

/-- A creation of a token, and the requests to consume it in time since then. -/
structure Life where
  request : TokenCreateRequest
  attempts : ℕ := 0

/-- The clock is read before the token expires. -/
def TokenCreateRequest.Timely (request : TokenCreateRequest) (now : DateTime) : Prop :=
  now.lt request.expiresAt = .ok true

instance (request : TokenCreateRequest) (now : DateTime) : Decidable (request.Timely now) :=
  inferInstanceAs (Decidable (_ = _))

namespace Life

variable (life : Life)

def limit : Option ℕ := life.request.maxUses.map Subtype.val

def granted : ℕ := Lib.granted life.limit life.attempts

def attempted : Life := { life with attempts := life.attempts + 1 }

/-- The record the vault keeps in this life. -/
def record : TokenRecord :=
  { life.request.record with
    uses := life.granted
    status := if Spent life.limit life.attempts then .exhausted else .active }

/-- The request is granted. -/
def Grants (now : DateTime) : Prop :=
  ¬ Spent life.limit life.attempts ∧ life.request.Timely now

instance (now : DateTime) : Decidable (life.Grants now) := inferInstanceAs (Decidable (_ ∧ _))

/-- The life after a request to consume. -/
def consumed (now : DateTime) : Life := if life.request.Timely now then life.attempted else life

end Life

/-- The lives of an id after one more request, the current one first. -/
def extend (tokenId : String) (lives : List Life) : VaultCall → List Life
  | .create request =>
    if request.tokenId.val = tokenId then { request } :: lives else lives
  | .consume id now =>
    match lives with
    | [] => []
    | life :: earlier => (if id = tokenId then life.consumed now else life) :: earlier
  | .validate _ _ => lives

def lives (tokenId : String) (calls : List VaultCall) : List Life :=
  calls.foldl (extend tokenId) []

theorem lives_concat (tokenId : String) (calls : List VaultCall) (call : VaultCall) :
    lives tokenId (calls ++ [call]) = extend tokenId (lives tokenId calls) call := by
  rw [lives, List.foldl_append]
  rfl

namespace Life

variable {life : Life} {now : DateTime}

@[simp] theorem consumed_request : (life.consumed now).request = life.request := by
  unfold consumed
  split_ifs <;> rfl

theorem attempts_le_consumed : life.attempts ≤ (life.consumed now).attempts := by
  unfold consumed
  split_ifs
  · exact Nat.le_succ _
  · exact le_rfl

theorem limit_pos (life : Life) : ∀ n ∈ life.limit, 1 ≤ n := by
  intro n hn
  obtain ⟨limit, -, rfl⟩ := Option.map_eq_some_iff.mp hn
  exact limit.property

/-- A new life has uses left. -/
theorem unspent_begin (request : TokenCreateRequest) :
    ¬ Spent (limit { request }) 0 := by
  rintro ⟨n, hn, hspent⟩
  have hpos := limit_pos { request } n hn
  omega

theorem record_begin (request : TokenCreateRequest) :
    ({ request } : Life).record = request.record := by
  have hunspent := unspent_begin request
  have hnone : granted { request } = 0 := granted_of_not_spent hunspent
  rw [record, hnone, if_neg hunspent]
  rfl

theorem isUsable_spent (h : Spent life.limit life.attempts) :
    isUsable life.record now = .ok false := by
  have hstatus : life.record.status = .exhausted := if_pos h
  rw [isUsable, if_pos (by rw [hstatus]; decide)]
  rfl

/-- While uses are left, expiry decides. -/
theorem isUsable_unspent (h : ¬ Spent life.limit life.attempts) :
    isUsable life.record now = now.lt life.request.expiresAt := by
  have hstatus : life.record.status = .active := if_neg h
  have huses : life.record.uses = life.attempts := granted_of_not_spent h
  refine isUsable_eq_lt hstatus ?_ now
  intro limit hmax
  rw [huses]
  by_contra hspent
  have hlimit : life.limit = some limit.val := by
    rw [Life.limit]
    exact congrArg (Option.map Subtype.val) hmax
  exact h ⟨limit.val, hlimit, Nat.le_of_not_lt hspent⟩

theorem usable_iff : isUsable life.record now = .ok true ↔ life.Grants now := by
  by_cases h : Spent life.limit life.attempts
  · rw [isUsable_spent h]
    exact iff_of_false (by decide) fun hgrants => hgrants.1 h
  · rw [isUsable_unspent h]
    exact ⟨fun htimely => ⟨h, htimely⟩, And.right⟩

/-- A granted use leaves the record of the life it brings. -/
theorem consume_grants (h : life.Grants now) :
    consume life.record now = .ok (life.consumed now).record := by
  obtain ⟨hleft, htimely⟩ := h
  have huses : life.record.uses = life.attempts := granted_of_not_spent hleft
  have hstatus : life.record.status = .active := if_neg hleft
  have hgranted : life.attempted.granted = life.attempts + 1 := by
    show Lib.granted life.limit (life.attempts + 1) = _
    rw [granted_succ, if_neg hleft, granted_of_not_spent hleft]
  have husable := usable_iff.mpr ⟨hleft, htimely⟩
  rw [consumed, if_pos htimely]
  have hnext : life.attempted.record.status =
      if Spent life.limit (life.attempts + 1) then .exhausted else .active := rfl
  cases hmax : life.request.maxUses with
  | none =>
    have hlimit : life.limit = none := by rw [limit, hmax]; rfl
    rw [hlimit, if_neg (not_spent_none _)] at hnext
    rw [consume_eq_of_none husable hmax, huses]
    exact congrArg Except.ok
      (TokenRecord.ext rfl rfl rfl rfl (hstatus.trans hnext.symm) rfl rfl hgranted.symm)
  | some limit =>
    have hlimit : life.limit = some limit.val := by rw [Life.limit, hmax]; rfl
    rw [hlimit, if_congr (spent_some limit.val _) rfl rfl] at hnext
    rw [consume_eq_of_some husable hmax, huses, hstatus]
    exact congrArg Except.ok
      (TokenRecord.ext rfl rfl rfl rfl hnext.symm rfl rfl hgranted.symm)

theorem consume_refused (h : ¬ life.Grants now) : ∃ e, consume life.record now = .error e := by
  rw [consume]
  cases husable : isUsable life.record now with
  | error e => exact ⟨e, rfl⟩
  | ok usable =>
    cases usable with
    | true => exact absurd (usable_iff.mp husable) h
    | false => exact ⟨_, rfl⟩

/-- A request that is not granted leaves the record as it is. -/
theorem record_consumed (h : ¬ life.Grants now) : (life.consumed now).record = life.record := by
  unfold consumed
  split_ifs with htimely
  · have hspent : Spent life.limit life.attempts := by
      by_contra hleft
      exact h ⟨hleft, htimely⟩
    have hlater : Spent life.limit (life.attempts + 1) := hspent.mono (Nat.le_succ _)
    have hgranted : life.attempted.granted = life.granted :=
      Option.some.inj ((granted_of_spent hlater).symm.trans (granted_of_spent hspent))
    rw [record, record, hgranted, if_pos hspent]
    show ({ life.request.record with
      uses := life.granted
      status := if Spent life.limit (life.attempts + 1) then .exhausted else .active } :
        TokenRecord) = _
    rw [if_pos hlater]
  · rfl

theorem granted_consumed :
    (life.consumed now).granted = life.granted + if life.Grants now then 1 else 0 := by
  unfold consumed
  by_cases htimely : life.request.Timely now
  · rw [if_pos htimely]
    show Lib.granted life.limit (life.attempts + 1) = _
    rw [granted_succ, granted]
    by_cases hspent : Spent life.limit life.attempts
    · rw [if_pos hspent, if_neg fun h : life.Grants now => h.1 hspent]
    · rw [if_neg hspent, if_pos (show life.Grants now from ⟨hspent, htimely⟩)]
  · rw [if_neg htimely, if_neg fun h : life.Grants now => htimely h.2, Nat.add_zero]

end Life

theorem extend_create_same {request : TokenCreateRequest} {tokenId : String}
    (h : request.tokenId.val = tokenId) (lives : List Life) :
    extend tokenId lives (.create request) = { request } :: lives := if_pos h

theorem extend_create_other {request : TokenCreateRequest} {tokenId : String}
    (h : request.tokenId.val ≠ tokenId) (lives : List Life) :
    extend tokenId lives (.create request) = lives := if_neg h

theorem extend_consume_same (tokenId : String) (now : DateTime) (life : Life)
    (earlier : List Life) :
    extend tokenId (life :: earlier) (.consume tokenId now) = life.consumed now :: earlier := by
  rw [extend, if_pos rfl]

theorem extend_consume_other {id tokenId : String} (h : id ≠ tokenId) (now : DateTime)
    (lives : List Life) : extend tokenId lives (.consume id now) = lives := by
  cases lives with
  | nil => rfl
  | cons life earlier => rw [extend, if_neg h]

/-- All that one more request can do to the lives of an id. -/
theorem extend_cases (tokenId : String) (lives : List Life) (call : VaultCall) :
    extend tokenId lives call = lives ∨
      (∃ request, call = .create request ∧ request.tokenId.val = tokenId ∧
        extend tokenId lives call = { request } :: lives) ∨
      ∃ life earlier now, call = .consume tokenId now ∧ lives = life :: earlier ∧
        extend tokenId lives call = life.consumed now :: earlier := by
  cases call with
  | create request =>
    by_cases hid : request.tokenId.val = tokenId
    · exact Or.inr (Or.inl ⟨request, rfl, hid, extend_create_same hid lives⟩)
    · exact Or.inl (extend_create_other hid lives)
  | consume id now =>
    by_cases hid : id = tokenId
    · subst hid
      cases lives with
      | nil => exact Or.inl rfl
      | cons life earlier =>
        exact Or.inr (Or.inr ⟨life, earlier, now, rfl, rfl, extend_consume_same ..⟩)
    · exact Or.inl (extend_consume_other hid now lives)
  | validate request now => exact Or.inl rfl

/-- What holds of a new life and is kept by consuming holds of every life. -/
theorem forall_lives {P : Life → Prop} {tokenId : String}
    (hnew : ∀ request : TokenCreateRequest, request.tokenId.val = tokenId → P { request })
    (hconsumed : ∀ life now, P life → P (life.consumed now)) (calls : List VaultCall) :
    ∀ life ∈ lives tokenId calls, P life := by
  induction calls using List.reverseRecOn with
  | nil => exact fun life hlife => nomatch hlife
  | append_singleton calls call ih =>
    rw [lives_concat]
    rcases extend_cases tokenId (lives tokenId calls) call with hsame | hcreate | hconsume
    · rw [hsame]
      exact ih
    · obtain ⟨request, -, hid, hextend⟩ := hcreate
      rw [hextend]
      exact List.forall_mem_cons.mpr ⟨hnew request hid, ih⟩
    · obtain ⟨life, earlier, now, -, hlives, hextend⟩ := hconsume
      rw [hlives, List.forall_mem_cons] at ih
      rw [hextend]
      exact List.forall_mem_cons.mpr ⟨hconsumed life now ih.1, ih.2⟩

/-- Every life of an id was created under it. -/
theorem tokenId_of_mem_lives {tokenId : String} (calls : List VaultCall) :
    ∀ life ∈ lives tokenId calls, life.request.tokenId.val = tokenId := by
  apply forall_lives
  · exact fun request hid => hid
  · intro life now hid
    rwa [Life.consumed_request]

/-- What a life counts was asked for in time. -/
theorem exists_timely {tokenId : String} (calls : List VaultCall) :
    ∀ life ∈ lives tokenId calls, 0 < life.attempts → ∃ now, life.request.Timely now := by
  apply forall_lives
  · exact fun request _ hpos => absurd hpos (lt_irrefl 0)
  · intro life now ih hpos
    rw [Life.consumed_request]
    by_cases htimely : life.request.Timely now
    · exact ⟨now, htimely⟩
    · rw [Life.consumed, if_neg htimely] at hpos
      exact ih hpos

variable {repository : InMemoryTokenRepository} {tokenId : String} {life : Life} {now : DateTime}

/-- Consuming is answered with a record exactly when the current life grants it, and leaves
the record of the life that follows. -/
theorem exec_consume (hstored : repository.get tokenId = some life.record)
    (hid : life.request.tokenId.val = tokenId) :
    ((Effect.exec (consumeToken tokenId now) repository).1.isOk ↔ life.Grants now) ∧
      ∀ id, (Effect.exec (consumeToken tokenId now) repository).2.get id =
        if id = tokenId then some (life.consumed now).record else repository.get id := by
  rw [consumeToken, Effect.exec_bind_ok (Effect.exec_get _), hstored]
  dsimp only
  by_cases hgrants : life.Grants now
  · rw [life.consume_grants hgrants]
    refine ⟨iff_of_true rfl hgrants, fun id => ?_⟩
    show (repository.save (life.consumed now).record).get id = _
    have hkept : (life.consumed now).record.tokenId.val = tokenId := by
      show (life.consumed now).request.tokenId.val = tokenId
      rw [Life.consumed_request, hid]
    rw [InMemoryTokenRepository.get_save, hkept]
  · obtain ⟨e, herror⟩ := life.consume_refused hgrants
    have hkept : ∀ id, repository.get id =
        if id = tokenId then some (life.consumed now).record else repository.get id := by
      intro id
      split_ifs with heq
      · rw [Life.record_consumed hgrants, heq, hstored]
      · rfl
    rw [herror]
    dsimp only
    split_ifs
    · exact ⟨iff_of_false Bool.false_ne_true hgrants, hkept⟩
    · exact ⟨iff_of_false Bool.false_ne_true hgrants, hkept⟩

theorem exec_consume_unknown (hnone : repository.get tokenId = none) :
    Effect.exec (consumeToken tokenId now) repository =
      (.error (httpException 404 "Token not found"), repository) := by
  rw [consumeToken, Effect.exec_bind_ok (Effect.exec_get _), hnone]
  rfl

theorem after_concat (calls : List VaultCall) (call : VaultCall) :
    after (calls ++ [call]) = vaultMachine.next (after calls) call :=
  vaultMachine.run_concat ..

/-- The vault stores under every id the record of its current life. -/
theorem get_after (calls : List VaultCall) (tokenId : String) :
    (after calls).get tokenId = (lives tokenId calls).head?.map Life.record := by
  induction calls using List.reverseRecOn generalizing tokenId with
  | nil => rfl
  | append_singleton calls call ih =>
    rw [after_concat, lives_concat]
    cases call with
    | create request =>
      show ((after calls).save request.record).get tokenId = _
      rw [InMemoryTokenRepository.get_save]
      by_cases hid : request.tokenId.val = tokenId
      · rw [if_pos (show tokenId = request.record.tokenId.val from hid.symm),
          extend_create_same hid, List.head?_cons, Option.map_some, Life.record_begin]
      · rw [if_neg (show tokenId ≠ request.record.tokenId.val from Ne.symm hid),
          extend_create_other hid, ih]
    | consume id now =>
      show (Effect.exec (consumeToken id now) (after calls)).2.get tokenId = _
      cases hlives : lives id calls with
      | nil =>
        have hnone : (after calls).get id = none := by rw [ih, hlives]; rfl
        rw [exec_consume_unknown hnone, ih]
        by_cases hid : id = tokenId
        · rw [← hid, hlives]
          rfl
        · rw [extend_consume_other hid]
      | cons life earlier =>
        have hstored : (after calls).get id = some life.record := by rw [ih, hlives]; rfl
        have hcreated : life.request.tokenId.val = id :=
          tokenId_of_mem_lives calls life (by rw [hlives]; exact List.mem_cons_self)
        rw [(exec_consume hstored hcreated).2]
        by_cases hid : id = tokenId
        · rw [← hid, if_pos rfl, hlives, extend_consume_same]
          rfl
        · rw [if_neg (Ne.symm hid), extend_consume_other hid, ih]
    | validate request now => exact ih tokenId

theorem get_of_current {tokenId : String} {calls : List VaultCall} {life : Life}
    {earlier : List Life} (h : lives tokenId calls = life :: earlier) :
    (after calls).get tokenId = some life.record := by
  rw [get_after, h]
  rfl

/-- The request consumed a use of the token. -/
def Consumed (tokenId : String)
    (e : Machine.Event InMemoryTokenRepository VaultCall VaultAnswer) : Bool :=
  match e.call, e.answer with
  | .consume id _, .token answer => id = tokenId ∧ answer.isOk
  | _, _ => false

/-- How many requests to consume the token succeed. -/
def successes (tokenId : String) (calls : List VaultCall) : ℕ :=
  (vaultMachine.trace {} calls).countP (Consumed tokenId)

theorem successes_concat (tokenId : String) (calls : List VaultCall) (call : VaultCall) :
    successes tokenId (calls ++ [call]) = successes tokenId calls +
      if Consumed tokenId (vaultMachine.event (after calls) call) then 1 else 0 := by
  rw [successes, Machine.trace_append, List.countP_append]
  show _ + List.countP (Consumed tokenId) [vaultMachine.event (after calls) call] = _
  rw [List.countP_singleton]
  rfl

theorem consumed_consume (tokenId : String) (calls : List VaultCall) (now : DateTime) :
    Consumed tokenId (vaultMachine.event (after calls) (.consume tokenId now)) =
      (Effect.exec (consumeToken tokenId now) (after calls)).1.isOk := by
  show decide (tokenId = tokenId ∧ _) = _
  simp only [true_and, Bool.decide_eq_true]
  rfl

/-- A request to consume succeeds as often as the current life grants it. -/
theorem consumed_add_granted (tokenId : String) (calls : List VaultCall) (now : DateTime) :
    (((lives tokenId calls).map Life.granted).sum +
        if Consumed tokenId (vaultMachine.event (after calls) (.consume tokenId now)) then 1
        else 0) =
      ((extend tokenId (lives tokenId calls) (.consume tokenId now)).map Life.granted).sum := by
  rw [consumed_consume]
  cases hlives : lives tokenId calls with
  | nil =>
    have hnone : (after calls).get tokenId = none := by rw [get_after, hlives]; rfl
    rw [exec_consume_unknown hnone]
    rfl
  | cons life earlier =>
    have hcreated : life.request.tokenId.val = tokenId :=
      tokenId_of_mem_lives calls life (by rw [hlives]; exact List.mem_cons_self)
    rw [if_congr (exec_consume (get_of_current hlives) hcreated).1 rfl rfl, extend_consume_same,
      List.map_cons, List.map_cons, List.sum_cons, List.sum_cons, Life.granted_consumed]
    omega

/-- As many requests succeed as the lives of the id grant. -/
theorem successes_eq (tokenId : String) (calls : List VaultCall) :
    successes tokenId calls = ((lives tokenId calls).map Life.granted).sum := by
  induction calls using List.reverseRecOn with
  | nil => rfl
  | append_singleton calls call ih =>
    rw [successes_concat, lives_concat, ih]
    cases call with
    | create request =>
      rw [if_neg (by exact Bool.false_ne_true)]
      by_cases hid : request.tokenId.val = tokenId
      · have hnone : (Life.granted { request }) = 0 :=
          Nat.le_zero.mp (granted_le_attempts _ 0)
        rw [extend_create_same hid, List.map_cons, List.sum_cons, hnone, Nat.zero_add]
        rfl
      · rw [extend_create_other hid]
        rfl
    | consume id now =>
      by_cases hid : id = tokenId
      · subst hid
        exact consumed_add_granted id calls now
      · have hother : Consumed tokenId (vaultMachine.event (after calls) (.consume id now)) =
            false := decide_eq_false fun h => hid h.1
        rw [hother, extend_consume_other hid]
        rfl
    | validate request now => rfl

end VeriPay.TokenVault
