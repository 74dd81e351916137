import VeriPay.TokenVault.Lives

/-!
How often a token is used. The type of a token plays no part when it is consumed, so a
single-use token is used once only where its creation asked for one use or nobody asks
twice. A creation that is delivered again opens the whole budget anew.
-/

namespace VeriPay.TokenVault

open Lib Common

/-- The requests that created the token, oldest first. -/
def creations (tokenId : String) (calls : List VaultCall) : List TokenCreateRequest :=
  calls.filterMap fun
    | .create request => if request.tokenId.val = tokenId then some request else none
    | _ => none

theorem creations_append (tokenId : String) (pre post : List VaultCall) :
    creations tokenId (pre ++ post) = creations tokenId pre ++ creations tokenId post :=
  List.filterMap_append

theorem mem_creations {tokenId : String} {calls : List VaultCall} {request : TokenCreateRequest} :
    request ∈ creations tokenId calls ↔
      .create request ∈ calls ∧ request.tokenId.val = tokenId := by
  rw [creations, List.mem_filterMap]
  constructor
  · intro h
    obtain ⟨call, hcall, hrequest⟩ := h
    cases call with
    | create created =>
      rw [Option.ite_none_right_eq_some, Option.some.injEq] at hrequest
      obtain ⟨hid, rfl⟩ := hrequest
      exact ⟨hcall, hid⟩
    | consume id now => cases hrequest
    | validate request now => cases hrequest
  · intro h
    exact ⟨.create request, h.1, if_pos h.2⟩

/-- One life a creation, the last first. -/
theorem requests_of_lives (tokenId : String) (calls : List VaultCall) :
    (lives tokenId calls).map Life.request = (creations tokenId calls).reverse := by
  induction calls using List.reverseRecOn with
  | nil => rfl
  | append_singleton calls call ih =>
    rw [lives_concat, creations_append, List.reverse_append, ← ih]
    cases call with
    | create request =>
      by_cases hid : request.tokenId.val = tokenId
      · rw [extend_create_same hid, List.map_cons]
        simp [creations, hid]
      · rw [extend_create_other hid]
        simp [creations, hid]
    | consume id now =>
      by_cases hid : id = tokenId
      · subst hid
        cases lives id calls with
        | nil => rfl
        | cons life earlier =>
          rw [extend_consume_same, List.map_cons, Life.consumed_request]
          rfl
      · rw [extend_consume_other hid]
        rfl
    | validate request now => rfl

theorem request_mem_creations {tokenId : String} {calls : List VaultCall} {life : Life}
    (h : life ∈ lives tokenId calls) : life.request ∈ creations tokenId calls := by
  rw [← List.mem_reverse, ← requests_of_lives]
  exact List.mem_map_of_mem h

/-- A life that is not the current one was ended by a creation. -/
theorem exists_creation_after {tokenId : String} {calls : List VaultCall}
    {current life : Life} {newer earlier : List Life}
    (h : lives tokenId calls = current :: newer ++ life :: earlier) :
    ∃ pre request post, calls = pre ++ .create request :: post ∧
      request.tokenId.val = tokenId ∧ lives tokenId pre = life :: earlier := by
  induction calls using List.reverseRecOn generalizing current newer with
  | nil => exact absurd h (List.cons_ne_nil _ _).symm
  | append_singleton calls call ih =>
    have hlater : ∀ {first kept}, lives tokenId calls = first :: kept ++ life :: earlier →
        ∃ pre request post, calls ++ [call] = pre ++ .create request :: post ∧
          request.tokenId.val = tokenId ∧ lives tokenId pre = life :: earlier := by
      intro first kept hbefore
      obtain ⟨pre, request, post, hcalls, hid, hpre⟩ := ih hbefore
      exact ⟨pre, request, post ++ [call], by rw [hcalls, List.append_assoc]; rfl, hid, hpre⟩
    rw [lives_concat] at h
    rcases extend_cases tokenId (lives tokenId calls) call with hsame | hcreate | hconsume
    · rw [hsame] at h
      exact hlater h
    · obtain ⟨request, rfl, hid, hextend⟩ := hcreate
      rw [hextend] at h
      have hbefore := (List.cons.inj h).2
      cases newer with
      | nil => exact ⟨calls, request, [], rfl, hid, hbefore⟩
      | cons first kept => exact hlater hbefore
    · obtain ⟨first, rest, now, -, hlives, hextend⟩ := hconsume
      rw [hextend] at h
      exact hlater (hlives.trans (congrArg (first :: ·) (List.cons.inj h).2))

/-- Later requests keep the lives they find; only the current one may be asked for more. -/
theorem lives_append {tokenId : String} {pre : List VaultCall} {life : Life}
    {earlier : List Life} (h : lives tokenId pre = life :: earlier) (later : List VaultCall) :
    ∃ newer life', lives tokenId (pre ++ later) = newer ++ life' :: earlier ∧
      life'.request = life.request ∧ life.attempts ≤ life'.attempts := by
  induction later using List.reverseRecOn with
  | nil => exact ⟨[], life, by rw [List.append_nil]; exact h, rfl, le_rfl⟩
  | append_singleton later call ih =>
    obtain ⟨newer, life', hlives, hrequest, hattempts⟩ := ih
    rw [← List.append_assoc, lives_concat]
    rcases extend_cases tokenId (lives tokenId (pre ++ later)) call with
      hsame | hcreate | hconsume
    · exact ⟨newer, life', hsame.trans hlives, hrequest, hattempts⟩
    · obtain ⟨request, -, -, hextend⟩ := hcreate
      exact ⟨{ request } :: newer, life', by rw [hextend, hlives]; rfl, hrequest, hattempts⟩
    · obtain ⟨first, rest, now, -, hfirst, hextend⟩ := hconsume
      rw [hfirst] at hlives
      rw [hextend]
      cases newer with
      | nil =>
        obtain ⟨rfl, rfl⟩ := List.cons.inj hlives
        refine ⟨[], first.consumed now, rfl, ?_, ?_⟩
        · rw [Life.consumed_request, hrequest]
        · exact hattempts.trans Life.attempts_le_consumed
      | cons current newer =>
        refine ⟨first.consumed now :: newer, life', ?_, hrequest, hattempts⟩
        rw [(List.cons.inj hlives).2]
        rfl

section SingleUse

/-- No id is created twice. -/
def CreatedOnce (calls : List VaultCall) : Prop :=
  ∀ tokenId, (creations tokenId calls).length ≤ 1

/-- A single-use token is consumed at most once. -/
def SingleUseOnce (calls : List VaultCall) : Prop :=
  ∀ request, .create request ∈ calls → request.tokenType = .singleUse →
    successes request.tokenId.val calls ≤ 1

theorem lives_of_createdOnce {calls : List VaultCall} (honce : CreatedOnce calls)
    {tokenId : String} {life : Life} (hlife : life ∈ lives tokenId calls) :
    lives tokenId calls = [life] := by
  have hlength : (lives tokenId calls).length ≤ 1 := by
    have hmap := congrArg List.length (requests_of_lives tokenId calls)
    rw [List.length_map, List.length_reverse] at hmap
    rw [hmap]
    exact honce tokenId
  cases hlives : lives tokenId calls with
  | nil =>
    rw [hlives] at hlife
    cases hlife
  | cons current earlier =>
    rw [hlives, List.length_cons] at hlength
    have hnone : earlier = [] := List.length_eq_zero_iff.mp (by omega)
    rw [hlives, hnone, List.mem_singleton] at hlife
    rw [hlife, hnone]

theorem exists_life_of_create {calls : List VaultCall} {request : TokenCreateRequest}
    (hcreate : .create request ∈ calls) :
    ∃ life ∈ lives request.tokenId.val calls, life.request = request := by
  have hmem : request ∈ (lives request.tokenId.val calls).map Life.request := by
    rw [requests_of_lives, List.mem_reverse]
    exact mem_creations.mpr ⟨hcreate, rfl⟩
  exact List.mem_map.mp hmem

/-- Where every id is created once, the single-use tokens are used at most once exactly when
each of them was created with one use or is asked for at most once before it expires. -/
theorem singleUseOnce_iff (calls : List VaultCall) (honce : CreatedOnce calls) :
    SingleUseOnce calls ↔ ∀ tokenId, ∀ life ∈ lives tokenId calls,
      life.request.tokenType = .singleUse → life.limit = some 1 ∨ life.attempts ≤ 1 := by
  have hsuccesses : ∀ {tokenId life}, life ∈ lives tokenId calls →
      (successes tokenId calls ≤ 1 ↔ life.limit = some 1 ∨ life.attempts ≤ 1) := by
    intro tokenId life hlife
    rw [successes_eq, lives_of_createdOnce honce hlife, List.map_singleton, List.sum_singleton]
    exact granted_le_one_iff life.limit_pos life.attempts
  constructor
  · intro h tokenId life hlife hsingle
    obtain ⟨hcreate, hid⟩ := mem_creations.mp (request_mem_creations hlife)
    have hle := h life.request hcreate hsingle
    rw [hid] at hle
    exact (hsuccesses hlife).mp hle
  · intro h request hcreate hsingle
    obtain ⟨life, hlife, rfl⟩ := exists_life_of_create hcreate
    exact (hsuccesses hlife).mpr (h _ life hlife hsingle)

/-- A creation that leaves the type and the limit to their defaults. -/
def defaultCard : TokenCreateRequest where
  tokenId := ⟨"tok_1", by decide⟩
  merchantId := ⟨"merchant_1", by decide⟩
  userId := ⟨"user_1", by decide⟩
  expiresAt := DateTime.atHour true 30 0

def consumeAt (day : ℤ) : VaultCall := .consume "tok_1" (DateTime.atHour true day 0)

theorem createdOnce_of_create (request : TokenCreateRequest) (days : List ℤ) :
    CreatedOnce (.create request :: days.map consumeAt) := by
  intro tokenId
  have hnone : creations tokenId (days.map consumeAt) = [] := by
    rw [creations, List.filterMap_eq_nil_iff, List.forall_mem_map]
    exact fun day _ => rfl
  rw [← List.singleton_append, creations_append, hnone, List.append_nil]
  exact List.length_filterMap_le _ [VaultCall.create request]

/-- Two requests consume the single-use token of a creation that names no limit. -/
theorem not_singleUseOnce_default :
    ¬ ∀ calls, CreatedOnce calls → SingleUseOnce calls := by
  intro h
  have hle := h _ (createdOnce_of_create defaultCard [1, 2]) defaultCard List.mem_cons_self rfl
  have htwo : successes "tok_1" (.create defaultCard :: [1, 2].map consumeAt) = 2 := by decide
  exact absurd (htwo.symm.trans_le hle) (by omega)

theorem singleUseOnce_iff_default :
    SingleUseOnce (.create defaultCard :: [1, 2].map consumeAt) ↔
      ∀ tokenId, ∀ life ∈ lives tokenId (.create defaultCard :: [1, 2].map consumeAt),
        life.request.tokenType = .singleUse → life.limit = some 1 ∨ life.attempts ≤ 1 :=
  singleUseOnce_iff _ (createdOnce_of_create defaultCard [1, 2])

end SingleUse

section Retries

variable {tokenId : String}

/-- No request brings a spent token back. -/
def NeverRevived (tokenId : String) (calls : List VaultCall) : Prop :=
  ∀ pre mid post, calls = pre ++ mid ++ post →
    ∀ token, (after pre).get tokenId = some token → token.status = .exhausted →
      ∀ token', (after (pre ++ mid)).get tokenId = some token' →
        ∀ now, isUsable token' now ≠ .ok true

theorem current_of_get {calls : List VaultCall} {token : TokenRecord}
    (h : (after calls).get tokenId = some token) :
    ∃ life earlier, lives tokenId calls = life :: earlier ∧ token = life.record := by
  rw [get_after] at h
  cases hlives : lives tokenId calls with
  | nil =>
    rw [hlives] at h
    cases h
  | cons life earlier =>
    rw [hlives] at h
    cases h
    exact ⟨life, earlier, rfl, rfl⟩

theorem exhausted_iff (life : Life) :
    life.record.status = .exhausted ↔ Spent life.limit life.attempts := by
  show (if Spent life.limit life.attempts then TokenStatus.exhausted else .active) = _ ↔ _
  split_ifs with h
  · exact iff_of_true rfl h
  · exact iff_of_false (by decide) h

/-- A spent token stays spent unless a creation leaves its life behind. -/
theorem neverRevived_of_unspent {calls : List VaultCall}
    (h : ∀ life ∈ (lives tokenId calls).tail, ¬ Spent life.limit life.attempts) :
    NeverRevived tokenId calls := by
  intro pre mid post hcalls token htoken hexhausted token' htoken' now
  obtain ⟨life, earlier, hpre, rfl⟩ := current_of_get htoken
  obtain ⟨current, others, hmid, rfl⟩ := current_of_get htoken'
  obtain ⟨newer, life', hlives, hrequest, hattempts⟩ := lives_append hpre mid
  have hspent : Spent life'.limit life'.attempts := by
    rw [Life.limit, hrequest]
    exact ((exhausted_iff life).mp hexhausted).mono hattempts
  rw [hmid] at hlives
  cases newer with
  | nil =>
    obtain ⟨rfl, -⟩ := List.cons.inj hlives
    rw [Life.isUsable_spent hspent]
    decide
  | cons first newer =>
    -- the spent life lies behind a later creation, where no request reaches it any more
    obtain ⟨final, last, hfinal, -, -⟩ := lives_append hmid post
    rw [← hcalls] at hfinal
    have hbehind : life' ∈ others := by
      rw [(List.cons.inj hlives).2]
      exact List.mem_append_right _ List.mem_cons_self
    refine absurd hspent (h life' ?_)
    rw [hfinal]
    cases final with
    | nil => exact hbehind
    | cons _ _ => exact List.mem_append_right _ (List.mem_cons_of_mem _ hbehind)

/-- Where every creation asks for the same, a spent life that is left behind was revived. -/
theorem unspent_of_neverRevived {calls : List VaultCall} {request : TokenCreateRequest}
    (hsame : ∀ created ∈ creations tokenId calls, created = request)
    (h : NeverRevived tokenId calls) :
    ∀ life ∈ (lives tokenId calls).tail, ¬ Spent life.limit life.attempts := by
  intro life hlife hspent
  cases hlives : lives tokenId calls with
  | nil =>
    rw [hlives] at hlife
    cases hlife
  | cons current rest =>
    rw [hlives, List.tail_cons] at hlife
    have hmem : life ∈ lives tokenId calls := by
      rw [hlives]
      exact List.mem_cons_of_mem _ hlife
    obtain ⟨newer, earlier, rfl⟩ := List.append_of_mem hlife
    obtain ⟨pre, created, post, hcalls, hid, hpre⟩ := exists_creation_after hlives
    have hcreated : created = life.request := by
      have hcreate : created ∈ creations tokenId calls := by
        rw [mem_creations, hcalls]
        exact ⟨List.mem_append_right _ List.mem_cons_self, hid⟩
      rw [hsame created hcreate, hsame _ (request_mem_creations hmem)]
    have hpos : 0 < life.attempts := by
      obtain ⟨n, hn, hle⟩ := hspent
      exact (life.limit_pos n hn).trans hle
    obtain ⟨now, htimely⟩ := exists_timely calls life hmem hpos
    have hnew : lives tokenId (pre ++ [.create created]) = { request := created } ::
        life :: earlier := by
      rw [lives_concat, hpre, extend_create_same hid]
    have husable : isUsable (Life.record { request := created }) now = .ok true := by
      refine Life.usable_iff.mpr ⟨Life.unspent_begin created, ?_⟩
      rw [hcreated]
      exact htimely
    refine h pre [.create created] post ?_ _ (get_of_current hpre)
      ((exhausted_iff life).mpr hspent) _ (get_of_current hnew) now husable
    rw [hcalls, List.append_assoc]
    rfl

/-- Where every creation of an id asks for the same `n` uses, at most `n` are granted and a
spent token stays spent exactly when no creation arrives after a request to consume, or at
most `n` such requests are made and no creation arrives after the last of `n`. -/
theorem budget_kept_iff (calls : List VaultCall) (request : TokenCreateRequest)
    (n : {n : ℕ // 1 ≤ n}) (hn : request.maxUses = some n)
    (hsame : ∀ created ∈ creations tokenId calls, created = request) :
    successes tokenId calls ≤ n ∧ NeverRevived tokenId calls ↔
      (∀ life ∈ (lives tokenId calls).tail, life.attempts = 0) ∨
        (((lives tokenId calls).map Life.attempts).sum ≤ n ∧
          ∀ life ∈ (lives tokenId calls).tail, life.attempts < n) := by
  have hlimit : ∀ life ∈ lives tokenId calls, life.limit = some n.val := by
    intro life hlife
    rw [Life.limit, hsame _ (request_mem_creations hlife), hn]
    rfl
  have hrevived : NeverRevived tokenId calls ↔
      ∀ life ∈ (lives tokenId calls).tail, life.attempts < n := by
    have hunspent : ∀ life ∈ (lives tokenId calls).tail,
        (¬ Spent life.limit life.attempts ↔ life.attempts < n) := by
      intro life hlife
      rw [hlimit life (List.mem_of_mem_tail hlife), spent_some, not_le]
    constructor
    · intro h life hlife
      exact (hunspent life hlife).mp (unspent_of_neverRevived hsame h life hlife)
    · intro h
      exact neverRevived_of_unspent fun life hlife => (hunspent life hlife).mpr (h life hlife)
  have hgranted : (lives tokenId calls).map Life.granted =
      ((lives tokenId calls).map Life.attempts).map (Lib.granted (some n.val)) := by
    rw [List.map_map]
    refine List.map_congr_left fun life hlife => ?_
    rw [Life.granted, hlimit life hlife]
    rfl
  rw [hrevived, successes_eq, hgranted]
  cases lives tokenId calls with
  | nil => simp
  | cons current earlier =>
    have hsum := sum_granted_le_iff n.property current.attempts (earlier.map Life.attempts)
    simp only [List.forall_mem_map] at hsum
    exact hsum

/-- A creation for one use. -/
def oneUseCard : TokenCreateRequest := { defaultCard with maxUses := some ⟨1, le_rfl⟩ }

/-- The creation is delivered again after its use is spent. -/
def retriedCreation : List VaultCall :=
  [.create oneUseCard, consumeAt 1, .create oneUseCard, consumeAt 2]

theorem creations_retried :
    ∀ created ∈ creations "tok_1" retriedCreation, created = oneUseCard := by
  intro created hcreated
  have hcreations : creations "tok_1" retriedCreation = [oneUseCard, oneUseCard] := rfl
  rw [hcreations] at hcreated
  exact (List.mem_replicate (n := 2).mp hcreated).2

/-- A retried creation lets one use be consumed twice and brings the spent token back. -/
theorem not_budget_kept_retried :
    ¬ ∀ calls tokenId request (n : {n : ℕ // 1 ≤ n}), request.maxUses = some n →
      (∀ created ∈ creations tokenId calls, created = request) →
        successes tokenId calls ≤ n ∧ NeverRevived tokenId calls := by
  intro h
  obtain ⟨hle, -⟩ := h retriedCreation "tok_1" oneUseCard ⟨1, le_rfl⟩ rfl creations_retried
  have htwo : successes "tok_1" retriedCreation = 2 := by decide
  exact absurd (htwo.symm.trans_le hle) (by decide)

theorem budget_kept_iff_retried :
    successes "tok_1" retriedCreation ≤ 1 ∧ NeverRevived "tok_1" retriedCreation ↔
      (∀ life ∈ (lives "tok_1" retriedCreation).tail, life.attempts = 0) ∨
        (((lives "tok_1" retriedCreation).map Life.attempts).sum ≤ 1 ∧
          ∀ life ∈ (lives "tok_1" retriedCreation).tail, life.attempts < 1) :=
  budget_kept_iff retriedCreation oneUseCard ⟨1, le_rfl⟩ rfl creations_retried

end Retries

end VeriPay.TokenVault
