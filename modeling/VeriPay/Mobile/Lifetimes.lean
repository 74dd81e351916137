import VeriPay.Mobile.NonceHistory

/-!
How long the issued nonces are good for. The stores answer as the lifetimes say unless a value was
presented ahead of its issue, or the Android sum of clock and time to live leaves the `Long` range
and its wrapped value is not later than the clock.
-/

namespace VeriPay.Mobile

open Lib

section Honoured

variable {T : Type}

/-- `consume` answers yes exactly for a value that was issued, was never presented and is live. -/
def HonoursLifetimes (m : Machine (SingleUseNonceStore T) (Call T) (Answer T)) (accepts : T → Bool)
    (live : T → T → T → Prop) (calls : List (Call T)) : Prop :=
  ∀ history nonce now rest, calls = history ++ .consume nonce now :: rest →
    ((m.event (m.run {} history) (.consume nonce now)).answer = .consumed true ↔
      (∃ ttl issuedAt, .issue ttl nonce.value issuedAt ∈ history ∧ accepts ttl = true ∧
        live ttl issuedAt now) ∧ ¬ Presented history nonce.value)

/-- The expiry field of a presented nonce has no influence. -/
def IgnoresExpiry (m : Machine (SingleUseNonceStore T) (Call T) (Answer T)) : Prop :=
  ∀ store nonce expiresAt now,
    m.step store (.consume { nonce with expiresAt } now) = m.step store (.consume nonce now)

/-- Each held value that was presented ahead of its issue is presented after its stored expiry, and
the sum of every other one is good. -/
def Reliable [Add T] [LT T] (accepts : T → Bool) (good : T → T → T → Prop)
    (calls : List (Call T)) : Prop :=
  ∀ history nonce now rest, calls = history ++ .consume nonce now :: rest →
    ∀ before ttl issuedAt, HeldSince accepts history before nonce.value ttl issuedAt →
      (Presented before nonce.value → ¬ now < issuedAt + ttl) ∧
        (¬ Presented before nonce.value → good ttl issuedAt now)

/-- An issue presents nothing. -/
theorem presented_around_issue {before after : List (Call T)} {value other : String}
    {ttl issuedAt : T} :
    Presented (before ++ .issue ttl other issuedAt :: after) value ↔
      Presented before value ∨ Presented after value := by
  constructor
  · rintro ⟨nonce, now, hmem, hvalue⟩
    rcases List.mem_append.mp hmem with hmem | hmem
    · exact Or.inl ⟨nonce, now, hmem, hvalue⟩
    · rcases List.mem_cons.mp hmem with hcall | hmem
      · cases hcall
      · exact Or.inr ⟨nonce, now, hmem, hvalue⟩
  · rintro (⟨nonce, now, hmem, hvalue⟩ | ⟨nonce, now, hmem, hvalue⟩)
    · exact ⟨nonce, now, by simp [hmem], hvalue⟩
    · exact ⟨nonce, now, by simp [hmem], hvalue⟩

variable [Add T] [LT T] [DecidableLT T] {accepts : T → Bool} {live good : T → T → T → Prop}

/-- One presented nonce, with the sums that are `good` for it. -/
theorem consume_honoured_iff {history : List (Call T)} (hdistinct : DistinctNonces accepts history)
    (nonce : ChallengeNonce T) (now : T)
    (hgood : ∀ ttl issuedAt, accepts ttl = true →
      ((now < issuedAt + ttl ↔ live ttl issuedAt now) ↔ good ttl issuedAt now)) :
    (((storeMachine accepts).event ((storeMachine accepts).run {} history)
      (.consume nonce now)).answer = .consumed true ↔
        (∃ ttl issuedAt, .issue ttl nonce.value issuedAt ∈ history ∧ accepts ttl = true ∧
          live ttl issuedAt now) ∧ ¬ Presented history nonce.value) ↔
      ∀ before ttl issuedAt, HeldSince accepts history before nonce.value ttl issuedAt →
        (Presented before nonce.value → ¬ now < issuedAt + ttl) ∧
          (¬ Presented before nonce.value → good ttl issuedAt now) := by
  rw [consume_eq_true_iff hdistinct]
  constructor
  · intro hanswer before ttl issuedAt hsince
    obtain ⟨after, rfl, haccepts, hafter⟩ := id hsince
    constructor
    · intro hearly hlater
      exact (hanswer.mp ⟨before, ttl, issuedAt, hsince, hlater⟩).2
        (presented_around_issue.mpr (Or.inl hearly))
    · intro hearly
      rw [← hgood ttl issuedAt haccepts]
      constructor
      · intro hlater
        obtain ⟨⟨ttl', issuedAt', hissue, haccepts', hlive⟩, -⟩ :=
          hanswer.mp ⟨before, ttl, issuedAt, hsince, hlater⟩
        obtain ⟨before', after', heq⟩ := List.append_of_mem hissue
        obtain ⟨-, rfl, rfl⟩ := issue_unique hdistinct haccepts haccepts' heq
        exact hlive
      · intro hlive
        obtain ⟨before', ttl', issuedAt', ⟨after', heq, haccepts', -⟩, hlater⟩ :=
          hanswer.mpr ⟨⟨ttl, issuedAt, by simp, haccepts, hlive⟩,
            fun h => (presented_around_issue.mp h).elim hearly hafter⟩
        obtain ⟨-, rfl, rfl⟩ := issue_unique hdistinct haccepts haccepts' heq
        exact hlater
  · intro hheld
    constructor
    · rintro ⟨before, ttl, issuedAt, hsince, hlater⟩
      obtain ⟨hearly, hsum⟩ := hheld before ttl issuedAt hsince
      obtain ⟨after, rfl, haccepts, hafter⟩ := hsince
      have hbefore : ¬ Presented before nonce.value := fun h => hearly h hlater
      have hlive := ((hgood ttl issuedAt haccepts).mpr (hsum hbefore)).mp hlater
      exact ⟨⟨ttl, issuedAt, by simp, haccepts, hlive⟩,
        fun h => (presented_around_issue.mp h).elim hbefore hafter⟩
    · rintro ⟨⟨ttl, issuedAt, hissue, haccepts, hlive⟩, hpresented⟩
      obtain ⟨before, after, rfl⟩ := List.append_of_mem hissue
      rw [presented_around_issue, not_or] at hpresented
      obtain ⟨hbefore, hafter⟩ := hpresented
      have hsince : HeldSince accepts (before ++ .issue ttl nonce.value issuedAt :: after) before
          nonce.value ttl issuedAt := ⟨after, rfl, haccepts, hafter⟩
      have hsum := (hheld before ttl issuedAt hsince).2 hbefore
      exact ⟨before, ttl, issuedAt, hsince, ((hgood ttl issuedAt haccepts).mpr hsum).mpr hlive⟩

/-- Every presented nonce of a run. -/
theorem honoursLifetimes_iff {calls : List (Call T)} (hdistinct : DistinctNonces accepts calls)
    (hgood : ∀ now ttl issuedAt, accepts ttl = true →
      ((now < issuedAt + ttl ↔ live ttl issuedAt now) ↔ good ttl issuedAt now)) :
    HonoursLifetimes (storeMachine accepts) accepts live calls ↔ Reliable accepts good calls := by
  constructor
  · rintro h history nonce now rest rfl
    exact (consume_honoured_iff hdistinct.of_append nonce now (hgood now)).mp (h _ _ _ _ rfl)
  · rintro h history nonce now rest rfl
    exact (consume_honoured_iff hdistinct.of_append nonce now (hgood now)).mpr (h _ _ _ _ rfl)

end Honoured

namespace Android

/-- The issue time and the time to live, as integers, add up to a later time. -/
def Live (ttlMillis issuedAt now : Int64) : Prop := now.toInt < issuedAt.toInt + ttlMillis.toInt

/-- The sum is in the `Long` range, or what it wraps to is still later than the clock. -/
def Fits (ttlMillis issuedAt now : Int64) : Prop :=
  issuedAt.toInt + ttlMillis.toInt < 2 ^ 63 ∨
    now.toInt < issuedAt.toInt + ttlMillis.toInt - 2 ^ 64

instance (ttlMillis issuedAt now : Int64) : Decidable (Live ttlMillis issuedAt now) :=
  inferInstanceAs (Decidable (_ < _))

instance (ttlMillis issuedAt now : Int64) : Decidable (Fits ttlMillis issuedAt now) :=
  inferInstanceAs (Decidable (_ ∨ _))

/-- The wrapped sum of a positive time to live. -/
theorem lt_add_iff_live_iff_fits (now : Int64) {ttlMillis issuedAt : Int64}
    (haccepts : accepts ttlMillis = true) :
    (now < issuedAt + ttlMillis ↔ Live ttlMillis issuedAt now) ↔ Fits ttlMillis issuedAt now := by
  have hpos : 0 < ttlMillis.toInt := by
    have := Int64.lt_iff_toInt_lt.mp (of_decide_eq_true haccepts)
    simpa using this
  have hnow := now.toInt_lt
  have hissued := issuedAt.le_toInt
  have hissued' := issuedAt.toInt_lt
  have httl := ttlMillis.toInt_lt
  rw [Int64.lt_iff_toInt_lt, Int64.toInt_add, Live, Fits, Int.bmod_def]
  omega

end Android

/-- The issue time and the interval add up to a later time. -/
def Ios.Live {T : Type} [Add T] [LT T] (ttl issuedAt now : T) : Prop := now < issuedAt + ttl

/-- The stores honour the lifetimes they issue exactly on the reliable runs, and do not read the
expiry in a presented nonce. -/
theorem honours_lifetimes_iff_reliable {T : Type} [AddGroupWithOne T] [LinearOrder T]
    {androidCalls : List (Call Int64)} {iosCalls : List (Call T)}
    (handroid : DistinctNonces Android.accepts androidCalls)
    (hios : DistinctNonces Ios.accepts iosCalls) :
    (HonoursLifetimes Android.nonceMachine Android.accepts Android.Live androidCalls ↔
      Reliable Android.accepts Android.Fits androidCalls) ∧
    (HonoursLifetimes (Ios.nonceMachine T) Ios.accepts Ios.Live iosCalls ↔
      Reliable Ios.accepts (fun _ _ _ => True) iosCalls) ∧
    IgnoresExpiry Android.nonceMachine ∧ IgnoresExpiry (Ios.nonceMachine T) := by
  refine ⟨?_, ?_, ?_, ?_⟩
  · exact honoursLifetimes_iff handroid fun now ttl issuedAt haccepts =>
      Android.lt_add_iff_live_iff_fits now haccepts
  · exact honoursLifetimes_iff hios fun now ttl issuedAt _ => iff_true_intro Iff.rfl
  · intro store nonce expiresAt now
    rfl
  · intro store nonce expiresAt now
    rfl

/-- A run that issues one nonce and presents it. -/
def issueThenConsume {T : Type} (ttl : T) (value : String) (issuedAt expiresAt now : T) :
    List (Call T) := [.issue ttl value issuedAt, .consume ⟨value, expiresAt⟩ now]

theorem reliable_issueThenConsume {T : Type} [Add T] [LT T] {accepts : T → Bool}
    {good : T → T → T → Prop} {ttl issuedAt now : T} (h : good ttl issuedAt now) (value : String)
    (expiresAt : T) :
    Reliable accepts good (issueThenConsume ttl value issuedAt expiresAt now) := by
  rintro history nonce clock rest hcalls before ttl' issuedAt' ⟨after, hhistory, -, -⟩
  rcases history with _ | ⟨first, _ | ⟨second, history⟩⟩
  · simp at hhistory
  · rcases before with _ | ⟨other, before⟩
    · simp only [issueThenConsume, hhistory] at hcalls
      simp only [List.nil_append, List.cons.injEq] at hhistory
      obtain ⟨rfl, rfl⟩ := hhistory
      simp only [List.nil_append, List.cons_append, List.cons.injEq, Call.issue.injEq,
        Call.consume.injEq] at hcalls
      obtain ⟨⟨rfl, -, rfl⟩, ⟨-, rfl⟩, -⟩ := hcalls
      exact ⟨fun ⟨_, _, hmem, _⟩ => absurd hmem List.not_mem_nil, fun _ => h⟩
    · simp at hhistory
  · simp [issueThenConsume] at hcalls

theorem distinctNonces_issueThenConsume {T : Type} (accepts : T → Bool) (ttl : T) (value : String)
    (issuedAt expiresAt now : T) :
    DistinctNonces accepts (issueThenConsume ttl value issuedAt expiresAt now) := by
  cases haccepts : accepts ttl <;>
    simp [DistinctNonces, issueThenConsume, List.filterMap_cons, Call.issued?, haccepts]

theorem honours_lifetimes_one_nonce :
    HonoursLifetimes Android.nonceMachine Android.accepts Android.Live
        (issueThenConsume 90000 "nonce-1" 1000 91000 2000) ∧
      HonoursLifetimes (Ios.nonceMachine ℤ) Ios.accepts Ios.Live
        (issueThenConsume 90 "nonce-1" 1 91 2) := by
  have hfits : Android.Fits 90000 1000 2000 := by decide
  obtain ⟨handroid, hios, -⟩ := honours_lifetimes_iff_reliable
    (distinctNonces_issueThenConsume Android.accepts 90000 "nonce-1" 1000 91000 2000)
    (distinctNonces_issueThenConsume Ios.accepts (90 : ℤ) "nonce-1" 1 91 2)
  exact ⟨handroid.mpr (reliable_issueThenConsume hfits _ _),
    hios.mpr (reliable_issueThenConsume trivial _ _)⟩

/-- The longest time to live ends before it began. -/
theorem longest_ttl_refused :
    DistinctNonces Android.accepts
        (issueThenConsume Int64.maxValue "nonce-1" 1 Int64.minValue 1) ∧
      ¬ HonoursLifetimes Android.nonceMachine Android.accepts Android.Live
        (issueThenConsume Int64.maxValue "nonce-1" 1 Int64.minValue 1) := by
  refine ⟨distinctNonces_issueThenConsume .., fun h => ?_⟩
  have hlive : Android.Live Int64.maxValue 1 1 := by decide
  have hfresh : ¬ Presented [.issue Int64.maxValue "nonce-1" 1] "nonce-1" := by
    rintro ⟨nonce, now, hmem, -⟩
    simp at hmem
  have hyes := (h [.issue Int64.maxValue "nonce-1" 1] ⟨"nonce-1", Int64.minValue⟩ 1 [] rfl).mpr
    ⟨⟨_, _, List.mem_singleton_self _, by decide, hlive⟩, hfresh⟩
  cases hyes

end VeriPay.Mobile
