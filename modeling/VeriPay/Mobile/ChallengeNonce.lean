import Mathlib.Algebra.Order.Group.Defs
import Mathlib.Algebra.Ring.Int.Defs
import VeriPay.Lib.HeldKeys
import VeriPay.Lib.Machine

/-!
The single-use nonce stores of the two mobile kits. Both keep an expiry for each nonce value they
issued and take it out when the value is presented. The Android store counts milliseconds in a
64-bit `Long` and refuses a time to live that is not positive, the iOS store adds any interval to
a date. What the nonce factory and the clock give is part of a call.
-/

namespace VeriPay.Mobile

open Lib

structure ChallengeNonce (T : Type) where
  value : String
  expiresAt : T

structure SingleUseNonceStore (T : Type) where
  expirations : String → Option T := fun _ => none

/-- What `issue` answers: a nonce, or the message of the exception. -/
abbrev Issued (T : Type) := Except String (ChallengeNonce T)

namespace SingleUseNonceStore

variable {T : Type} [Add T] [LT T] [DecidableLT T]

/-- `issue`, with the times to live that the store takes. -/
def issueAccepting (accepts : T → Bool) (ttl : T) (value : String) (now : T)
    (store : SingleUseNonceStore T) : Issued T × SingleUseNonceStore T :=
  if accepts ttl then
    (.ok ⟨value, now + ttl⟩,
      { expirations := Function.update store.expirations value (some (now + ttl)) })
  else (.error "TTL must be positive", store)

/-- `consume`: the expiry is taken out, then compared with the clock. -/
def takeOut (nonce : ChallengeNonce T) (now : T) (store : SingleUseNonceStore T) :
    Bool × SingleUseNonceStore T :=
  match store.expirations nonce.value with
  | none => (false, store)
  | some expiration =>
    (now < expiration,
      { expirations := Function.update store.expirations nonce.value none })

end SingleUseNonceStore

inductive Call (T : Type)
  | issue (ttl : T) (value : String) (now : T)
  | consume (nonce : ChallengeNonce T) (now : T)

inductive Answer (T : Type)
  | issued (answer : Issued T)
  | consumed (answer : Bool)

def nonceMachine {T : Type}
    (issue : T → String → T → SingleUseNonceStore T → Issued T × SingleUseNonceStore T)
    (consume : ChallengeNonce T → T → SingleUseNonceStore T → Bool × SingleUseNonceStore T) :
    Machine (SingleUseNonceStore T) (Call T) (Answer T) where
  step store
    | .issue ttl value now =>
      let (answer, store) := issue ttl value now store
      (.issued answer, store)
    | .consume nonce now =>
      let (answer, store) := consume nonce now store
      (.consumed answer, store)

namespace Android

/-- `require(ttlMillis > 0)`. -/
def accepts (ttlMillis : Int64) : Bool := 0 < ttlMillis

def issue (ttlMillis : Int64 := 90000) (value : String) (now : Int64)
    (store : SingleUseNonceStore Int64) : Issued Int64 × SingleUseNonceStore Int64 :=
  store.issueAccepting accepts ttlMillis value now

def consume (nonce : ChallengeNonce Int64) (now : Int64) (store : SingleUseNonceStore Int64) :
    Bool × SingleUseNonceStore Int64 := store.takeOut nonce now

def nonceMachine : Machine (SingleUseNonceStore Int64) (Call Int64) (Answer Int64) :=
  Mobile.nonceMachine (fun ttlMillis => issue ttlMillis) consume

end Android

namespace Ios

variable {T : Type} [AddGroupWithOne T] [LinearOrder T]

/-- The iOS store takes any interval. -/
def accepts (_ttl : T) : Bool := true

def issue (ttl : T := 90) (value : String) (now : T) (store : SingleUseNonceStore T) :
    Issued T × SingleUseNonceStore T := store.issueAccepting accepts ttl value now

def consume (nonce : ChallengeNonce T) (now : T) (store : SingleUseNonceStore T) :
    Bool × SingleUseNonceStore T := store.takeOut nonce now

variable (T) in
def nonceMachine : Machine (SingleUseNonceStore T) (Call T) (Answer T) :=
  Mobile.nonceMachine (fun ttl => issue ttl) consume

end Ios

end VeriPay.Mobile
