import VeriPay.AnalystApi.Clocks
import VeriPay.AnalystApi.ConsoleRuns
import VeriPay.AnalystApi.SuddenDrift
import VeriPay.AnalystApi.TrustStatus

/-!
The profile page of a customer. After any run of the console it is drawn from the transactions
scored for the customer and from the verdicts submitted under the customer's number, whatever
transactions these name, and from nothing else.
-/

namespace VeriPay.AnalystApi

open Lib Common AnalystOrchestrator

structure Baseline where
  medianAmount : String := "—"
  typicalHours : String := "—"
  homeLocation : String := "—"
  distinctMerchants : ℕ := 0
  dailyTxnCount : ℤ := 0

structure DriftInfo where
  kind : String
  severity : String
  message : String

structure CustomerProfileResponse where
  ccNum : ℕ
  longTermBaseline : Baseline
  recentBehavior : Baseline
  driftDetected : Option DriftInfo := none
  trustStatus : TrustStatus

section Page

/-- `_baseline`. -/
def baselineOf (platform : Platform) (metrics : BaselineMetrics) : Baseline :=
  if metrics.count = 0 then {}
  else
    { medianAmount := "$" ++ platform.formatGrouped metrics.medianAmount
      typicalHours := twoDigits metrics.hourLow ++ ":00–" ++ twoDigits metrics.hourHigh ++ ":00"
      distinctMerchants := metrics.distinctMerchants
      dailyTxnCount := truncate metrics.dailyTxnCount }

def driftInfo (drift : DriftReport) : DriftInfo := ⟨drift.kind, drift.severity, drift.message⟩

variable {W : Type} (self : AnalystOrchestrator W) (store : ProfileStore) (ccNum : ℕ)

def AnalystOrchestrator.profile : Py CustomerProfileResponse := do
  let trustStatus := store.trustStatus ccNum self.settings.trustBoostWindow
  let history ← store.history ccNum
  match history.getLast? with
  | none => return { ccNum, longTermBaseline := {}, recentBehavior := {}, trustStatus }
  | some last =>
    let longTerm ← filterPy (fun tx => do
      let age ← last.timestamp.orUtc.sub tx.timestamp.orUtc
      return DateTime.days age ≤ 90) history
    let recent ← store.recent ccNum 30
    let drift ← store.detectDrift self.platform ccNum
    return {
      ccNum
      longTermBaseline := baselineOf self.platform (metrics self.platform longTerm)
      recentBehavior := baselineOf self.platform (metrics self.platform recent)
      driftDetected := drift.map driftInfo
      trustStatus }

end Page

section Store

variable {W : Type} {analyst : AnalystOrchestrator W} {store : ProfileStore} {customer : ℕ}
  {history : List StoredTransaction} {last : StoredTransaction}

end Store

section Runs

variable {W : Type} {analyst : AnalystOrchestrator W} {pipeline : Pipeline W}
  {add : ℚ → ℚ → ℚ} {events : List (ConsoleEvent W)}

/-- What the profile store takes down of a score. -/
def recorded (scored : TransactionInput × ScoreResponse) : StoredTransaction :=
  storedTransaction scored.1 scored.2.decision

/-- The verdict that a call submits. -/
def verdict (event : ConsoleEvent W) : Option StoredFeedback :=
  match event.call with
  | .submitFeedback feedback received => some (storedFeedback feedback received)
  | _ => none

/-- The transactions that were scored for a customer. -/
def ownTransactions (events : List (ConsoleEvent W)) (customer : ℕ) : List StoredTransaction :=
  ((events.filterMap completion).map recorded).filter fun tx => tx.ccNum = customer

theorem transactions_addTransaction (store : ProfileStore) (tx : StoredTransaction)
    (customer : ℕ) : (store.addTransaction tx).transactions customer =
      store.transactions customer ++ [tx].filter fun t => t.ccNum = customer := by
  by_cases hcustomer : customer = tx.ccNum
  · subst hcustomer
    rw [ProfileStore.transactions_addTransaction_self]
    simp
  · rw [store.transactions_addTransaction_of_ne hcustomer]
    simp [Ne.symm hcustomer]

/-- The store with the transaction that a call is the first to score, or the verdict that it
submits. -/
def booked (store : ProfileStore) (event : ConsoleEvent W) : ProfileStore :=
  match completion event, verdict event with
  | some scored, _ => store.addTransaction (recorded scored)
  | none, some feedback => store.recordFeedback feedback
  | none, none => store

theorem booked_of_completion (store : ProfileStore) {event : ConsoleEvent W}
    {scored : TransactionInput × ScoreResponse} (h : completion event = some scored) :
    booked store event = store.addTransaction (recorded scored) := by
  rw [booked, h]

theorem booked_of_none (store : ProfileStore) {event : ConsoleEvent W}
    (hcompletion : completion event = none) (hverdict : verdict event = none) :
    booked store event = store := by
  rw [booked, hcompletion, hverdict]

/-- The store holds, for each customer, the transactions scored and the verdicts submitted. -/
structure Filed (events : List (ConsoleEvent W)) (store : ProfileStore) : Prop where
  transactions : ∀ customer, store.transactions customer = ownTransactions events customer
  feedback : store.feedback = events.filterMap verdict

theorem Filed.booked {store : ProfileStore} (h : Filed events store) {event : ConsoleEvent W}
    (hexclusive : verdict event ≠ none → completion event = none) :
    Filed (events ++ [event]) (booked store event) := by
  cases hcompletion : completion event with
  | some scored =>
    have hverdict : verdict event = none := by
      by_contra hsome
      rw [hexclusive hsome] at hcompletion
      cases hcompletion
    rw [booked_of_completion store hcompletion]
    refine ⟨?_, ?_⟩
    · intro customer
      rw [transactions_addTransaction, h.transactions]
      simp [ownTransactions, List.filterMap_append, hcompletion]
    · show store.feedback = _
      simp [h.feedback, List.filterMap_append, hverdict]
  | none =>
    have hown : ∀ customer, ownTransactions (events ++ [event]) customer =
        ownTransactions events customer := by
      intro customer
      simp [ownTransactions, List.filterMap_append, hcompletion]
    cases hverdict : verdict event with
    | none =>
      rw [booked_of_none store hcompletion hverdict]
      refine ⟨fun customer => (h.transactions customer).trans (hown customer).symm, ?_⟩
      simp [h.feedback, List.filterMap_append, hverdict]
    | some feedback =>
      rw [AnalystApi.booked, hcompletion, hverdict]
      refine ⟨fun customer => (h.transactions customer).trans (hown customer).symm, ?_⟩
      show store.feedback ++ [feedback] = _
      simp [h.feedback, List.filterMap_append, hverdict]

end Runs

end VeriPay.AnalystApi
