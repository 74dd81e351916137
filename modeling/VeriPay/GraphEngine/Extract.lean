import Mathlib.Data.Finset.Insert
import Mathlib.Data.Rat.Defs
import VeriPay.Lib.DateTime

/-!
The in-memory customer-merchant graph. A transaction is observed once per id;
one that carries the flag counts towards its customer being flagged.
-/

namespace VeriPay.GraphEngine

open Lib

def flaggedTxnThreshold : ℕ := 1

structure ObservedTransaction where
  transactionId : String
  ccNum : ℤ
  merchant : String
  amount : ℚ
  timestamp : DateTime
  location : Option (ℚ × ℚ) := none
  flagged : Bool := false
  deriving DecidableEq

/-- The transactions by id in insertion order, and the four projections kept of them. -/
structure GraphStore where
  txns : List ObservedTransaction := []
  customerMerchants : ℤ → Finset String := fun _ => ∅
  merchantCustomers : String → Finset ℤ := fun _ => ∅
  merchantEvents : String → List (DateTime × ℤ × String) := fun _ => []
  flaggedCount : ℤ → ℕ := fun _ => 0

namespace GraphStore

def knows (store : GraphStore) (transactionId : String) : Bool :=
  store.txns.any (fun tx => tx.transactionId = transactionId)

/-- Record a transaction, deduplicating by its id. -/
def observe (store : GraphStore) (tx : ObservedTransaction) : GraphStore :=
  if store.knows tx.transactionId then store
  else
    { txns := store.txns ++ [tx]
      customerMerchants :=
        Function.update store.customerMerchants tx.ccNum
          (insert tx.merchant (store.customerMerchants tx.ccNum))
      merchantCustomers :=
        Function.update store.merchantCustomers tx.merchant
          (insert tx.ccNum (store.merchantCustomers tx.merchant))
      merchantEvents :=
        Function.update store.merchantEvents tx.merchant
          (store.merchantEvents tx.merchant ++ [(tx.timestamp, tx.ccNum, tx.transactionId)])
      flaggedCount :=
        if tx.flagged then
          Function.update store.flaggedCount tx.ccNum (store.flaggedCount tx.ccNum + 1)
        else store.flaggedCount }

def isFlagged (store : GraphStore) (customer : ℤ) : Bool :=
  flaggedTxnThreshold ≤ store.flaggedCount customer

theorem observe_known {store : GraphStore} {tx : ObservedTransaction}
    (h : store.knows tx.transactionId = true) : store.observe tx = store := if_pos h

theorem knows_observe (store : GraphStore) (tx : ObservedTransaction) :
    (store.observe tx).knows tx.transactionId = true := by
  by_cases h : store.knows tx.transactionId = true
  · rw [observe_known h, h]
  · rw [observe, if_neg h]
    simp [knows]

/-- Observing again changes nothing. -/
theorem observe_observe (store : GraphStore) (tx : ObservedTransaction) :
    (store.observe tx).observe tx = store.observe tx :=
  observe_known (store.knows_observe tx)

/-- A flag counts when its transaction is new to the graph. -/
theorem isFlagged_observe (store : GraphStore) (tx : ObservedTransaction) (customer : ℤ) :
    (store.observe tx).isFlagged customer = true ↔
      store.isFlagged customer = true ∨
        (customer = tx.ccNum ∧ store.knows tx.transactionId = false ∧ tx.flagged = true) := by
  cases hknown : store.knows tx.transactionId with
  | true =>
    rw [observe_known hknown]
    simp
  | false =>
    rw [observe, if_neg (by rw [hknown]; exact Bool.false_ne_true)]
    cases hflagged : tx.flagged with
    | false => simp [isFlagged]
    | true =>
      by_cases hcustomer : customer = tx.ccNum
      · subst hcustomer
        simp [isFlagged, flaggedTxnThreshold]
      · simp [isFlagged, hcustomer]

end GraphStore

end VeriPay.GraphEngine
