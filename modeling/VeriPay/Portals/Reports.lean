import VeriPay.Lib.DictTotals
import VeriPay.Portals.Requests

/-!
The regulatory report of the fraud operations portal. It is a report on what the owner saved: each
transaction and each dispute once, as it was saved last. No request changes it, and no transition
of a dispute.
-/

namespace VeriPay.Portals.FiOpsPortal

open Lib Common

/-- The transactions that were saved, by their ids. -/
def transactionLog (calls : List (PortalCall Request Record)) :
    List (String × OpsTransactionView) :=
  calls.filterMap fun
    | .save (.transaction view) => some (view.transactionId, view)
    | _ => none

/-- The disputes that were saved, by their ids. -/
def disputeLog (calls : List (PortalCall Request Record)) : List (String × OpsDisputeView) :=
  calls.filterMap fun
    | .save (.dispute view) => some (view.disputeId, view)
    | _ => none

/-- The transactions are those last saved, and the disputes have the amounts last saved. -/
structure Saved (calls : List (PortalCall Request Record)) (repository : InMemoryFiOpsRepository) :
    Prop where
  transactions : ∀ id, repository.transactions.get? id = lastWins (transactionLog calls) id
  amounts : ∀ id, (repository.disputes.get? id).map DisputeView.amountMinor =
    (lastWins (disputeLog calls) id).map DisputeView.amountMinor

section Steps

variable {calls : List (PortalCall Request Record)} {repository : InMemoryFiOpsRepository}

/-- A request leaves the transactions and the amounts of the disputes as they are. -/
theorem handle_keeps (request : Request) (repository : InMemoryFiOpsRepository) :
    (handle request repository).2.transactions = repository.transactions ∧
      ∀ id, ((handle request repository).2.disputes.get? id).map DisputeView.amountMinor =
        (repository.disputes.get? id).map DisputeView.amountMinor := by
  cases request with
  | transitionDispute disputeId request now =>
    refine ⟨rfl, ?_⟩
    intro id
    show ((Effect.exec (Portals.transitionDispute disputeId request now)
      repository.disputes).2.get? id).map _ = _
    rcases transitionDispute_cases repository.disputes disputeId request now with
      ⟨-, hexec⟩ | ⟨dispute, hdispute, hcases⟩
    · rw [hexec]
    · rcases hcases with ⟨-, hexec⟩ | ⟨-, -, hexec⟩ | ⟨-, -, hexec⟩
      · rw [hexec]
      · rw [hexec]
      · rw [hexec, PyDict.get?_set]
        split_ifs with hid
        · rw [hid, hdispute]
          rfl
        · rfl
  | _ => exact ⟨rfl, fun _ => rfl⟩

theorem Saved.respond (h : Saved calls repository) (printable : Char → Bool)
    (auth : TokenAuthenticator) (authorization : Option String) (request : Request) :
    Saved calls (portal.respond printable auth authorization request repository).2 := by
  obtain ⟨htransactions, hamounts⟩ := handle_keeps request repository
  have hhandled : Saved calls (portal.handle request repository).2 := by
    refine ⟨?_, ?_⟩
    · intro id
      rw [← h.transactions]
      exact congrArg (fun dict => dict.get? id) htransactions
    · intro id
      rw [← h.amounts]
      exact hamounts id
  unfold Portal.respond
  split_ifs
  · cases guard printable auth portal.roles authorization with
    | ok _ => exact hhandled
    | error exc => exact h
  · exact hhandled

theorem Saved.save (h : Saved calls repository) (record : Record) :
    Saved (calls ++ [.save record]) (FiOpsPortal.save record repository) := by
  have htransactions : transactionLog (calls ++ [.save record]) = transactionLog calls ++
      transactionLog [.save record] := List.filterMap_append
  have hdisputes : disputeLog (calls ++ [.save record]) = disputeLog calls ++
      disputeLog [.save record] := List.filterMap_append
  refine ⟨?_, ?_⟩
  · intro id
    rw [htransactions]
    cases record with
    | transaction view =>
      show (repository.transactions.set view.transactionId view).get? id = lastWins (_ ++ [_]) id
      rw [lastWins_concat, PyDict.get?_set, Function.update_apply, h.transactions]
    | _ => exact (h.transactions id).trans (by rw [show transactionLog [_] = [] from rfl,
        List.append_nil])
  · intro id
    rw [hdisputes]
    cases record with
    | dispute view =>
      show ((repository.disputes.set view.disputeId view).get? id).map _ =
        (lastWins (_ ++ [_]) id).map _
      rw [lastWins_concat, PyDict.get?_set, Function.update_apply]
      split_ifs
      · rfl
      · exact h.amounts id
    | _ => exact (h.amounts id).trans (by rw [show disputeLog [_] = [] from rfl,
        List.append_nil])

end Steps

theorem run_saved (printable : Char → Bool) (auth : TokenAuthenticator)
    (calls : List (PortalCall Request Record)) :
    Saved calls ((portal.machine printable auth).run {} calls) := by
  refine Machine.run_history_invariant _ ⟨fun _ => rfl, fun _ => rfl⟩ calls ?_
  intro pre call post _ h
  cases call with
  | save record => exact h.save record
  | request authorization request =>
    have htransactions : transactionLog (pre ++ [.request authorization request]) =
        transactionLog pre := by
      rw [transactionLog, List.filterMap_append]
      exact List.append_nil _
    have hdisputes : disputeLog (pre ++ [.request authorization request]) = disputeLog pre := by
      rw [disputeLog, List.filterMap_append]
      exact List.append_nil _
    have hnext := h.respond printable auth authorization request
    refine ⟨?_, ?_⟩
    · rw [htransactions]
      exact hnext.transactions
    · rw [hdisputes]
      exact hnext.amounts

/-- After any run the report counts the transactions and the disputes that were saved, adds up the
amounts that the disputes were last saved with, and counts the transactions last saved as
blocked. -/
theorem run_regulatoryReport (printable : Char → Bool) (auth : TokenAuthenticator)
    (calls : List (PortalCall Request Record)) (now : DateTime) :
    buildRegulatoryReport ((portal.machine printable auth).run {} calls) now = {
      generatedAt := now
      transactionCount := (keysOf (transactionLog calls)).card
      disputeCount := (keysOf (disputeLog calls)).card
      disputedAmountMinor := ∑ id ∈ keysOf (disputeLog calls),
        (lastWins (disputeLog calls) id).elim 0 DisputeView.amountMinor
      blockedTransactionCount := ((keysOf (transactionLog calls)).filter fun id =>
        ∃ view ∈ lastWins (transactionLog calls) id, view.riskBand = .block).card } := by
  have h := run_saved printable auth calls
  generalize (portal.machine printable auth).run {} calls = repository at h ⊢
  have hread : ∀ id, (repository.transactions.get? id).map OpsTransactionView.riskBand =
      (lastWins (transactionLog calls) id).map OpsTransactionView.riskBand := by
    intro id
    rw [h.transactions]
  have hblocked := countP_values_of_lastWins h.transactions
    (fun view => decide (view.riskBand = .block))
  simp only [decide_eq_true_eq] at hblocked
  rw [buildRegulatoryReport, InMemoryFiOpsRepository.listTransactions,
    InMemoryFiOpsRepository.listDisputes, length_values_of_lastWins hread,
    length_values_of_lastWins h.amounts, sum_values_of_lastWins h.amounts, hblocked]

end VeriPay.Portals.FiOpsPortal
