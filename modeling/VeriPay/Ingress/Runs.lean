import VeriPay.Ingress.Service
import VeriPay.Lib.Records

/-!
The transactions of a run of the ingress API. An id has the transaction last submitted under it and
keeps the place of its first submission, and its risk is the one that submission was authorized by.
-/

namespace VeriPay.Ingress

open Lib Common HeldKeys

/-- What a request does to the transactions. -/
def transactionMove : IngressRequest → Move String Transaction
  | .submitTransaction transaction _ _ => .put transaction.transactionId.val transaction
  | _ => .idle

/-- The ids submitted, one for every submission. -/
def submittedIds (requests : List IngressRequest) : List String :=
  putKeys (requests.map transactionMove)

theorem transactions_next (repository : InMemoryTransactionRepository) (request : IngressRequest) :
    (ingressMachine.next repository request).transactions =
      repository.transactions.move (transactionMove request) := by
  cases request <;> rfl

theorem eq_transactionId_of_put (request : IngressRequest) (transactionId : String)
    (transaction : Transaction) (h : transactionMove request = .put transactionId transaction) :
    transactionId = transaction.transactionId.val := by
  cases request with
  | submitTransaction submitted _ _ =>
    cases h
    rfl
  | listTransactions => cases h
  | transactionRisk transactionId => cases h

theorem transactionMove_ne_take (request : IngressRequest) (transactionId : String) :
    transactionMove request ≠ .take transactionId := by
  cases request <;> simp [transactionMove]

/-- The two branches of `authorize` report the risk they were given. -/
theorem authorize_risk (challengeUuid explainUuid : String) (transaction : Transaction) :
    let response := authorize challengeUuid explainUuid transaction
    response.transactionId = transaction.transactionId.val ∧
      response.riskScore = (calculateRisk transaction).unifiedScore ∧
      response.riskTier = some (calculateRisk transaction).tier := by
  unfold authorize
  cases transaction.paymentRail with
  | none => exact ⟨rfl, rfl, rfl⟩
  | some rail => exact ⟨rfl, rfl, rfl⟩

/-- The risk is what the authorization said of it. -/
def RiskOf (response : AuthorizationResponse) (risk : RiskScore) : Prop :=
  risk.transactionId = response.transactionId ∧ risk.unifiedScore = response.riskScore ∧
    some risk.tier = response.riskTier ∧ risk.band = bandForTier risk.tier

/-- What the endpoints answer after some requests. -/
structure Ledger (requests : List IngressRequest)
    (answer : IngressRequest → Except HTTPException IngressBody) : Prop where
  listing : ∃ transactions, answer .listTransactions = .ok (.transactions transactions) ∧
    transactions.map (fun transaction => transaction.transactionId.val) =
      firstPerKey id (submittedIds requests) ∧
    ∀ transaction ∈ transactions,
      LastPut (requests.map transactionMove) transaction.transactionId.val transaction
  risk : ∀ earlier transaction challengeUuid explainUuid later response,
    requests = earlier ++ .submitTransaction transaction challengeUuid explainUuid :: later →
    transaction.transactionId.val ∉ submittedIds later →
    (ingressMachine.event (ingressMachine.run {} earlier)
      (.submitTransaction transaction challengeUuid explainUuid)).answer =
        .ok (.authorization response) →
    ∃ risk, answer (.transactionRisk transaction.transactionId.val) = .ok (.risk risk) ∧
      RiskOf response risk
  missing : ∀ transactionId,
    answer (.transactionRisk transactionId) = .error ⟨404, "Transaction not found"⟩ ↔
      transactionId ∉ submittedIds requests

/-- A submission that no later one overwrites is a last put. -/
theorem lastPut_of_submitted {earlier later : List IngressRequest} {transaction : Transaction}
    {challengeUuid explainUuid : String}
    (h : transaction.transactionId.val ∉ submittedIds later) :
    LastPut ((earlier ++ .submitTransaction transaction challengeUuid explainUuid :: later).map
      transactionMove) transaction.transactionId.val transaction := by
  refine ⟨earlier.map transactionMove, later.map transactionMove, List.map_append, ?_⟩
  intro move hmove hkey
  apply h
  cases move with
  | idle => cases hkey
  | put transactionId submitted =>
    cases hkey
    exact List.mem_filterMap.mpr ⟨_, hmove, rfl⟩
  | take transactionId =>
    obtain ⟨request, -, hrequest⟩ := List.mem_map.mp hmove
    exact absurd hrequest (transactionMove_ne_take request transactionId)

theorem run_ledger (requests : List IngressRequest) :
    Ledger requests fun request => (handle (ingressMachine.run {} requests) request).1 := by
  have hempty : ({} : InMemoryTransactionRepository).transactions = ∅ := rfl
  obtain ⟨hget, -, hheld⟩ :=
    run_records transactions_next eq_transactionId_of_put hempty requests
  have hkeys : (ingressMachine.run {} requests).transactions.keys =
      firstPerKey id (submittedIds requests) :=
    keys_run transactions_next transactionMove_ne_take hempty requests
  have hfiled : (ingressMachine.run {} requests).transactions.FiledBy
      (fun transaction => transaction.transactionId.val) := by
    intro transactionId transaction htransaction
    exact ((hget transactionId transaction).mp htransaction).1
  refine ⟨⟨_, rfl, ?_, ?_⟩, ?_, ?_⟩
  · rw [← hkeys]
    exact hfiled.map_values
  · intro transaction htransaction
    exact (hheld transaction).mp htransaction
  · intro earlier transaction challengeUuid explainUuid later response hrequests hlater hanswer
    have hlast : LastPut (requests.map transactionMove) transaction.transactionId.val
        transaction := by
      rw [hrequests]
      exact lastPut_of_submitted hlater
    have hfound := (hget transaction.transactionId.val transaction).mpr ⟨rfl, hlast⟩
    obtain rfl : authorize challengeUuid explainUuid transaction = response :=
      IngressBody.authorization.inj (Except.ok.inj hanswer)
    obtain ⟨hid, hscore, htier⟩ := authorize_risk challengeUuid explainUuid transaction
    refine ⟨calculateRisk transaction, ?_, hid.symm, hscore.symm, htier.symm, rfl⟩
    show (found _ ((ingressMachine.run {} requests).transactions.get? _)).map _ = _
    rw [hfound]
    rfl
  · intro transactionId
    refine found_map_eq_error_iff.trans ?_
    show (ingressMachine.run {} requests).transactions.get? transactionId = none ↔ _
    rw [PyDict.get?_eq_none_iff, hkeys, mem_firstPerKey_id_iff]

end VeriPay.Ingress
