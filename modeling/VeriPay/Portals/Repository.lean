import VeriPay.Common.Enums
import VeriPay.Common.RiskPolicy
import VeriPay.Lib.DateTime
import VeriPay.Lib.Effect
import VeriPay.Lib.Records

/-!
The records behind the two portals. Both keep views of transactions and disputes; the business
portal also spend summaries, policies and webhook deliveries, the fraud operations portal audit
events and transaction states. A dispute takes the same transitions in either.
-/

namespace VeriPay.Portals

open Lib Common

/-- A dispute as a portal shows it. The portals differ in what they take for a currency. -/
structure DisputeView (Currency : Type) where
  disputeId : String
  transactionId : String
  merchantId : Option String := none
  amountMinor : ℕ
  currency : Currency
  status : DisputeStatus
  reason : DisputeReason
  updatedAt : DateTime
  deriving DecidableEq

structure DisputeTransitionRequest where
  status : DisputeStatus
  actor : NonEmptyStr

/-- The `allowed` table of both `transition_dispute` methods. -/
def allowed : DisputeStatus → List DisputeStatus
  | .opened => [.represented, .accepted, .expired]
  | .represented => [.accepted, .reversed, .expired]
  | .accepted => [.reversed, .expired]
  | .reversed => []
  | .expired => []

section Disputes

variable {Currency : Type}

/-- The view in its new status. -/
def DisputeView.moved (view : DisputeView Currency) (status : DisputeStatus)
    (updatedAt : DateTime) : DisputeView Currency :=
  { view with status, updatedAt }

def transitionDispute (disputeId : String) (request : DisputeTransitionRequest) (now : DateTime) :
    Effect (PyDict String (DisputeView Currency)) (DisputeView Currency) := do
  match (← get).get? disputeId with
  | none => throw (.keyError "Dispute not found")
  | some dispute =>
    if request.status = dispute.status then return dispute
    else if request.status ∉ allowed dispute.status then
      throw (.valueError ("Invalid transition from " ++ dispute.status.value ++ " to " ++
        request.status.value))
    else
      let updated := dispute.moved request.status now
      modify (fun disputes => disputes.set disputeId updated)
      return updated

/-- A transition is refused or repeated without a change, or moves a dispute along the table. -/
theorem transitionDispute_cases (disputes : PyDict String (DisputeView Currency))
    (disputeId : String) (request : DisputeTransitionRequest) (now : DateTime) :
    (disputes.get? disputeId = none ∧
      Effect.exec (transitionDispute disputeId request now) disputes =
        (.error (.keyError "Dispute not found"), disputes)) ∨
    ∃ dispute, disputes.get? disputeId = some dispute ∧
      (request.status = dispute.status ∧
        Effect.exec (transitionDispute disputeId request now) disputes = (.ok dispute, disputes) ∨
      request.status ≠ dispute.status ∧ request.status ∉ allowed dispute.status ∧
        Effect.exec (transitionDispute disputeId request now) disputes =
          (.error (.valueError ("Invalid transition from " ++ dispute.status.value ++ " to " ++
            request.status.value)), disputes) ∨
      request.status ≠ dispute.status ∧ request.status ∈ allowed dispute.status ∧
        Effect.exec (transitionDispute disputeId request now) disputes =
          (.ok (dispute.moved request.status now),
            disputes.set disputeId (dispute.moved request.status now))) := by
  rw [transitionDispute, Effect.exec_bind_ok (Effect.exec_get _)]
  cases hdispute : disputes.get? disputeId with
  | none => exact Or.inl ⟨rfl, rfl⟩
  | some dispute =>
    refine Or.inr ⟨dispute, rfl, ?_⟩
    dsimp only
    by_cases hsame : request.status = dispute.status
    · rw [if_pos hsame]
      exact Or.inl ⟨hsame, rfl⟩
    · rw [if_neg hsame]
      by_cases hallowed : request.status ∈ allowed dispute.status
      · rw [if_neg (not_not.mpr hallowed)]
        exact Or.inr (Or.inr ⟨hsame, hallowed, rfl⟩)
      · rw [if_pos hallowed]
        exact Or.inr (Or.inl ⟨hsame, hallowed, rfl⟩)

end Disputes

/-- `list_transactions` and its like: the values, or those of one merchant. -/
def ofMerchant {V : Type} (merchantOf : V → Option String) (merchantId : Option String)
    (values : List V) : List V :=
  match merchantId with
  | none => values
  | some merchantId => values.filter fun value => merchantOf value = some merchantId

theorem unknown_ne_empty : "UNKNOWN" ≠ "" := by decide

def unknownStatus : NonEmptyStr := ⟨"UNKNOWN", unknown_ne_empty⟩

section Business

inductive WebhookDecision
  | allow | block | verify
  deriving DecidableEq, Repr

structure BusinessTransactionView where
  transactionId : String
  merchantId : String
  amountMinor : ℕ
  currency : Str3
  riskBand : RiskBand
  decision : DecisionAction
  status : NonEmptyStr := unknownStatus
  createdAt : DateTime

structure SpendSummary where
  merchantId : String
  period : NonEmptyStr
  spentMinor : ℕ
  limitMinor : Option ℕ := none
  remainingMinor : Option ℕ := none
  currency : Str3

structure BusinessPolicyView where
  lockId : String
  merchantId : String
  allowedMccs : Option String := none
  maxSpendPerTxnMinor : Option ℕ := none
  dailySpendLimitMinor : Option ℕ := none
  enforceMerchantLock : Bool := true
  deriving DecidableEq

abbrev BusinessDisputeView := DisputeView Str3

structure WebhookStatusView where
  eventId : String
  merchantId : String
  decision : WebhookDecision
  deliveryStatus : NonEmptyStr
  attempts : ℕ
  lastError : Option String := none
  updatedAt : DateTime

structure InMemoryBusinessPortalRepository where
  transactions : PyDict String BusinessTransactionView := ∅
  spendSummaries : PyDict (String × String) SpendSummary := ∅
  policies : PyDict String BusinessPolicyView := ∅
  disputes : PyDict String BusinessDisputeView := ∅
  webhooks : PyDict String WebhookStatusView := ∅

namespace InMemoryBusinessPortalRepository

variable (repository : InMemoryBusinessPortalRepository)

def saveTransaction (view : BusinessTransactionView) : InMemoryBusinessPortalRepository :=
  { repository with transactions := repository.transactions.set view.transactionId view }

def listTransactions (merchantId : Option String) : List BusinessTransactionView :=
  ofMerchant (fun value => some value.merchantId) merchantId repository.transactions.values

def getTransaction (transactionId : String) : Option BusinessTransactionView :=
  repository.transactions.get? transactionId

def saveSpendSummary (summary : SpendSummary) : InMemoryBusinessPortalRepository :=
  { repository with
    spendSummaries :=
      repository.spendSummaries.set (summary.merchantId, summary.period.val) summary }

def getSpendSummary (merchantId period : String) : Option SpendSummary :=
  repository.spendSummaries.get? (merchantId, period)

def savePolicy (policy : BusinessPolicyView) : InMemoryBusinessPortalRepository :=
  { repository with policies := repository.policies.set policy.lockId policy }

def listPolicies (merchantId : Option String) : List BusinessPolicyView :=
  ofMerchant (fun value => some value.merchantId) merchantId repository.policies.values

def getPolicy (lockId : String) : Option BusinessPolicyView := repository.policies.get? lockId

/-- `self.policies.pop(lock_id, None) is not None`. -/
def deletePolicy (lockId : String) : Bool × InMemoryBusinessPortalRepository :=
  ((repository.policies.get? lockId).isSome,
    { repository with policies := repository.policies.pop lockId })

def saveDispute (dispute : BusinessDisputeView) : InMemoryBusinessPortalRepository :=
  { repository with disputes := repository.disputes.set dispute.disputeId dispute }

def listDisputes (merchantId : Option String) : List BusinessDisputeView :=
  ofMerchant DisputeView.merchantId merchantId repository.disputes.values

def getDispute (disputeId : String) : Option BusinessDisputeView :=
  repository.disputes.get? disputeId

def transitionDispute (disputeId : String) (request : DisputeTransitionRequest) (now : DateTime) :
    Effect InMemoryBusinessPortalRepository BusinessDisputeView :=
  Effect.onPart InMemoryBusinessPortalRepository.disputes
    (fun disputes repository => { repository with disputes })
    (Portals.transitionDispute disputeId request now)

def saveWebhook (webhook : WebhookStatusView) : InMemoryBusinessPortalRepository :=
  { repository with webhooks := repository.webhooks.set webhook.eventId webhook }

def listWebhooks (merchantId : Option String) : List WebhookStatusView :=
  ofMerchant (fun value => some value.merchantId) merchantId repository.webhooks.values

end InMemoryBusinessPortalRepository

end Business

section FiOps

structure OpsRiskComponent where
  component : NonEmptyStr
  score : RiskScore
  reasonCode : Option String := none

structure OpsTransactionView where
  transactionId : String
  userId : String
  merchantId : Option String := none
  amountMinor : ℕ
  currency : Str3
  riskScore : RiskScore
  riskBand : RiskBand
  decision : DecisionAction
  reasonCodes : List String := []
  components : List OpsRiskComponent := []
  auditEventCount : ℕ := 0
  transactionState : NonEmptyStr := unknownStatus
  updatedAt : DateTime

structure OpsAuditEventView where
  eventId : String
  transactionId : String
  eventType : NonEmptyStr
  actor : NonEmptyStr
  occurredAt : DateTime
  payload : PyDict String String := ∅

structure OpsTransactionStateView where
  transactionId : String
  state : NonEmptyStr
  updatedAt : DateTime
  metadata : PyDict String String := ∅

abbrev OpsDisputeView := DisputeView String

structure RegulatoryReport where
  generatedAt : DateTime
  transactionCount : ℕ
  disputeCount : ℕ
  disputedAmountMinor : ℕ
  blockedTransactionCount : ℕ
  deriving DecidableEq

structure InMemoryFiOpsRepository where
  transactions : PyDict String OpsTransactionView := ∅
  disputes : PyDict String OpsDisputeView := ∅
  auditEvents : PyDict String (List OpsAuditEventView) := ∅
  transactionStates : PyDict String OpsTransactionStateView := ∅

namespace InMemoryFiOpsRepository

variable (repository : InMemoryFiOpsRepository)

def saveTransaction (view : OpsTransactionView) : InMemoryFiOpsRepository :=
  { repository with transactions := repository.transactions.set view.transactionId view }

def listTransactions : List OpsTransactionView := repository.transactions.values

def getTransaction (transactionId : String) : Option OpsTransactionView :=
  repository.transactions.get? transactionId

def saveDispute (view : OpsDisputeView) : InMemoryFiOpsRepository :=
  { repository with disputes := repository.disputes.set view.disputeId view }

def listDisputes : List OpsDisputeView := repository.disputes.values

def getDispute (disputeId : String) : Option OpsDisputeView := repository.disputes.get? disputeId

def transitionDispute (disputeId : String) (request : DisputeTransitionRequest) (now : DateTime) :
    Effect InMemoryFiOpsRepository OpsDisputeView :=
  Effect.onPart InMemoryFiOpsRepository.disputes
    (fun disputes repository => { repository with disputes })
    (Portals.transitionDispute disputeId request now)

def auditEventsFor (transactionId : String) : List OpsAuditEventView :=
  (repository.auditEvents.get? transactionId).getD []

/-- `self.audit_events.setdefault(event.transaction_id, []).append(event)`. -/
def saveAuditEvent (event : OpsAuditEventView) : InMemoryFiOpsRepository :=
  { repository with
    auditEvents := repository.auditEvents.set event.transactionId
      (repository.auditEventsFor event.transactionId ++ [event]) }

def saveTransactionState (state : OpsTransactionStateView) : InMemoryFiOpsRepository :=
  { repository with
    transactionStates := repository.transactionStates.set state.transactionId state }

def getTransactionState (transactionId : String) : Option OpsTransactionStateView :=
  repository.transactionStates.get? transactionId

end InMemoryFiOpsRepository

def buildRegulatoryReport (repository : InMemoryFiOpsRepository) (now : DateTime) :
    RegulatoryReport where
  generatedAt := now
  transactionCount := repository.listTransactions.length
  disputeCount := repository.listDisputes.length
  disputedAmountMinor := (repository.listDisputes.map DisputeView.amountMinor).sum
  blockedTransactionCount :=
    repository.listTransactions.countP fun transaction => transaction.riskBand = .block

end FiOps

end VeriPay.Portals
