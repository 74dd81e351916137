import VeriPay.Lib.Http
import VeriPay.Lib.Machine
import VeriPay.Portals.Access
import VeriPay.Portals.Repository

/-!
The two portals as services. A request carries a header and is guarded, but for the health check
and the access policy; between the requests the portal's owner saves records behind the API.
-/

namespace VeriPay.Portals

open Lib Common

/-- `guard`: whoever is denied gets the denial's own status and text. -/
def guard (printable : Char → Bool) (auth : TokenAuthenticator) (requiredRoles : Finset String)
    (authorization : Option String) : Except HTTPException Unit :=
  match requireRoles printable authorization auth requiredRoles with
  | .ok _ => .ok ()
  | .error exc => .error ⟨exc.statusCode, exc.detail⟩

/-- The `except` clauses of a transition; `str` of a `KeyError` is quoted. -/
def transitionAnswer {α : Type} : Py α → Except HTTPException α
  | .ok value => .ok value
  | .error (.keyError message) => .error ⟨404, "'" ++ message ++ "'"⟩
  | .error e => .error ⟨if e.isValueError then 409 else 500, e.message⟩

structure PortalAccessPolicy where
  portal : String
  requiredRoles : List String
  identityProvider : String := "external-auth-boundary"
  deriving DecidableEq

/-- What `/health` answers: its status and the service. -/
abbrev Health := String × String

/-- A service: what it keeps, how it answers what it is asked, and who is let in. A request that
is not guarded is answered alike by every store. -/
structure Portal (Store Request Record Body : Type) where
  roles : Finset String
  guarded : Request → Bool
  handle : Request → Store → Except HTTPException Body × Store
  save : Record → Store → Store
  saved : Record → Body
  public_quiet : ∀ request, guarded request = false →
    ∃ answer, ∀ store, handle request store = (answer, store)

/-- What moves a portal. -/
inductive PortalCall (Request Record : Type)
  | request (authorization : Option String) (request : Request)
  | save (record : Record)

namespace Portal

variable {Store Request Record Body : Type} (portal : Portal Store Request Record Body)

/-- A request to an endpoint, from its guard on. -/
def respond (printable : Char → Bool) (auth : TokenAuthenticator) (authorization : Option String)
    (request : Request) (store : Store) : Except HTTPException Body × Store :=
  if portal.guarded request then
    match guard printable auth portal.roles authorization with
    | .error exc => (.error exc, store)
    | .ok _ => portal.handle request store
  else portal.handle request store

def machine (printable : Char → Bool) (auth : TokenAuthenticator) :
    Machine Store (PortalCall Request Record) (Except HTTPException Body) where
  step store
    | .request authorization request => portal.respond printable auth authorization request store
    | .save record => (.ok (portal.saved record), portal.save record store)

end Portal

namespace BusinessPortal

/-- `BUSINESS_ROLES`. -/
def roles : Finset String := {"BUSINESS_ADMIN", "MERCHANT_ADMIN"}

inductive Request
  | health
  | accessPolicy
  | listTransactions (merchantId : Option String)
  | getTransaction (transactionId : String)
  | spendSummary (merchantId : String) (period : String := "DAILY")
  | listPolicies (merchantId : Option String)
  | createPolicy (policy : BusinessPolicyView)
  | getPolicy (lockId : String)
  | replacePolicy (lockId : String) (policy : BusinessPolicyView)
  | deletePolicy (lockId : String)
  | listDisputes (merchantId : Option String)
  | getDispute (disputeId : String)
  | transitionDispute (disputeId : String) (request : DisputeTransitionRequest) (now : DateTime)
  | listWebhooks (merchantId : Option String)

inductive Record
  | transaction (view : BusinessTransactionView)
  | spendSummary (summary : SpendSummary)
  | policy (policy : BusinessPolicyView)
  | dispute (dispute : BusinessDisputeView)
  | webhook (webhook : WebhookStatusView)

inductive Body
  | health (health : Health)
  | accessPolicy (policy : PortalAccessPolicy)
  | transactions (views : List BusinessTransactionView)
  | transaction (view : BusinessTransactionView)
  | spendSummary (summary : SpendSummary)
  | policies (policies : List BusinessPolicyView)
  | policy (policy : BusinessPolicyView)
  | noContent
  | disputes (disputes : List BusinessDisputeView)
  | dispute (dispute : BusinessDisputeView)
  | webhooks (webhooks : List WebhookStatusView)
  | webhook (webhook : WebhookStatusView)

def guarded : Request → Bool
  | .health => false
  | .accessPolicy => false
  | _ => true

open InMemoryBusinessPortalRepository

def replacePolicy (lockId : String) (policy : BusinessPolicyView)
    (repository : InMemoryBusinessPortalRepository) :
    Except HTTPException Body × InMemoryBusinessPortalRepository :=
  if policy.lockId ≠ lockId then
    (.error ⟨400, "Path and body lock IDs must match"⟩, repository)
  else (.ok (.policy policy), repository.savePolicy policy)

def deletePolicy (lockId : String) (repository : InMemoryBusinessPortalRepository) :
    Except HTTPException Body × InMemoryBusinessPortalRepository :=
  let (deleted, after) := repository.deletePolicy lockId
  (if deleted then .ok .noContent else .error ⟨404, "Business policy not found"⟩, after)

def transitionDispute (disputeId : String) (request : DisputeTransitionRequest) (now : DateTime)
    (repository : InMemoryBusinessPortalRepository) :
    Except HTTPException Body × InMemoryBusinessPortalRepository :=
  let (answer, after) :=
    Effect.exec (InMemoryBusinessPortalRepository.transitionDispute disputeId request now)
      repository
  ((transitionAnswer answer).map .dispute, after)

/-- The endpoints, past the guard. -/
def handle (request : Request) (repository : InMemoryBusinessPortalRepository) :
    Except HTTPException Body × InMemoryBusinessPortalRepository :=
  match request with
  | .health => (.ok (.health ("ok", "veripay-business_portal")), repository)
  | .accessPolicy =>
    (.ok (.accessPolicy ⟨"BUSINESS", ["BUSINESS_ADMIN", "MERCHANT_ADMIN"],
      "external-auth-boundary"⟩), repository)
  | .listTransactions merchantId =>
    (.ok (.transactions (repository.listTransactions merchantId)), repository)
  | .getTransaction transactionId =>
    ((found "Transaction view not found" (repository.getTransaction transactionId)).map
      .transaction, repository)
  | .spendSummary merchantId period =>
    ((found "Spend summary not found" (repository.getSpendSummary merchantId period)).map
      .spendSummary, repository)
  | .listPolicies merchantId => (.ok (.policies (repository.listPolicies merchantId)), repository)
  | .createPolicy policy => (.ok (.policy policy), repository.savePolicy policy)
  | .getPolicy lockId =>
    ((found "Business policy not found" (repository.getPolicy lockId)).map .policy, repository)
  | .replacePolicy lockId policy => replacePolicy lockId policy repository
  | .deletePolicy lockId => deletePolicy lockId repository
  | .listDisputes merchantId => (.ok (.disputes (repository.listDisputes merchantId)), repository)
  | .getDispute disputeId =>
    ((found "Business dispute not found" (repository.getDispute disputeId)).map .dispute,
      repository)
  | .transitionDispute disputeId request now => transitionDispute disputeId request now repository
  | .listWebhooks merchantId => (.ok (.webhooks (repository.listWebhooks merchantId)), repository)

def save : Record → InMemoryBusinessPortalRepository → InMemoryBusinessPortalRepository
  | .transaction view, repository => repository.saveTransaction view
  | .spendSummary summary, repository => repository.saveSpendSummary summary
  | .policy policy, repository => repository.savePolicy policy
  | .dispute dispute, repository => repository.saveDispute dispute
  | .webhook webhook, repository => repository.saveWebhook webhook

def saved : Record → Body
  | .transaction view => .transaction view
  | .spendSummary summary => .spendSummary summary
  | .policy policy => .policy policy
  | .dispute dispute => .dispute dispute
  | .webhook webhook => .webhook webhook

/-- `create_app`. -/
def portal : Portal InMemoryBusinessPortalRepository Request Record Body where
  roles := roles
  guarded := guarded
  handle := handle
  save := save
  saved := saved
  public_quiet := by
    intro request hpublic
    cases request with
    | health => exact ⟨_, fun _ => rfl⟩
    | accessPolicy => exact ⟨_, fun _ => rfl⟩
    | _ => cases hpublic

end BusinessPortal

namespace FiOpsPortal

/-- `FI_OPS_ROLES`. -/
def roles : Finset String := {"FI_OPS", "ADMIN"}

inductive Request
  | health
  | accessPolicy
  | listTransactions
  | getTransaction (transactionId : String)
  | listAuditEvents (transactionId : String)
  | getTransactionState (transactionId : String)
  | listDisputes
  | transitionDispute (disputeId : String) (request : DisputeTransitionRequest) (now : DateTime)
  | regulatoryReport (now : DateTime)

inductive Record
  | transaction (view : OpsTransactionView)
  | dispute (view : OpsDisputeView)
  | auditEvent (event : OpsAuditEventView)
  | transactionState (state : OpsTransactionStateView)

inductive Body
  | health (health : Health)
  | accessPolicy (policy : PortalAccessPolicy)
  | transactions (views : List OpsTransactionView)
  | transaction (view : OpsTransactionView)
  | auditEvents (events : List OpsAuditEventView)
  | auditEvent (event : OpsAuditEventView)
  | transactionState (state : OpsTransactionStateView)
  | disputes (disputes : List OpsDisputeView)
  | dispute (dispute : OpsDisputeView)
  | report (report : RegulatoryReport)

def guarded : Request → Bool
  | .health => false
  | .accessPolicy => false
  | _ => true

def listAuditEvents (repository : InMemoryFiOpsRepository) (transactionId : String) :
    Except HTTPException (List OpsAuditEventView) := do
  let _ ← found "Transaction view not found" (repository.getTransaction transactionId)
  return repository.auditEventsFor transactionId

def transitionDispute (disputeId : String) (request : DisputeTransitionRequest) (now : DateTime)
    (repository : InMemoryFiOpsRepository) :
    Except HTTPException Body × InMemoryFiOpsRepository :=
  let (answer, after) :=
    Effect.exec (InMemoryFiOpsRepository.transitionDispute disputeId request now) repository
  ((transitionAnswer answer).map .dispute, after)

/-- The endpoints, past the guard. -/
def handle (request : Request) (repository : InMemoryFiOpsRepository) :
    Except HTTPException Body × InMemoryFiOpsRepository :=
  match request with
  | .health => (.ok (.health ("ok", "veripay-fi_ops_portal")), repository)
  | .accessPolicy =>
    (.ok (.accessPolicy ⟨"FI_OPS", ["FI_OPS", "ADMIN"], "external-auth-boundary"⟩), repository)
  | .listTransactions => (.ok (.transactions repository.listTransactions), repository)
  | .getTransaction transactionId =>
    ((found "Transaction view not found" (repository.getTransaction transactionId)).map
      .transaction, repository)
  | .listAuditEvents transactionId =>
    ((listAuditEvents repository transactionId).map .auditEvents, repository)
  | .getTransactionState transactionId =>
    ((found "Transaction state not found" (repository.getTransactionState transactionId)).map
      .transactionState, repository)
  | .listDisputes => (.ok (.disputes repository.listDisputes), repository)
  | .transitionDispute disputeId request now => transitionDispute disputeId request now repository
  | .regulatoryReport now => (.ok (.report (buildRegulatoryReport repository now)), repository)

def save : Record → InMemoryFiOpsRepository → InMemoryFiOpsRepository
  | .transaction view, repository => repository.saveTransaction view
  | .dispute view, repository => repository.saveDispute view
  | .auditEvent event, repository => repository.saveAuditEvent event
  | .transactionState state, repository => repository.saveTransactionState state

def saved : Record → Body
  | .transaction view => .transaction view
  | .dispute view => .dispute view
  | .auditEvent event => .auditEvent event
  | .transactionState state => .transactionState state

/-- `create_app`. -/
def portal : Portal InMemoryFiOpsRepository Request Record Body where
  roles := roles
  guarded := guarded
  handle := handle
  save := save
  saved := saved
  public_quiet := by
    intro request hpublic
    cases request with
    | health => exact ⟨_, fun _ => rfl⟩
    | accessPolicy => exact ⟨_, fun _ => rfl⟩
    | _ => cases hpublic

end FiOpsPortal

end VeriPay.Portals
