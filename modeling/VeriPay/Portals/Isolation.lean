import VeriPay.Lib.Quiet
import VeriPay.Portals.Requests

/-!
What a request without access can do and learn, which is nothing. Its answer depends on neither
the records nor the requests before it, and without it a run of the portal is the same run.
-/

namespace VeriPay.Portals

open Lib

section Guard

/-- The guard lets through exactly who is granted access. -/
theorem guard_eq_ok_iff (printable : Char → Bool) {configured : ConfigTokenAuthenticator}
    {raw : String} (hfollows : FollowsConfiguration configured raw)
    (requiredRoles : Finset String) (authorization : Option String) :
    guard printable configured.toTokenAuthenticator requiredRoles authorization = .ok () ↔
      ∃ identity, Grants raw authorization requiredRoles identity := by
  unfold guard
  cases hroles : requireRoles printable authorization configured.toTokenAuthenticator
      requiredRoles with
  | ok identity =>
    exact iff_of_true rfl
      ⟨identity, ((hfollows printable authorization requiredRoles).1 identity).mp hroles⟩
  | error e =>
    refine iff_of_false (by simp) ?_
    rintro ⟨identity, hgrants⟩
    rw [((hfollows printable authorization requiredRoles).1 identity).mpr hgrants] at hroles
    cases hroles

/-- Everyone else gets 401 or 403. -/
theorem guard_of_not_grants (printable : Char → Bool) {configured : ConfigTokenAuthenticator}
    {raw : String} (hfollows : FollowsConfiguration configured raw)
    {requiredRoles : Finset String} {authorization : Option String}
    (hnone : ¬ ∃ identity, Grants raw authorization requiredRoles identity) :
    ∃ exc, guard printable configured.toTokenAuthenticator requiredRoles authorization =
      .error exc ∧ (exc.statusCode = 401 ∨ exc.statusCode = 403) := by
  obtain ⟨e, herror, hstatus⟩ := (hfollows printable authorization requiredRoles).2 hnone
  rw [guard, herror]
  exact ⟨_, rfl, hstatus⟩

end Guard

variable {Store Request Record Body : Type}

/-- The owner's saves, and the guarded requests of those who are granted access. -/
def Admitted (portal : Portal Store Request Record Body) (raw : String) :
    PortalCall Request Record → Prop
  | .request authorization request => portal.guarded request = true ∧
    ∃ identity, Grants raw authorization portal.roles identity
  | .save _ => True

open scoped Classical in
/-- Under the configuration a portal does nothing for a call that is not admitted, and tells it
nothing: for guarded requests its header alone decides on one 401 or 403, every such call gets one
answer whatever is kept and whatever happened, and a run without these calls has the same other
events and ends the same. -/
structure Isolated (portal : Portal Store Request Record Body)
    (configured : ConfigTokenAuthenticator) (raw : String) (printable : Char → Bool) : Prop where
  refused : ∀ authorization, (¬ ∃ identity, Grants raw authorization portal.roles identity) →
    ∃ exc, (exc.statusCode = 401 ∨ exc.statusCode = 403) ∧
      ∀ request, portal.guarded request = true → ∀ store,
        portal.respond printable configured.toTokenAuthenticator authorization request store =
          (.error exc, store)
  uninformed : ∀ call, ¬ Admitted portal raw call → ∃ answer, ∀ store calls,
    ∀ e ∈ (portal.machine printable configured.toTokenAuthenticator).trace store calls,
      e.call = call → e.answer = answer ∧ e.after = e.before
  erased : ∀ store calls,
    ((portal.machine printable configured.toTokenAuthenticator).trace store calls).filter
        (fun e => Admitted portal raw e.call) =
      (portal.machine printable configured.toTokenAuthenticator).trace store
        (calls.filter fun call => Admitted portal raw call)
  unmoved : ∀ store calls,
    (portal.machine printable configured.toTokenAuthenticator).run store
        (calls.filter fun call => Admitted portal raw call) =
      (portal.machine printable configured.toTokenAuthenticator).run store calls

section Isolation

variable (portal : Portal Store Request Record Body) {configured : ConfigTokenAuthenticator}
  {raw : String}

theorem respond_of_not_grants (printable : Char → Bool)
    (hfollows : FollowsConfiguration configured raw) {authorization : Option String}
    (hnone : ¬ ∃ identity, Grants raw authorization portal.roles identity) :
    ∃ exc, (exc.statusCode = 401 ∨ exc.statusCode = 403) ∧
      ∀ request, portal.guarded request = true → ∀ store,
        portal.respond printable configured.toTokenAuthenticator authorization request store =
          (.error exc, store) := by
  obtain ⟨exc, herror, hstatus⟩ := guard_of_not_grants printable hfollows hnone
  refine ⟨exc, hstatus, ?_⟩
  intro request hguarded store
  rw [Portal.respond, if_pos hguarded, herror]

/-- With access a request is handled. -/
theorem respond_of_grants (printable : Char → Bool)
    (hfollows : FollowsConfiguration configured raw) {authorization : Option String}
    (hgrants : ∃ identity, Grants raw authorization portal.roles identity) (request : Request)
    (store : Store) :
    portal.respond printable configured.toTokenAuthenticator authorization request store =
      portal.handle request store := by
  unfold Portal.respond
  rw [(guard_eq_ok_iff printable hfollows portal.roles authorization).mpr hgrants]
  split_ifs <;> rfl

/-- A call that is not admitted is quiet. -/
theorem quiet_of_not_admitted (printable : Char → Bool)
    (hfollows : FollowsConfiguration configured raw) {call : PortalCall Request Record}
    (hcall : ¬ Admitted portal raw call) :
    (portal.machine printable configured.toTokenAuthenticator).Quiet call := by
  cases call with
  | save record => exact absurd trivial hcall
  | request authorization request =>
    cases hguarded : portal.guarded request with
    | true =>
      have hnone : ¬ ∃ identity, Grants raw authorization portal.roles identity :=
        fun h => hcall ⟨hguarded, h⟩
      obtain ⟨exc, -, hstep⟩ := respond_of_not_grants portal printable hfollows hnone
      exact ⟨.error exc, hstep request hguarded⟩
    | false =>
      obtain ⟨answer, hanswer⟩ := portal.public_quiet request hguarded
      refine ⟨answer, ?_⟩
      intro store
      show portal.respond printable _ authorization request store = _
      rw [Portal.respond, if_neg (by simp [hguarded]), hanswer]

open scoped Classical in
theorem quiet_of_decide (printable : Char → Bool) (hfollows : FollowsConfiguration configured raw)
    (call : PortalCall Request Record) (hcall : decide (Admitted portal raw call) = false) :
    (portal.machine printable configured.toTokenAuthenticator).Quiet call :=
  quiet_of_not_admitted portal printable hfollows (of_decide_eq_false hcall)

theorem isolated_of_followsConfiguration (hfollows : FollowsConfiguration configured raw)
    (printable : Char → Bool) : Isolated portal configured raw printable where
  refused := fun _ hnone => respond_of_not_grants portal printable hfollows hnone
  uninformed := fun _ hcall =>
    (quiet_of_not_admitted portal printable hfollows hcall).of_mem_trace
  erased := fun store calls =>
    Machine.trace_filter (quiet_of_decide portal printable hfollows) store calls
  unmoved := fun store calls =>
    Machine.run_filter (quiet_of_decide portal printable hfollows) store calls

end Isolation

/-- Neither portal does or tells anything without access, whatever its environment grants. -/
theorem portals_isolated (getenv : String → Option String) (printable : Char → Bool) :
    Isolated BusinessPortal.portal (BusinessPortal.configTokenAuthenticator getenv)
        ((getenv "BUSINESS_AUTH_TOKENS").getD "") printable ∧
      Isolated FiOpsPortal.portal (FiOpsPortal.configTokenAuthenticator getenv)
        ((getenv "FI_OPS_AUTH_TOKENS").getD "") printable :=
  ⟨isolated_of_followsConfiguration _ (followsConfiguration_parseTokenMap _) printable,
    isolated_of_followsConfiguration _ (followsConfiguration_parseTokenMap _) printable⟩

end VeriPay.Portals
