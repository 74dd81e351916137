import VeriPay.Lib.Records
import VeriPay.Portals.Isolation

/-!
The policies of the business portal. Whatever else is asked of it, the portal has under a lock id
what was last written there with access, and forgets it when it is deleted with access.
-/

namespace VeriPay.Portals.BusinessPortal

open Lib HeldKeys InMemoryBusinessPortalRepository

/-- What a request does to the policies once it is let in. -/
def requestMove : Request → Move String BusinessPolicyView
  | .createPolicy policy => .put policy.lockId policy
  | .replacePolicy lockId policy =>
    if policy.lockId = lockId then .put policy.lockId policy else .idle
  | .deletePolicy lockId => .take lockId
  | _ => .idle

open scoped Classical in
noncomputable def policyMove (raw : String) :
    PortalCall Request Record → Move String BusinessPolicyView
  | .save (.policy policy) => .put policy.lockId policy
  | .save _ => .idle
  | .request authorization request =>
    if ∃ identity, Grants raw authorization roles identity then requestMove request else .idle

/-- The policy is what was last written under its lock id, with access, and not deleted since. -/
def Current (raw : String) (calls : List (PortalCall Request Record))
    (policy : BusinessPolicyView) : Prop :=
  LastPut (calls.map (policyMove raw)) policy.lockId policy

theorem policies_handle (request : Request) (repository : InMemoryBusinessPortalRepository) :
    (handle request repository).2.policies = repository.policies.move (requestMove request) := by
  cases request with
  | replacePolicy lockId policy =>
    simp only [handle, replacePolicy, requestMove]
    by_cases hid : policy.lockId = lockId
    · rw [if_neg (not_not.mpr hid), if_pos hid]
      rfl
    · rw [if_pos hid, if_neg hid]
      rfl
  | _ => rfl

theorem eq_lockId_of_put {raw : String} (call : PortalCall Request Record) (lockId : String)
    (policy : BusinessPolicyView) (h : policyMove raw call = .put lockId policy) :
    lockId = policy.lockId := by
  have hrequest : ∀ request, requestMove request = .put lockId policy → lockId = policy.lockId := by
    intro request hmove
    unfold requestMove at hmove
    split at hmove
    · cases hmove
      rfl
    · split_ifs at hmove
      cases hmove
      rfl
    · cases hmove
    · cases hmove
  unfold policyMove at h
  split at h
  · cases h
    rfl
  · cases h
  · split_ifs at h
    exact hrequest _ h

section Steps

variable {raw : String} {configured : ConfigTokenAuthenticator}
  (hfollows : FollowsConfiguration configured raw) (printable : Char → Bool)

include hfollows

theorem policies_next (repository : InMemoryBusinessPortalRepository)
    (call : PortalCall Request Record) :
    ((portal.machine printable configured.toTokenAuthenticator).next repository call).policies =
      repository.policies.move (policyMove raw call) := by
  cases call with
  | save record => cases record <;> rfl
  | request authorization request =>
    by_cases hgrants : ∃ identity, Grants raw authorization roles identity
    · rw [policyMove, if_pos hgrants, ← policies_handle]
      exact congrArg (fun answer => answer.2.policies)
        (respond_of_grants portal printable hfollows hgrants request repository)
    · have hcall : ¬ Admitted portal raw (.request authorization request) :=
        fun hadmitted => hgrants hadmitted.2
      rw [(quiet_of_not_admitted portal printable hfollows hcall).next_eq, policyMove,
        if_neg hgrants]
      rfl

/-- What is held after a run: the policies last written, each under its own lock id, once. -/
theorem run_policies (calls : List (PortalCall Request Record)) :
    let policies :=
      ((portal.machine printable configured.toTokenAuthenticator).run {} calls).policies
    (∀ lockId policy, policies.get? lockId = some policy ↔
      policy.lockId = lockId ∧ Current raw calls policy) ∧
    policies.values.Nodup ∧ ∀ policy, policy ∈ policies.values ↔ Current raw calls policy := by
  have hempty : ({} : InMemoryBusinessPortalRepository).policies = ∅ := rfl
  exact run_records (policies_next hfollows printable) eq_lockId_of_put hempty calls

end Steps

/-- What the policy endpoints answer after a run, to a request that is let in. -/
structure PolicyBook (raw : String) (calls : List (PortalCall Request Record))
    (answer : Request → Except HTTPException Body) : Prop where
  lookup : ∀ lockId policy, answer (.getPolicy lockId) = .ok (.policy policy) ↔
    policy.lockId = lockId ∧ Current raw calls policy
  missing : ∀ lockId, answer (.getPolicy lockId) = .error ⟨404, "Business policy not found"⟩ ↔
    ∀ policy, policy.lockId = lockId → ¬ Current raw calls policy
  listing : ∀ merchantId, ∃ policies,
    answer (.listPolicies merchantId) = .ok (.policies policies) ∧ policies.Nodup ∧
      ∀ policy, policy ∈ policies ↔
        Current raw calls policy ∧ ∀ merchant ∈ merchantId, policy.merchantId = merchant
  deletion : ∀ lockId, answer (.deletePolicy lockId) = .ok .noContent ↔
    ∃ policy, policy.lockId = lockId ∧ Current raw calls policy

theorem policyBook_of {raw : String} {calls : List (PortalCall Request Record)}
    {repository : InMemoryBusinessPortalRepository}
    (hget : ∀ lockId policy, repository.policies.get? lockId = some policy ↔
      policy.lockId = lockId ∧ Current raw calls policy)
    (hnodup : repository.policies.values.Nodup)
    (hvalues : ∀ policy, policy ∈ repository.policies.values ↔ Current raw calls policy) :
    PolicyBook raw calls fun request => (handle request repository).1 where
  lookup := by
    intro lockId policy
    rw [← hget]
    exact found_map_eq_ok_iff (fun _ _ => Body.policy.inj) policy
  missing := by
    intro lockId
    have hnone : (∀ policy : BusinessPolicyView, policy.lockId = lockId →
        ¬ Current raw calls policy) ↔ repository.policies.get? lockId = none := by
      rw [Option.eq_none_iff_forall_ne_some]
      refine forall_congr' ?_
      intro policy
      rw [ne_eq, hget, not_and]
    rw [hnone]
    exact found_map_eq_error_iff
  listing := by
    intro merchantId
    refine ⟨_, rfl, ?_⟩
    show (ofMerchant _ merchantId repository.policies.values).Nodup ∧ ∀ policy, policy ∈
      ofMerchant _ merchantId repository.policies.values ↔ _
    cases merchantId with
    | none => exact ⟨hnodup, fun policy => by simp [ofMerchant, hvalues]⟩
    | some merchant =>
      refine ⟨hnodup.filter _, ?_⟩
      intro policy
      simp [ofMerchant, hvalues]
  deletion := by
    intro lockId
    have hheld : (∃ policy : BusinessPolicyView, policy.lockId = lockId ∧
        Current raw calls policy) ↔ (repository.policies.get? lockId).isSome = true := by
      rw [Option.isSome_iff_exists]
      exact exists_congr fun policy => (hget lockId policy).symm
    rw [hheld]
    show (if (repository.policies.get? lockId).isSome = true then Except.ok Body.noContent
      else .error _) = _ ↔ _
    split_ifs with h
    · simp [h]
    · simp [h]

/-- After any run, whoever is let in finds exactly the policies written last with access. -/
theorem run_policyBook (getenv : String → Option String) (printable : Char → Bool)
    (calls : List (PortalCall Request Record)) (authorization : Option String)
    (hgrants : ∃ identity,
      Grants ((getenv "BUSINESS_AUTH_TOKENS").getD "") authorization roles identity) :
    PolicyBook ((getenv "BUSINESS_AUTH_TOKENS").getD "") calls fun request =>
      (portal.respond printable (configTokenAuthenticator getenv).toTokenAuthenticator authorization
        request ((portal.machine printable
          (configTokenAuthenticator getenv).toTokenAuthenticator).run {} calls)).1 := by
  have hfollows : FollowsConfiguration (configTokenAuthenticator getenv)
      ((getenv "BUSINESS_AUTH_TOKENS").getD "") := followsConfiguration_parseTokenMap _
  simp only [respond_of_grants portal printable hfollows hgrants]
  obtain ⟨hget, hnodup, hvalues⟩ := run_policies hfollows printable calls
  exact policyBook_of hget hnodup hvalues

theorem grants_admin : Grants "tok:BUSINESS_ADMIN" (some "Bearer tok") roles
    ⟨"config-token", {"BUSINESS_ADMIN"}⟩ := by
  refine ⟨"Bearer tok", "Bearer".toList, "tok".toList, "tok:BUSINESS_ADMIN", rfl, by decide,
    by decide, (lower_eq_bearer_iff _).mp (by decide), by decide, by decide,
    ⟨"BUSINESS_ADMIN", by decide, by decide⟩, congrArg (AuthIdentity.mk "config-token") ?_⟩
  decide

def lockPolicy : BusinessPolicyView where
  lockId := "lock_1"
  merchantId := "merchant_1"

/-- A policy is written with access; its deletion is asked for without. -/
def lockCalls : List (PortalCall Request Record) :=
  [.request (some "Bearer tok") (.createPolicy lockPolicy),
    .request (some "Bearer other") (.deletePolicy "lock_1")]

theorem run_policyBook_lock :
    PolicyBook "tok:BUSINESS_ADMIN" lockCalls fun request =>
      (portal.respond (fun _ => true)
        (configTokenAuthenticator fun _ => some "tok:BUSINESS_ADMIN").toTokenAuthenticator
        (some "Bearer tok") request ((portal.machine (fun _ => true)
          (configTokenAuthenticator fun _ => some "tok:BUSINESS_ADMIN").toTokenAuthenticator).run
            {} lockCalls)).1 :=
  run_policyBook (fun _ => some "tok:BUSINESS_ADMIN") (fun _ => true) lockCalls
    (some "Bearer tok") ⟨_, grants_admin⟩

end VeriPay.Portals.BusinessPortal
