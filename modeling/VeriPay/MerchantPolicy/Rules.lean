import VeriPay.Lib.Http
import VeriPay.Lib.Records
import VeriPay.MerchantPolicy.Naming

/-!
The rules of the merchants as the API keeps them. A lock id has what was last written to it, until
it is deleted, and a transaction is evaluated by the rule that governs its merchant: of the rules
last written for it, the one with the greatest lock id.
-/

namespace VeriPay.MerchantPolicy

open Lib HeldKeys

/-- `self.rules.pop(lock_id, None) is not None`. -/
def InMemoryMerchantPolicyRepository.delete (repository : InMemoryMerchantPolicyRepository)
    (lockId : String) : Bool × InMemoryMerchantPolicyRepository :=
  ((repository.rules.get? lockId).isSome,
    { rules := repository.rules.pop lockId
      filed := fun item hitem => repository.filed item (List.mem_filter.mp hitem).1 })

inductive RuleRequest
  | listRules
  | createRule (rule : MerchantLockRule)
  | getRule (lockId : String)
  | replaceRule (lockId : String) (rule : MerchantLockRule)
  | deleteRule (lockId : String)
  | evaluate (request : PolicyEvaluationRequest)

inductive RuleBody
  | rules (rules : List MerchantLockRule)
  | rule (rule : MerchantLockRule)
  | noContent
  | evaluation (response : PolicyEvaluationResponse)

def replaceRule (repository : InMemoryMerchantPolicyRepository) (lockId : String)
    (rule : MerchantLockRule) : Except HTTPException RuleBody × InMemoryMerchantPolicyRepository :=
  if rule.lockId.val ≠ lockId then
    (.error ⟨400, "Path and body lock IDs must match"⟩, repository)
  else (.ok (.rule rule), repository.save rule)

def deleteRule (repository : InMemoryMerchantPolicyRepository) (lockId : String) :
    Except HTTPException RuleBody × InMemoryMerchantPolicyRepository :=
  let (deleted, after) := repository.delete lockId
  (if deleted then .ok .noContent else .error ⟨404, "Merchant rule not found"⟩, after)

/-- The endpoints. -/
def handle (repository : InMemoryMerchantPolicyRepository) :
    RuleRequest → Except HTTPException RuleBody × InMemoryMerchantPolicyRepository
  | .listRules => (.ok (.rules repository.list), repository)
  | .createRule rule => (.ok (.rule rule), repository.save rule)
  | .getRule lockId =>
    ((found "Merchant rule not found" (repository.get lockId)).map .rule, repository)
  | .replaceRule lockId rule => replaceRule repository lockId rule
  | .deleteRule lockId => deleteRule repository lockId
  | .evaluate request => (.ok (.evaluation (evaluatePolicy request repository)), repository)

def ruleMachine :
    Machine InMemoryMerchantPolicyRepository RuleRequest (Except HTTPException RuleBody) where
  step := handle

/-- What a request does to the rules. -/
def ruleMove : RuleRequest → Move String MerchantLockRule
  | .createRule rule => .put rule.lockId.val rule
  | .replaceRule lockId rule =>
    if rule.lockId.val = lockId then .put rule.lockId.val rule else .idle
  | .deleteRule lockId => .take lockId
  | _ => .idle

/-- The rule is what was last written under its lock id, and not deleted since. -/
def Current (requests : List RuleRequest) (rule : MerchantLockRule) : Prop :=
  LastPut (requests.map ruleMove) rule.lockId.val rule

/-- The rule is current, and no current rule of its merchant has a greater lock id. -/
def Governs (requests : List RuleRequest) (rule : MerchantLockRule) : Prop :=
  Current requests rule ∧ ∀ other, Current requests other →
    other.merchantId = rule.merchantId → other.lockId ≤ rule.lockId

theorem rules_next (repository : InMemoryMerchantPolicyRepository) (request : RuleRequest) :
    (ruleMachine.next repository request).rules = repository.rules.move (ruleMove request) := by
  cases request with
  | replaceRule lockId rule =>
    show (replaceRule repository lockId rule).2.rules = _
    rw [replaceRule, ruleMove]
    by_cases hid : rule.lockId.val = lockId
    · rw [if_neg (not_not.mpr hid), if_pos hid]
      rfl
    · rw [if_pos hid, if_neg hid]
      rfl
  | _ => rfl

theorem eq_lockId_of_put (request : RuleRequest) (lockId : String) (rule : MerchantLockRule)
    (h : ruleMove request = .put lockId rule) : lockId = rule.lockId.val := by
  unfold ruleMove at h
  split at h
  · cases h
    rfl
  · split_ifs at h
    cases h
    rfl
  · cases h
  · cases h

/-- The rules held after a run are the current ones. -/
theorem run_rules (requests : List RuleRequest) :
    let rules := (ruleMachine.run {} requests).rules
    (∀ lockId rule, rules.get? lockId = some rule ↔
      rule.lockId.val = lockId ∧ Current requests rule) ∧
    rules.values.Nodup ∧ ∀ rule, rule ∈ rules.values ↔ Current requests rule := by
  have hempty : ({} : InMemoryMerchantPolicyRepository).rules = ∅ := rfl
  exact run_records rules_next eq_lockId_of_put hempty requests

/-- The rule that governs a merchant is the one selected. -/
theorem selectRule_run_iff (requests : List RuleRequest) (merchantId : NonEmptyStr)
    (rule : MerchantLockRule) :
    selectRule (ruleMachine.run {} requests) merchantId = some rule ↔
      Governs requests rule ∧ rule.merchantId = merchantId := by
  obtain ⟨-, -, hcurrent⟩ := run_rules requests
  have hselect : selectRule (ruleMachine.run {} requests) merchantId = some rule ↔
      Leads (ruleMachine.run {} requests) id rule ∧ rule.merchantId = merchantId :=
    lastBy_rulesOf_iff _ Function.injective_id
  rw [hselect]
  refine and_congr_left' (and_congr (hcurrent rule) ?_)
  exact forall_congr' fun other => imp_congr (hcurrent other) Iff.rfl

theorem ruleId_evaluatePolicy (request : PolicyEvaluationRequest)
    (repository : InMemoryMerchantPolicyRepository) :
    (evaluatePolicy request repository).ruleId =
      (selectRule repository request.merchantId).map MerchantLockRule.lockId := by
  unfold evaluatePolicy
  cases selectRule repository request.merchantId with
  | none => rfl
  | some rule =>
    dsimp only
    split_ifs <;> rfl

/-- A deletion answers by whether the id has a rule. -/
theorem deleteRule_answer (repository : InMemoryMerchantPolicyRepository) (lockId : String) :
    ((deleteRule repository lockId).1 = .ok .noContent ↔
      ∃ rule, repository.rules.get? lockId = some rule) ∧
    ((deleteRule repository lockId).1 = .error ⟨404, "Merchant rule not found"⟩ ↔
      ∀ rule, repository.rules.get? lockId ≠ some rule) := by
  show ((if (repository.rules.get? lockId).isSome = true then Except.ok RuleBody.noContent
      else .error _) = _ ↔ _) ∧
    ((if (repository.rules.get? lockId).isSome = true then Except.ok RuleBody.noContent
      else .error _) = _ ↔ _)
  cases repository.rules.get? lockId with
  | none => simp
  | some rule => simp

/-- What the rule endpoints answer after a run. -/
structure RuleBook (requests : List RuleRequest)
    (answer : RuleRequest → Except HTTPException RuleBody) : Prop where
  lookup : ∀ lockId rule, answer (.getRule lockId) = .ok (.rule rule) ↔
    rule.lockId.val = lockId ∧ Current requests rule
  missing : ∀ lockId, answer (.getRule lockId) = .error ⟨404, "Merchant rule not found"⟩ ↔
    ∀ rule, rule.lockId.val = lockId → ¬ Current requests rule
  listing : ∃ rules, answer .listRules = .ok (.rules rules) ∧ rules.Nodup ∧
    ∀ rule, rule ∈ rules ↔ Current requests rule
  deletion : ∀ lockId, answer (.deleteRule lockId) = .ok .noContent ↔
    ∃ rule, rule.lockId.val = lockId ∧ Current requests rule
  nothing_deleted : ∀ lockId,
    answer (.deleteRule lockId) = .error ⟨404, "Merchant rule not found"⟩ ↔
      ∀ rule, rule.lockId.val = lockId → ¬ Current requests rule
  evaluation : ∀ request, ∃ response, answer (.evaluate request) = .ok (.evaluation response) ∧
    ((∃ rule, Governs requests rule ∧ rule.merchantId = request.merchantId ∧
        response.ruleId = some rule.lockId ∧
        (response.allowed, response.findings) = ruleOutcome (some rule) request) ∨
      (∀ rule, Current requests rule → rule.merchantId ≠ request.merchantId) ∧
        response.ruleId = none ∧
        (response.allowed, response.findings) = ruleOutcome none request)

/-- After any run the API keeps exactly the rules last written, and evaluates by them. -/
theorem run_ruleBook (requests : List RuleRequest) :
    RuleBook requests fun request => (handle (ruleMachine.run {} requests) request).1 := by
  obtain ⟨hget, hnodup, hcurrent⟩ := run_rules requests
  refine ⟨?_, ?_, ⟨_, rfl, hnodup, hcurrent⟩, ?_, ?_, ?_⟩
  · intro lockId rule
    rw [← hget]
    exact found_map_eq_ok_iff (fun _ _ => RuleBody.rule.inj) rule
  · intro lockId
    refine found_map_eq_error_iff.trans ?_
    rw [Option.eq_none_iff_forall_ne_some]
    refine forall_congr' ?_
    intro rule
    rw [← not_and, ← hget]
    rfl
  · intro lockId
    rw [← exists_congr (hget lockId)]
    exact (deleteRule_answer _ lockId).1
  · intro lockId
    refine (deleteRule_answer _ lockId).2.trans (forall_congr' ?_)
    intro rule
    rw [← not_and, ← hget]
  · intro request
    refine ⟨_, rfl, ?_⟩
    have houtcome := outcome_eq request (ruleMachine.run {} requests)
    have hruleId := ruleId_evaluatePolicy request (ruleMachine.run {} requests)
    cases hselect : selectRule (ruleMachine.run {} requests) request.merchantId with
    | none =>
      rw [hselect] at houtcome hruleId
      refine Or.inr ⟨?_, hruleId, houtcome⟩
      intro rule hrule hmerchant
      have hmem := (mem_rulesOf (ruleMachine.run {} requests)).mpr
        ⟨(hcurrent rule).mpr hrule, hmerchant⟩
      rw [(lastBy_eq_none_iff _ _).mp hselect] at hmem
      cases hmem
    | some rule =>
      rw [hselect] at houtcome hruleId
      obtain ⟨hgoverns, hmerchant⟩ := (selectRule_run_iff requests _ rule).mp hselect
      exact Or.inl ⟨rule, hgoverns, hmerchant, hruleId, houtcome⟩

end VeriPay.MerchantPolicy
