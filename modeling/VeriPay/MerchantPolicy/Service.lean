import VeriPay.Lib.NamedChoice
import VeriPay.Lib.PyDict
import VeriPay.Lib.PyText

/-!
The lock rules of the merchants and their evaluation. A rule is kept under its lock id, and of
the rules of one merchant the one with the greatest lock id is evaluated.
-/

namespace VeriPay.MerchantPolicy

open Lib

structure MerchantLockRule where
  lockId : NonEmptyStr
  merchantId : NonEmptyStr
  allowedMccs : Option String := none
  maxSpendPerTxnMinor : Option ℕ := none
  dailySpendLimitMinor : Option ℕ := none
  velocityLimit5m : Option {limit : ℕ // 1 ≤ limit} := none
  enforceMerchantLock : Bool := true

structure PolicyEvaluationRequest where
  transactionId : NonEmptyStr
  merchantId : NonEmptyStr
  mcc : NonEmptyStr
  amountMinor : ℕ
  dailySpendMinor : ℕ := 0
  velocityCount5m : ℕ := 0

structure PolicyFinding where
  code : String
  triggered : Bool
  reason : String
  deriving DecidableEq

structure PolicyEvaluationResponse where
  transactionId : NonEmptyStr
  merchantId : NonEmptyStr
  allowed : Bool
  ruleId : Option NonEmptyStr := none
  findings : List PolicyFinding

/-- Every rule is kept under its own id. -/
structure InMemoryMerchantPolicyRepository where
  rules : PyDict String MerchantLockRule := ∅
  filed : ∀ item ∈ rules.items, item.2.lockId.val = item.1 := by intro item h; cases h

namespace InMemoryMerchantPolicyRepository

variable (repository : InMemoryMerchantPolicyRepository)

def save (rule : MerchantLockRule) : InMemoryMerchantPolicyRepository where
  rules := repository.rules.set rule.lockId.val rule
  filed := by
    rintro ⟨id, found⟩ hitem
    rw [← PyDict.get?_eq_some_iff, PyDict.get?_set] at hitem
    split_ifs at hitem with hid
    · cases hitem
      exact hid.symm
    · exact repository.filed (id, found) ((PyDict.get?_eq_some_iff _).mp hitem)

def list : List MerchantLockRule := repository.rules.values

def get (lockId : String) : Option MerchantLockRule := repository.rules.get? lockId

/-- The rules have each their own id. -/
theorem lockId_nodup : (repository.list.map fun rule => rule.lockId.val).Nodup := by
  have hkeys : repository.list.map (fun rule => rule.lockId.val) =
      repository.rules.items.map Prod.fst := by
    rw [list, PyDict.values, List.map_map]
    exact List.map_congr_left repository.filed
  rw [hkeys]
  exact repository.rules.nodup

end InMemoryMerchantPolicyRepository

/-- The rules of a merchant. -/
def rulesOf (repository : InMemoryMerchantPolicyRepository) (merchantId : NonEmptyStr) :
    List MerchantLockRule :=
  repository.list.filter fun rule => rule.merchantId = merchantId

/-- `_select_rule`. -/
def selectRule (repository : InMemoryMerchantPolicyRepository) (merchantId : NonEmptyStr) :
    Option MerchantLockRule :=
  lastBy MerchantLockRule.lockId (rulesOf repository merchantId)

/-- `{value.strip() for value in (rule.allowed_mccs or "").split(",") if value.strip()}`. -/
def MerchantLockRule.mccs (rule : MerchantLockRule) : List String :=
  (((rule.allowedMccs.getD "").toList.splitOn ',').map fun value =>
    strip (String.ofList value)).filter fun value => value ≠ ""

/-- A finding whose reason follows from whether it is triggered. -/
def finding (code : String) (triggered : Bool) (reason otherwise : String) : PolicyFinding where
  code := code
  triggered := triggered
  reason := if triggered then reason else otherwise

/-- `limit is not None and value > limit`. -/
def exceeds (limit : Option ℕ) (value : ℕ) : Bool :=
  match limit with
  | none => false
  | some limit => limit < value

/-- `bool(allowed_mccs) and request.mcc not in allowed_mccs`. -/
def restricted (allowedMccs : List String) (mcc : String) : Bool :=
  allowedMccs ≠ [] ∧ mcc ∉ allowedMccs

/-- The four findings of a rule that is enforced. -/
def ruleFindings (rule : MerchantLockRule) (request : PolicyEvaluationRequest) :
    List PolicyFinding :=
  [finding "MCC_RESTRICTED" (restricted rule.mccs request.mcc.val)
      "MCC is not allowed" "MCC allowed",
    finding "TRANSACTION_LIMIT" (exceeds rule.maxSpendPerTxnMinor request.amountMinor)
      "Transaction limit exceeded" "Transaction limit not exceeded",
    finding "DAILY_LIMIT"
      (exceeds rule.dailySpendLimitMinor (request.dailySpendMinor + request.amountMinor))
      "Daily spend limit exceeded" "Daily spend limit not exceeded",
    finding "VELOCITY_LIMIT"
      (exceeds (rule.velocityLimit5m.map Subtype.val) request.velocityCount5m)
      "Five-minute merchant velocity limit exceeded" "Merchant velocity limit not exceeded"]

def evaluatePolicy (request : PolicyEvaluationRequest)
    (repository : InMemoryMerchantPolicyRepository) : PolicyEvaluationResponse :=
  match selectRule repository request.merchantId with
  | none => {
      transactionId := request.transactionId
      merchantId := request.merchantId
      allowed := true
      findings := [⟨"NO_POLICY", false, "No merchant policy configured"⟩] }
  | some rule =>
    if rule.enforceMerchantLock = false then {
      transactionId := request.transactionId
      merchantId := request.merchantId
      allowed := true
      ruleId := some rule.lockId
      findings := [⟨"POLICY_DISABLED", false, "Merchant policy is disabled"⟩] }
    else
      let findings := ruleFindings rule request
      { transactionId := request.transactionId
        merchantId := request.merchantId
        allowed := !findings.any PolicyFinding.triggered
        ruleId := some rule.lockId
        findings }

end VeriPay.MerchantPolicy
