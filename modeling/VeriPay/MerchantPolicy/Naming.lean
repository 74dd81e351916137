import Mathlib.Data.Fintype.EquivFin
import VeriPay.MerchantPolicy.Service

/-!
How far the outcome of a policy depends on the names of the rules. A renaming can hand the
evaluation over to any rule of a merchant, so the outcome is the same under all of them exactly
where the rules of each merchant have the same terms.
-/

namespace VeriPay.MerchantPolicy

open Lib

/-- Rules that no request tells apart: both disabled, or both enforced with the same limits. -/
def SameTerms (a b : MerchantLockRule) : Prop :=
  a.enforceMerchantLock = b.enforceMerchantLock ∧
    (a.enforceMerchantLock = true →
      (∀ mcc, mcc ∈ a.mccs ↔ mcc ∈ b.mccs) ∧ a.maxSpendPerTxnMinor = b.maxSpendPerTxnMinor ∧
        a.dailySpendLimitMinor = b.dailySpendLimitMinor ∧ a.velocityLimit5m = b.velocityLimit5m)

theorem exceeds_injective : Function.Injective exceeds := by
  intro a b h
  cases a with
  | none =>
    cases b with
    | none => rfl
    | some limit =>
      have hvalue := congrFun h (limit + 1)
      simp [exceeds] at hvalue
  | some limit =>
    cases b with
    | none =>
      have hvalue := congrFun h (limit + 1)
      simp [exceeds] at hvalue
    | some other =>
      have hlimit := congrFun h limit
      have hother := congrFun h other
      simp only [exceeds, lt_irrefl, decide_false] at hlimit hother
      have hle := not_lt.mp (of_decide_eq_false hlimit.symm)
      have hge := not_lt.mp (of_decide_eq_false hother)
      rw [le_antisymm hge hle]

theorem mccs_ne_empty {rule : MerchantLockRule} {mcc : String} (h : mcc ∈ rule.mccs) : mcc ≠ "" :=
  of_decide_eq_true (List.mem_filter.mp h).2

/-- There is a code outside any list of codes. -/
theorem exists_mcc_notMem (mccs : List String) : ∃ mcc : NonEmptyStr, mcc.val ∉ mccs := by
  have hinfinite : Infinite String := Infinite.of_injective String.ofList fun _ _ h =>
    String.ofList_injective h
  obtain ⟨mcc, hmcc⟩ := Infinite.exists_notMem_finset (insert "" mccs.toFinset)
  rw [Finset.mem_insert, List.mem_toFinset, not_or] at hmcc
  exact ⟨⟨mcc, hmcc.1⟩, hmcc.2⟩

/-- Two lists restrict the same codes iff they have the same members. -/
theorem restricted_iff {a b : MerchantLockRule} :
    (∀ mcc : NonEmptyStr, restricted a.mccs mcc.val = restricted b.mccs mcc.val) ↔
      ∀ mcc, mcc ∈ a.mccs ↔ mcc ∈ b.mccs := by
  have hfree : ∀ {a b : MerchantLockRule},
      (∀ mcc : NonEmptyStr, restricted a.mccs mcc.val = restricted b.mccs mcc.val) →
        a.mccs = [] → b.mccs = [] := by
    intro a b h ha
    by_contra hb
    obtain ⟨mcc, hmcc⟩ := exists_mcc_notMem b.mccs
    have hsame := h mcc
    simp [restricted, ha, hb, hmcc] at hsame
  constructor
  · intro h mcc
    by_cases ha : a.mccs = []
    · rw [ha, hfree h ha]
    · have hb : b.mccs ≠ [] := fun hb => ha (hfree (fun mcc => (h mcc).symm) hb)
      by_cases hmcc : mcc = ""
      · exact iff_of_false (fun hmem => mccs_ne_empty hmem hmcc)
          (fun hmem => mccs_ne_empty hmem hmcc)
      · have hsame := h ⟨mcc, hmcc⟩
        simpa [restricted, ha, hb, decide_eq_decide, not_iff_not] using hsame
  · intro h mcc
    have hempty : a.mccs = [] ↔ b.mccs = [] := by
      rw [List.eq_nil_iff_forall_not_mem, List.eq_nil_iff_forall_not_mem]
      exact forall_congr' fun mcc => not_congr (h mcc)
    simp [restricted, hempty, h mcc.val]

/-- What a request learns of the rule it is evaluated under. -/
def ruleOutcome (rule : Option MerchantLockRule) (request : PolicyEvaluationRequest) :
    Bool × List PolicyFinding :=
  match rule with
  | none => (true, [⟨"NO_POLICY", false, "No merchant policy configured"⟩])
  | some rule =>
    if rule.enforceMerchantLock = false then
      (true, [⟨"POLICY_DISABLED", false, "Merchant policy is disabled"⟩])
    else (!(ruleFindings rule request).any PolicyFinding.triggered, ruleFindings rule request)

/-- `allowed` and `findings` of an evaluation. -/
def outcome (request : PolicyEvaluationRequest) (repository : InMemoryMerchantPolicyRepository) :
    Bool × List PolicyFinding :=
  ((evaluatePolicy request repository).allowed, (evaluatePolicy request repository).findings)

theorem outcome_eq (request : PolicyEvaluationRequest)
    (repository : InMemoryMerchantPolicyRepository) :
    outcome request repository =
      ruleOutcome (selectRule repository request.merchantId) request := by
  unfold outcome evaluatePolicy
  cases selectRule repository request.merchantId with
  | none => rfl
  | some rule =>
    unfold ruleOutcome
    dsimp only
    split_ifs <;> rfl

theorem finding_eq_iff {code reason otherwise : String} {a b : Bool} :
    finding code a reason otherwise = finding code b reason otherwise ↔ a = b := by
  constructor
  · exact congrArg PolicyFinding.triggered
  · rintro rfl
    rfl

theorem ruleFindings_eq_iff (a b : MerchantLockRule) (request : PolicyEvaluationRequest) :
    ruleFindings a request = ruleFindings b request ↔
      restricted a.mccs request.mcc.val = restricted b.mccs request.mcc.val ∧
        exceeds a.maxSpendPerTxnMinor request.amountMinor =
          exceeds b.maxSpendPerTxnMinor request.amountMinor ∧
        exceeds a.dailySpendLimitMinor (request.dailySpendMinor + request.amountMinor) =
          exceeds b.dailySpendLimitMinor (request.dailySpendMinor + request.amountMinor) ∧
        exceeds (a.velocityLimit5m.map Subtype.val) request.velocityCount5m =
          exceeds (b.velocityLimit5m.map Subtype.val) request.velocityCount5m := by
  simp only [ruleFindings, List.cons.injEq, finding_eq_iff, and_true]

theorem velocityLimit_injective :
    Function.Injective (Option.map Subtype.val : Option {limit : ℕ // 1 ≤ limit} → Option ℕ) :=
  Option.map_injective Subtype.val_injective

/-- A request with one number for the amount and the velocity. -/
def probe (merchantId mcc : NonEmptyStr) (number : ℕ) : PolicyEvaluationRequest where
  transactionId := merchantId
  merchantId := merchantId
  mcc := mcc
  amountMinor := number
  velocityCount5m := number

/-- The four findings agree on every request of a merchant iff the limits are the same. -/
theorem forall_ruleFindings_eq_iff (merchantId : NonEmptyStr) (a b : MerchantLockRule) :
    (∀ request : PolicyEvaluationRequest, request.merchantId = merchantId →
      ruleFindings a request = ruleFindings b request) ↔
      (∀ mcc, mcc ∈ a.mccs ↔ mcc ∈ b.mccs) ∧ a.maxSpendPerTxnMinor = b.maxSpendPerTxnMinor ∧
        a.dailySpendLimitMinor = b.dailySpendLimitMinor ∧
        a.velocityLimit5m = b.velocityLimit5m := by
  constructor
  · intro h
    have hrequest := fun mcc number =>
      (ruleFindings_eq_iff a b _).mp (h (probe merchantId mcc number) rfl)
    refine ⟨restricted_iff.mp fun mcc => (hrequest mcc 0).1, ?_, ?_, ?_⟩
    · exact exceeds_injective (funext fun number => (hrequest merchantId number).2.1)
    · refine exceeds_injective (funext fun number => ?_)
      have hdaily := (hrequest merchantId number).2.2.1
      simpa only [probe, Nat.zero_add] using hdaily
    · exact velocityLimit_injective
        (exceeds_injective (funext fun number => (hrequest merchantId number).2.2.2))
  · rintro ⟨hmccs, hmax, hdaily, hvelocity⟩ request -
    rw [ruleFindings_eq_iff, hmax, hdaily, hvelocity]
    exact ⟨restricted_iff.mpr hmccs request.mcc, rfl, rfl, rfl⟩

theorem ruleOutcome_disabled_ne {disabled enforced : MerchantLockRule}
    (hdisabled : disabled.enforceMerchantLock = false)
    (henforced : enforced.enforceMerchantLock = true) (request : PolicyEvaluationRequest) :
    ruleOutcome (some disabled) request ≠ ruleOutcome (some enforced) request := by
  intro h
  have hfindings := congrArg Prod.snd h
  simp only [ruleOutcome, hdisabled, henforced, if_true, Bool.true_eq_false, if_false]
    at hfindings
  exact absurd (congrArg List.length hfindings) (by simp [ruleFindings])

/-- The requests of one merchant tell two rules apart iff their terms differ. -/
theorem ruleOutcome_eq_iff (merchantId : NonEmptyStr) (a b : MerchantLockRule) :
    (∀ request : PolicyEvaluationRequest, request.merchantId = merchantId →
      ruleOutcome (some a) request = ruleOutcome (some b) request) ↔ SameTerms a b := by
  unfold SameTerms
  cases ha : a.enforceMerchantLock with
  | false =>
    cases hb : b.enforceMerchantLock with
    | false => simp [ruleOutcome, ha, hb]
    | true =>
      refine iff_of_false ?_ (by simp)
      intro h
      exact ruleOutcome_disabled_ne ha hb _ (h (probe merchantId merchantId 0) rfl)
  | true =>
    cases hb : b.enforceMerchantLock with
    | false =>
      refine iff_of_false ?_ (by simp)
      intro h
      exact ruleOutcome_disabled_ne hb ha _ (h (probe merchantId merchantId 0) rfl).symm
    | true =>
      rw [eq_self, true_and, true_imp_iff, ← forall_ruleFindings_eq_iff merchantId a b]
      refine forall₂_congr ?_
      intro request _
      simp only [ruleOutcome, ha, hb, Bool.true_eq_false, if_false]
      constructor
      · exact congrArg Prod.snd
      · intro h
        rw [h]

def MerchantLockRule.renamed (name : NonEmptyStr → NonEmptyStr) (rule : MerchantLockRule) :
    MerchantLockRule :=
  { rule with lockId := name rule.lockId }

/-- The repository with every rule under its new name. -/
def InMemoryMerchantPolicyRepository.renamed (repository : InMemoryMerchantPolicyRepository)
    (name : NonEmptyStr ↪ NonEmptyStr) : InMemoryMerchantPolicyRepository where
  rules := {
    items := repository.list.map fun rule => ((name rule.lockId).val, rule.renamed name)
    nodup := by
      have hids := repository.lockId_nodup
      rw [List.map_map]
      refine List.Nodup.map_on ?_ (hids.of_map _)
      intro a ha b hb h
      exact List.inj_on_of_nodup_map hids ha hb
        (congrArg Subtype.val (name.injective (Subtype.ext h))) }
  filed := by
    intro item hitem
    obtain ⟨rule, -, rfl⟩ := List.mem_map.mp hitem
    rfl

variable (repository : InMemoryMerchantPolicyRepository)

theorem list_renamed (name : NonEmptyStr ↪ NonEmptyStr) :
    (repository.renamed name).list = repository.list.map (MerchantLockRule.renamed name) := by
  show (repository.list.map fun rule => ((name rule.lockId).val, rule.renamed name)).map Prod.snd =
    _
  rw [List.map_map]
  rfl

theorem rulesOf_renamed (name : NonEmptyStr ↪ NonEmptyStr) (merchantId : NonEmptyStr) :
    rulesOf (repository.renamed name) merchantId =
      (rulesOf repository merchantId).map (MerchantLockRule.renamed name) := by
  rw [rulesOf, list_renamed, List.filter_map]
  rfl

/-- After a renaming the rule with the greatest new name is selected. -/
theorem selectRule_renamed (name : NonEmptyStr ↪ NonEmptyStr) (merchantId : NonEmptyStr) :
    selectRule (repository.renamed name) merchantId =
      (lastBy (fun rule => name rule.lockId) (rulesOf repository merchantId)).map
        (MerchantLockRule.renamed name) := by
  rw [selectRule, rulesOf_renamed, lastBy_map]
  rfl

/-- The name of a rule says nothing about its outcome. -/
theorem ruleOutcome_renamed (name : NonEmptyStr → NonEmptyStr) (rule : Option MerchantLockRule)
    (request : PolicyEvaluationRequest) :
    ruleOutcome (rule.map (MerchantLockRule.renamed name)) request = ruleOutcome rule request := by
  cases rule with
  | none => rfl
  | some rule => rfl

/-- A rule has the greatest name of the rules of its merchant. -/
def Leads (name : NonEmptyStr → NonEmptyStr) (rule : MerchantLockRule) : Prop :=
  rule ∈ repository.list ∧
    ∀ other ∈ repository.list, other.merchantId = rule.merchantId →
      name other.lockId ≤ name rule.lockId

theorem lockId_inj {merchantId : NonEmptyStr} {name : NonEmptyStr → NonEmptyStr}
    (hname : Function.Injective name) :
    ∀ a ∈ rulesOf repository merchantId, ∀ b ∈ rulesOf repository merchantId,
      name a.lockId = name b.lockId → a = b := by
  intro a ha b hb h
  exact List.inj_on_of_nodup_map repository.lockId_nodup (List.mem_of_mem_filter ha)
    (List.mem_of_mem_filter hb) (congrArg Subtype.val (hname h))

theorem mem_rulesOf {merchantId : NonEmptyStr} {rule : MerchantLockRule} :
    rule ∈ rulesOf repository merchantId ↔
      rule ∈ repository.list ∧ rule.merchantId = merchantId := by
  rw [rulesOf, List.mem_filter, decide_eq_true_eq]

theorem lastBy_rulesOf_iff {name : NonEmptyStr → NonEmptyStr} (hname : Function.Injective name)
    {merchantId : NonEmptyStr} {rule : MerchantLockRule} :
    lastBy (fun rule => name rule.lockId) (rulesOf repository merchantId) = some rule ↔
      Leads repository name rule ∧ rule.merchantId = merchantId := by
  rw [lastBy_eq_some_iff (lockId_inj repository hname), mem_rulesOf]
  constructor
  · rintro ⟨⟨hmem, rfl⟩, hgreatest⟩
    exact ⟨⟨hmem, fun other hother hsame =>
      hgreatest other ((mem_rulesOf repository).mpr ⟨hother, hsame⟩)⟩, rfl⟩
  · rintro ⟨⟨hmem, hgreatest⟩, rfl⟩
    refine ⟨⟨hmem, rfl⟩, ?_⟩
    intro other hother
    obtain ⟨hlisted, hsame⟩ := (mem_rulesOf repository).mp hother
    exact hgreatest other hlisted hsame

/-- Every request has the same outcome after a renaming. -/
def SameOutcomes (name : NonEmptyStr ↪ NonEmptyStr) : Prop :=
  ∀ request, outcome request (repository.renamed name) = outcome request repository

/-- A renaming keeps the outcomes iff it hands each merchant over to a rule of the same
terms. -/
theorem sameOutcomes_iff (name : NonEmptyStr ↪ NonEmptyStr) :
    SameOutcomes repository name ↔
      ∀ old new : MerchantLockRule, old.merchantId = new.merchantId →
        Leads repository id old → Leads repository name new → SameTerms old new := by
  have hselect : ∀ request, outcome request (repository.renamed name) =
      ruleOutcome (lastBy (fun rule => name rule.lockId)
        (rulesOf repository request.merchantId)) request := by
    intro request
    rw [outcome_eq, selectRule_renamed, ruleOutcome_renamed]
  have hold : ∀ merchantId rule, selectRule repository merchantId = some rule ↔
      Leads repository id rule ∧ rule.merchantId = merchantId := fun _ _ =>
    lastBy_rulesOf_iff repository Function.injective_id
  constructor
  · intro h old new hmerchant hleads hleads'
    rw [← ruleOutcome_eq_iff new.merchantId old new]
    intro request hrequest
    have hnew := (lastBy_rulesOf_iff repository name.injective).mpr ⟨hleads', hrequest.symm⟩
    have hsame := h request
    rw [hselect, hnew, outcome_eq] at hsame
    rw [hsame]
    congr 1
    exact ((hold request.merchantId old).mpr ⟨hleads, hmerchant.trans hrequest.symm⟩).symm
  · intro h request
    rw [hselect, outcome_eq]
    cases hchosen : selectRule repository request.merchantId with
    | none =>
      have hempty := (lastBy_eq_none_iff _ _).mp hchosen
      rw [(lastBy_eq_none_iff _ _).mpr hempty]
    | some old =>
      obtain ⟨hleads, hmerchant⟩ := (hold request.merchantId old).mp hchosen
      cases hnew : lastBy (fun rule => name rule.lockId)
          (rulesOf repository request.merchantId) with
      | none =>
        have hempty := (lastBy_eq_none_iff _ _).mp hnew
        rw [selectRule, (lastBy_eq_none_iff _ _).mpr hempty] at hchosen
        cases hchosen
      | some new =>
        obtain ⟨hleads', hmerchant'⟩ := (lastBy_rulesOf_iff repository name.injective).mp hnew
        exact ((ruleOutcome_eq_iff request.merchantId old new).mpr
          (h old new (hmerchant.trans hmerchant'.symm) hleads hleads') request rfl).symm

theorem SameTerms.symm {a b : MerchantLockRule} (h : SameTerms a b) : SameTerms b a := by
  refine ⟨h.1.symm, ?_⟩
  intro hb
  obtain ⟨hmccs, hmax, hdaily, hvelocity⟩ := h.2 (h.1.trans hb)
  exact ⟨fun mcc => (hmccs mcc).symm, hmax.symm, hdaily.symm, hvelocity.symm⟩

theorem SameTerms.trans {a b c : MerchantLockRule} (h : SameTerms a b) (h' : SameTerms b c) :
    SameTerms a c := by
  refine ⟨h.1.trans h'.1, ?_⟩
  intro ha
  obtain ⟨hmccs, hmax, hdaily, hvelocity⟩ := h.2 ha
  obtain ⟨hmccs', hmax', hdaily', hvelocity'⟩ := h'.2 (h.1.symm.trans ha)
  exact ⟨fun mcc => (hmccs mcc).trans (hmccs' mcc), hmax.trans hmax', hdaily.trans hdaily',
    hvelocity.trans hvelocity'⟩

/-- A rule that some renaming must not hand over to has the terms of the selected one. -/
theorem sameTerms_of_selected (h : ∀ name, SameOutcomes repository name)
    {merchantId : NonEmptyStr} {chosen rule : MerchantLockRule}
    (hchosen : selectRule repository merchantId = some chosen)
    (hrule : rule ∈ rulesOf repository merchantId) : SameTerms chosen rule := by
  have hswap := lastBy_swap (lockId_inj repository Function.injective_id) hchosen hrule
  let name := (Equiv.swap rule.lockId chosen.lockId).toEmbedding
  obtain ⟨hleads', hmerchant'⟩ := (lastBy_rulesOf_iff repository name.injective).mp hswap
  obtain ⟨hleads, hmerchant⟩ :=
    (lastBy_rulesOf_iff repository Function.injective_id).mp hchosen
  exact (sameOutcomes_iff repository name).mp (h name) chosen rule
    (hmerchant.trans hmerchant'.symm) hleads hleads'

/-- The outcome depends on no naming iff the rules of each merchant have the same terms; one
renaming keeps it iff it hands each merchant over to a rule of the same terms. -/
theorem naming_independent_iff :
    (∀ name, SameOutcomes repository name ↔
      ∀ old new : MerchantLockRule, old.merchantId = new.merchantId →
        Leads repository id old → Leads repository name new → SameTerms old new) ∧
    ((∀ name, SameOutcomes repository name) ↔
      ∀ a ∈ repository.list, ∀ b ∈ repository.list, a.merchantId = b.merchantId →
        SameTerms a b) := by
  refine ⟨sameOutcomes_iff repository, ?_⟩
  constructor
  · intro h a ha b hb hmerchant
    have harule := (mem_rulesOf repository).mpr ⟨ha, rfl⟩
    have hbrule := (mem_rulesOf repository).mpr ⟨hb, hmerchant.symm⟩
    cases hchosen : selectRule repository a.merchantId with
    | none =>
      rw [(lastBy_eq_none_iff _ _).mp hchosen] at harule
      cases harule
    | some chosen =>
      exact (sameTerms_of_selected repository h hchosen harule).symm.trans
        (sameTerms_of_selected repository h hchosen hbrule)
  · intro h name
    rw [sameOutcomes_iff]
    intro old new hmerchant hleads hleads'
    exact h old hleads.1 new hleads'.1 hmerchant

def cappedRule : MerchantLockRule where
  lockId := ⟨"lock_a", by decide⟩
  merchantId := ⟨"merchant_of_two", by decide⟩
  maxSpendPerTxnMinor := some 100

def uncappedRule : MerchantLockRule where
  lockId := ⟨"lock_b", by decide⟩
  merchantId := ⟨"merchant_of_two", by decide⟩

/-- Two rules of one merchant, only one of which has a limit. -/
def twoRules : InMemoryMerchantPolicyRepository :=
  (InMemoryMerchantPolicyRepository.save {} cappedRule).save uncappedRule

theorem twoRules_list : twoRules.list = [cappedRule, uncappedRule] := by rfl

theorem cappedRule_lt : cappedRule.lockId < uncappedRule.lockId := by decide

/-- A purchase above the limit of the first rule. -/
def purchase : PolicyEvaluationRequest := probe cappedRule.merchantId ⟨"5411", by decide⟩ 500

/-- With the two lock ids swapped, a purchase that was allowed is refused. -/
theorem evaluatePolicy_swapped :
    (evaluatePolicy purchase twoRules).allowed = true ∧
      (evaluatePolicy purchase (twoRules.renamed
        (Equiv.swap cappedRule.lockId uncappedRule.lockId).toEmbedding)).allowed = false := by
  have hrules : rulesOf twoRules purchase.merchantId = [cappedRule, uncappedRule] := by
    rw [rulesOf, twoRules_list]
    rfl
  have hnames : ∀ a ∈ rulesOf twoRules purchase.merchantId,
      ∀ b ∈ rulesOf twoRules purchase.merchantId, a.lockId = b.lockId → a = b :=
    lockId_inj twoRules Function.injective_id
  have hlast : lastBy MerchantLockRule.lockId (rulesOf twoRules purchase.merchantId) =
      some uncappedRule := by
    refine (lastBy_eq_some_iff hnames).mpr ?_
    rw [hrules]
    simp [cappedRule_lt.le]
  have hswapped := lastBy_swap hnames hlast (a := cappedRule) (by rw [hrules]; simp)
  constructor
  · show (outcome purchase twoRules).1 = true
    rw [outcome_eq, selectRule, hlast]
    rfl
  · show (outcome purchase _).1 = false
    rw [outcome_eq]
    have hselect : selectRule (twoRules.renamed
        (Equiv.swap cappedRule.lockId uncappedRule.lockId).toEmbedding) purchase.merchantId =
          some (cappedRule.renamed (Equiv.swap cappedRule.lockId uncappedRule.lockId)) := by
      rw [selectRule_renamed]
      exact congrArg _ hswapped
    rw [hselect]
    rfl

end VeriPay.MerchantPolicy
