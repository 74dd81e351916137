import VeriPay.RiskFusion.Service

/-!
What fusion guarantees. No component list makes a check of `fuse_risk` fire, the score lies
between the least and the greatest available score, and it depends on the available
components alone, in no order, growing with each of their scores.
-/

namespace VeriPay.RiskFusion

open Lib Common

/-- `a / b`. -/
def divide (a b : ℚ) : Py ℚ :=
  if b = 0 then .error (.other "ZeroDivisionError: division by zero") else .ok (a / b)

/-- The response model's check of the score. -/
def validateUnifiedScore (score : ℤ) : Py RiskScore :=
  if h : 0 ≤ score ∧ score ≤ 100 then .ok ⟨score.toNat, by omega⟩
  else .error (.validationError "unified_score")

/-- The score `fuse_risk` computes, with the division that could raise. -/
def fusedScore (components : List RiskComponent) : Py ℤ :=
  let available := components.filter RiskComponent.available
  if available = [] then return 100
  else do
    let totalWeight := (available.map RiskComponent.weight).sum
    let weightedScore := (available.map fun c => c.score * c.weight).sum
    return roundEven (← divide weightedScore totalWeight)

/-- `fuse_risk` with each of its steps that can raise. -/
def fuseRiskSteps (request : FusionRequest) : Py FusionResponse := do
  let score ← fusedScore request.components
  let tier ← tierForScore (score : ℚ)
  let unifiedScore ← validateUnifiedScore score
  return {
    transactionId := request.transactionId
    unifiedScore
    band := bandForTier tier
    tier
    components := request.components }

/-- The weights of available components never sum to zero. -/
theorem fusedScore_ok (components : List RiskComponent) :
    fusedScore components = .ok (unifiedScore components) := by
  unfold fusedScore unifiedScore
  dsimp only
  by_cases hnone : components.filter RiskComponent.available = []
  · rw [if_pos hnone, if_pos hnone]
    rfl
  · have hpos : 0 < totalWeight (availableScores components) :=
      totalWeight_pos (availableScores_ne_nil hnone)
        (fun item hitem => (availableScores_bounds hitem).1)
    have htotal : ((components.filter RiskComponent.available).map RiskComponent.weight).sum =
        totalWeight (availableScores components) := by
      simp [totalWeight, availableScores, Function.comp_def]
    have hsum : ((components.filter RiskComponent.available).map
        fun c => c.score * c.weight).sum = weightedSum (availableScores components) := by
      simp [weightedSum, availableScores, Function.comp_def]
    rw [if_neg hnone, if_neg hnone, htotal, hsum, divide, if_neg hpos.ne', Py.ok_bind]
    rfl

theorem validateUnifiedScore_ok (components : List RiskComponent) :
    validateUnifiedScore (unifiedScore components) = .ok (checkedScore components) :=
  dif_pos (unifiedScore_bounds components)

theorem tierForScore_unifiedScore (components : List RiskComponent) :
    tierForScore (unifiedScore components : ℚ) =
      .ok (classifyScore ((checkedScore components).val : ℚ)) := by
  rw [← checkedScore_cast, Int.cast_natCast, tierForScore_riskScore]

theorem fuseRiskSteps_ok (request : FusionRequest) :
    fuseRiskSteps request = .ok (fuseRisk request) := by
  rw [fuseRiskSteps, fusedScore_ok, Py.ok_bind, tierForScore_unifiedScore, Py.ok_bind,
    validateUnifiedScore_ok, Py.ok_bind]
  rfl

section Bounds

/-- The scores of the available components. -/
def scoresAvailable (request : FusionRequest) : List ℚ :=
  (request.components.filter RiskComponent.available).map RiskComponent.score

/-- What a response says about the components of its request. -/
structure Fused (request : FusionRequest) (response : FusionResponse) : Prop where
  none_available : scoresAvailable request = [] → response.unifiedScore.val = 100
  between : scoresAvailable request ≠ [] →
    ∃ low high, (scoresAvailable request).min? = some low ∧
      (scoresAvailable request).max? = some high ∧
      roundEven low ≤ response.unifiedScore.val ∧ response.unifiedScore.val ≤ roundEven high
  in_range : 0 ≤ response.unifiedScore.val ∧ response.unifiedScore.val ≤ 100
  tier_eq : tierForScore (response.unifiedScore.val : ℚ) = .ok response.tier
  band_eq : response.band = bandForTier response.tier

theorem score_mem_scoresAvailable {request : FusionRequest} {item : ℚ × ℚ}
    (h : item ∈ availableScores request.components) : item.1 ∈ scoresAvailable request := by
  obtain ⟨c, hc, rfl⟩ := List.mem_map.mp h
  exact List.mem_map_of_mem hc

theorem scoresAvailable_eq_nil_iff (request : FusionRequest) :
    scoresAvailable request = [] ↔ request.components.filter RiskComponent.available = [] :=
  List.map_eq_nil_iff

/-- The mean, and with it its rounding, stays between the extremes. -/
theorem unifiedScore_between {request : FusionRequest} (hsome : scoresAvailable request ≠ [])
    {low high : ℚ} (hlow : (scoresAvailable request).min? = some low)
    (hhigh : (scoresAvailable request).max? = some high) :
    roundEven low ≤ unifiedScore request.components ∧
      unifiedScore request.components ≤ roundEven high := by
  have hne : request.components.filter RiskComponent.available ≠ [] := fun hnone =>
    hsome ((scoresAvailable_eq_nil_iff request).mpr hnone)
  have hitems := availableScores_ne_nil hne
  have hweight : ∀ item ∈ availableScores request.components, 0 < item.2 :=
    fun item hitem => (availableScores_bounds hitem).1
  rw [unifiedScore, if_neg hne]
  constructor
  · apply roundEven_mono
    apply le_weightedMean hitems hweight
    intro item hitem
    exact (List.min?_eq_some_iff.mp hlow).2 _ (score_mem_scoresAvailable hitem)
  · apply roundEven_mono
    apply weightedMean_le hitems hweight
    intro item hitem
    exact (List.max?_eq_some_iff.mp hhigh).2 _ (score_mem_scoresAvailable hitem)

/-- Every valid request is answered, within the bounds of its available scores. -/
theorem fuseRisk_bounds (request : FusionRequest) :
    ∃ response, fuseRiskSteps request = .ok response ∧ Fused request response := by
  refine ⟨fuseRisk request, fuseRiskSteps_ok request, ?_⟩
  have hcast : (((fuseRisk request).unifiedScore.val : ℕ) : ℤ) =
      unifiedScore request.components := checkedScore_cast _
  constructor
  · intro hnone
    rw [scoresAvailable_eq_nil_iff] at hnone
    rw [unifiedScore, if_pos hnone] at hcast
    omega
  · intro hsome
    obtain ⟨low, hlow⟩ := Option.isSome_iff_exists.mp (List.isSome_min?_iff.mpr hsome)
    obtain ⟨high, hhigh⟩ := Option.isSome_iff_exists.mp (List.isSome_max?_iff.mpr hsome)
    refine ⟨low, high, hlow, hhigh, ?_⟩
    rw [hcast]
    exact unifiedScore_between hsome hlow hhigh
  · exact ⟨Nat.zero_le _, (fuseRisk request).unifiedScore.property⟩
  · exact tierForScore_riskScore _
  · rfl

end Bounds

section TwoRuns

/-- Two responses with one verdict. -/
structure SameVerdict (response response' : FusionResponse) : Prop where
  score_eq : response.unifiedScore = response'.unifiedScore
  tier_eq : response.tier = response'.tier
  band_eq : response.band = response'.band

/-- The second verdict is not below the first. -/
structure NotLower (response response' : FusionResponse) : Prop where
  score_le : response.unifiedScore.val ≤ response'.unifiedScore.val
  level_le : response.tier.level ≤ response'.tier.level

/-- Only the available components count, in any order. -/
theorem unifiedScore_perm {components components' : List RiskComponent}
    (h : (components.filter RiskComponent.available).Perm
      (components'.filter RiskComponent.available)) :
    unifiedScore components = unifiedScore components' := by
  unfold unifiedScore
  by_cases hnone : components.filter RiskComponent.available = []
  · rw [if_pos hnone, if_pos (List.nil_perm.mp (hnone ▸ h))]
  · have hnone' : components'.filter RiskComponent.available ≠ [] := fun hnil =>
      hnone (List.perm_nil.mp (hnil ▸ h))
    have hmean : weightedMean (availableScores components) =
        weightedMean (availableScores components') := weightedMean_perm (h.map _)
    rw [if_neg hnone, if_neg hnone', hmean]

theorem sameVerdict_of_score {request request' : FusionRequest}
    (h : unifiedScore request.components = unifiedScore request'.components) :
    SameVerdict (fuseRisk request) (fuseRisk request') := by
  have hscore : checkedScore request.components = checkedScore request'.components := by
    apply Subtype.ext
    have hcast := h
    rw [← checkedScore_cast, ← checkedScore_cast] at hcast
    exact_mod_cast hcast
  have htier : (fuseRisk request).tier = (fuseRisk request').tier := by
    show classifyScore (checkedScore request.components).val = _
    rw [hscore]
    rfl
  exact ⟨hscore, htier, congrArg bandForTier htier⟩

theorem notLower_of_score {request request' : FusionRequest}
    (h : unifiedScore request.components ≤ unifiedScore request'.components) :
    NotLower (fuseRisk request) (fuseRisk request') := by
  rw [← checkedScore_cast, ← checkedScore_cast] at h
  have hle : (checkedScore request.components).val ≤ (checkedScore request'.components).val := by
    exact_mod_cast h
  exact ⟨hle, classifyScore_mono (by exact_mod_cast hle)⟩

/-- Of two requests with one permuted list of components, or the same available ones, the
verdicts are equal; with higher scores on some components, the verdict is not lower. -/
theorem fuseRisk_two_runs (request request' : FusionRequest) :
    (request.components.Perm request'.components ∨
        request.components.filter RiskComponent.available =
          request'.components.filter RiskComponent.available →
      SameVerdict (fuseRisk request) (fuseRisk request')) ∧
      (List.Forall₂ RiskComponent.Raised request.components request'.components →
        NotLower (fuseRisk request) (fuseRisk request')) := by
  constructor
  · intro h
    apply sameVerdict_of_score
    rcases h with hperm | hsame
    · exact unifiedScore_perm (hperm.filter _)
    · exact unifiedScore_perm (hsame ▸ List.Perm.refl _)
  · intro hraised
    exact notLower_of_score (unifiedScore_mono hraised)

end TwoRuns

end VeriPay.RiskFusion
