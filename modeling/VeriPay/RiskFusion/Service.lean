import VeriPay.Lib.Rounding
import VeriPay.Lib.WeightedMean
import VeriPay.Common.RiskPolicy

/-!
Weighted fusion of independent risk components. The unified score is the rounded
mean of the available components, or 100 when there is none.
-/

namespace VeriPay.RiskFusion

open Lib Common

structure RiskComponent where
  component : NonEmptyStr
  score : ℚ
  weight : ℚ
  available : Bool := true
  reasonCode : Option String := none
  score_bounds : 0 ≤ score ∧ score ≤ 100
  weight_bounds : 0 < weight ∧ weight ≤ 1

/-- A validated request. The validator's check of the weight sum never fires,
since there is a component and every weight is positive. -/
structure FusionRequest where
  transactionId : NonEmptyStr
  components : List RiskComponent
  nonempty : components ≠ []

structure FusionResponse where
  transactionId : NonEmptyStr
  unifiedScore : RiskScore
  band : RiskBand
  tier : RiskTier
  components : List RiskComponent

/-- The available components, as values with weights. -/
def availableScores (components : List RiskComponent) : List (ℚ × ℚ) :=
  (components.filter RiskComponent.available).map (fun c => (c.score, c.weight))

def unifiedScore (components : List RiskComponent) : ℤ :=
  if components.filter RiskComponent.available = [] then 100
  else roundEven (weightedMean (availableScores components))

theorem availableScores_ne_nil {components : List RiskComponent}
    (h : components.filter RiskComponent.available ≠ []) : availableScores components ≠ [] := by
  simpa [availableScores] using h

theorem availableScores_bounds {components : List RiskComponent} {item : ℚ × ℚ}
    (h : item ∈ availableScores components) : 0 < item.2 ∧ 0 ≤ item.1 ∧ item.1 ≤ 100 := by
  obtain ⟨c, _, rfl⟩ := List.mem_map.mp h
  exact ⟨c.weight_bounds.1, c.score_bounds⟩

theorem unifiedScore_bounds (components : List RiskComponent) :
    0 ≤ unifiedScore components ∧ unifiedScore components ≤ 100 := by
  unfold unifiedScore
  split_ifs with havailable
  · omega
  · have hne := availableScores_ne_nil havailable
    have hweight : ∀ item ∈ availableScores components, 0 < item.2 :=
      fun item hitem => (availableScores_bounds hitem).1
    constructor
    · apply le_roundEven
      exact_mod_cast le_weightedMean hne hweight
        (fun item hitem => (availableScores_bounds hitem).2.1)
    · apply roundEven_le
      exact_mod_cast weightedMean_le hne hweight
        (fun item hitem => (availableScores_bounds hitem).2.2)

/-- The score as the response model admits it. -/
def checkedScore (components : List RiskComponent) : RiskScore :=
  ⟨(unifiedScore components).toNat, by
    have h := unifiedScore_bounds components
    omega⟩

theorem checkedScore_cast (components : List RiskComponent) :
    ((checkedScore components).val : ℤ) = unifiedScore components :=
  Int.toNat_of_nonneg (unifiedScore_bounds components).1

/-- `fuse_risk`; neither the policy's range check nor the response model's can
fire on a unified score. -/
def fuseRisk (request : FusionRequest) : FusionResponse :=
  let score := checkedScore request.components
  let tier := classifyScore (score.val : ℚ)
  { transactionId := request.transactionId
    unifiedScore := score
    band := bandForTier tier
    tier
    components := request.components }

/-- Higher scores on the same components. -/
def RiskComponent.Raised (lower higher : RiskComponent) : Prop :=
  lower.available = higher.available ∧ lower.weight = higher.weight ∧ lower.score ≤ higher.score

theorem availableScores_raised {lower higher : List RiskComponent}
    (h : List.Forall₂ RiskComponent.Raised lower higher) :
    List.Forall₂ Lib.Raised (availableScores lower) (availableScores higher) := by
  induction h with
  | nil => exact .nil
  | @cons c c' rest rest' hc _ ih =>
    obtain ⟨havailable, hweight, hscore⟩ := hc
    cases hcase : c.available with
    | true =>
      have hcase' : c'.available = true := havailable ▸ hcase
      simp only [availableScores, List.filter_cons, hcase, hcase', if_true, List.map_cons]
      exact .cons ⟨hweight, hscore⟩ ih
    | false =>
      have hcase' : c'.available = false := havailable ▸ hcase
      simp only [availableScores, List.filter_cons, hcase, hcase']
      exact ih

/-- More risk on any axis never lowers the unified score. -/
theorem unifiedScore_mono {lower higher : List RiskComponent}
    (h : List.Forall₂ RiskComponent.Raised lower higher) :
    unifiedScore lower ≤ unifiedScore higher := by
  have hraised := availableScores_raised h
  have hempty : lower.filter RiskComponent.available = [] ↔
      higher.filter RiskComponent.available = [] := by
    have hlength := hraised.length_eq
    simp only [availableScores, List.length_map] at hlength
    rw [← List.length_eq_zero_iff, ← List.length_eq_zero_iff, hlength]
  unfold unifiedScore
  by_cases hnone : lower.filter RiskComponent.available = []
  · rw [if_pos hnone, if_pos (hempty.mp hnone)]
  · rw [if_neg hnone, if_neg (fun hhigher => hnone (hempty.mpr hhigher))]
    exact roundEven_mono (weightedMean_raised hraised
      (fun item hitem => (availableScores_bounds hitem).1))

end VeriPay.RiskFusion
