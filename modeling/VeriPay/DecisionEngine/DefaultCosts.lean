import VeriPay.DecisionEngine.Selection

/-!
Requests as the analyst pipeline sends them: a unified score with the tier and
band derived from it, and the default cost model. The tier then fixes the action:
ALLOW up to `low`, CHALLENGE at `moderate`, DECLINE at `high`.
-/

namespace VeriPay.DecisionEngine

open Lib Common

def pipelineRequest (transactionId : NonEmptyStr) (score : RiskScore) (rail : PaymentRail) :
    DecisionRequest :=
  DecisionPayload.deriveOperationalFields
    { transactionId
      riskScore := score
      riskBand := some (bandForTier (classifyScore (score.val : ℚ)))
      riskTier := some (classifyScore (score.val : ℚ))
      paymentRail := some rail }

def actionForTier : RiskTier → DecisionAction
  | .noRisk => .allow
  | .low => .allow
  | .moderate => .challenge
  | .high => .decline

variable (transactionId : NonEmptyStr) (score : RiskScore) (rail : PaymentRail)

theorem pipelineRequest_reaches : (pipelineRequest transactionId score rail).ReachesCostBranch :=
  ⟨rfl, rfl, rfl, fun _ => rfl, rfl⟩

theorem pipelineRequest_tier :
    (pipelineRequest transactionId score rail).riskTier = classifyScore (score.val : ℚ) := rfl

theorem pipelineRequest_cost (action : DecisionAction) :
    (pipelineRequest transactionId score rail).costOf action =
      expectedCost action ((score.val : ℚ) / 100) .defaults := rfl

/-- At `noRisk` the band does not match the tier, which is the matrix mode. -/
theorem DecisionRequest.actions_of_projected_band (request : DecisionRequest)
    (h : request.riskBand = some (bandForTier request.riskTier)) :
    request.actions =
      match request.riskTier with
      | .noRisk => [.allow, .monitor]
      | .low => [.allow, .monitor]
      | .moderate => [.monitor, .challenge, .review]
      | .high => [.review, .decline] := by
  unfold actions matrixMode
  rw [h]
  generalize request.riskTier = tier
  cases tier <;> rfl

theorem pipelineRequest_actions :
    (pipelineRequest transactionId score rail).actions =
      match classifyScore (score.val : ℚ) with
      | .noRisk => [.allow, .monitor]
      | .low => [.allow, .monitor]
      | .moderate => [.monitor, .challenge, .review]
      | .high => [.review, .decline] :=
  DecisionRequest.actions_of_projected_band _ rfl

theorem selected_eq_cheapest_of_pipeline :
    (pipelineRequest transactionId score rail).selected =
      (pipelineRequest transactionId score rail).cheapest := by
  apply DecisionRequest.selected_of_not_friction
  intro h
  obtain ⟨hmode, hlow, _⟩ := h
  rw [pipelineRequest_tier] at hlow
  unfold DecisionRequest.matrixMode at hmode
  simp only [pipelineRequest, DecisionPayload.deriveOperationalFields, DecisionPayload.derivedTier,
    hlow] at hmode
  exact absurd hmode (by decide)

/-! The default costs, compared two at a time. -/

theorem defaults_allow_le_monitor {probability : ℚ} (h : probability ≤ 1 / 4) :
    expectedCost .allow probability .defaults ≤ expectedCost .monitor probability .defaults := by
  simp only [expectedCost, CostModel.defaults]
  linarith

theorem defaults_challenge_lt_monitor {probability : ℚ} (h : 0 ≤ probability) :
    expectedCost .challenge probability .defaults <
      expectedCost .monitor probability .defaults := by
  simp only [expectedCost, CostModel.defaults]
  linarith

theorem defaults_challenge_lt_review {probability : ℚ} (h : 0 ≤ probability) :
    expectedCost .challenge probability .defaults <
      expectedCost .review probability .defaults := by
  simp only [expectedCost, CostModel.defaults]
  linarith

theorem defaults_decline_lt_review {probability : ℚ} (h : 1 / 2 ≤ probability) :
    expectedCost .decline probability .defaults < expectedCost .review probability .defaults := by
  simp only [expectedCost, CostModel.defaults]
  linarith

/-- ALLOW is named first and costs no more than MONITOR. -/
theorem cheapest_pipeline_of_allow
    (hactions : (pipelineRequest transactionId score rail).actions = [.allow, .monitor])
    (hscore : (score.val : ℚ) ≤ 25) :
    (pipelineRequest transactionId score rail).cheapest.action = .allow := by
  apply (pipelineRequest transactionId score rail).cheapest_head _ _ hactions
  intro action haction
  rw [List.mem_singleton.mp haction, pipelineRequest_cost, pipelineRequest_cost]
  exact defaults_allow_le_monitor (by linarith)

/-- The cheapest action at the default costs. -/
theorem cheapest_pipeline :
    (pipelineRequest transactionId score rail).cheapest.action =
      actionForTier (classifyScore (score.val : ℚ)) := by
  have hactions := pipelineRequest_actions transactionId score rail
  have hmem := (pipelineRequest transactionId score rail).cheapest_action_mem
  have hle := (pipelineRequest transactionId score rail).cheapest_le
  have hprobability : (0 : ℚ) ≤ (score.val : ℚ) / 100 :=
    div_nonneg (Nat.cast_nonneg _) (Nat.cast_nonneg 100)
  rw [hactions] at hmem hle
  simp only [pipelineRequest_cost] at hle
  by_cases hnone : (score.val : ℚ) ≤ 5
  · have htier : classifyScore (score.val : ℚ) = .noRisk := if_pos hnone
    rw [htier] at hactions ⊢
    exact cheapest_pipeline_of_allow transactionId score rail hactions (by linarith)
  · by_cases hlow : (score.val : ℚ) ≤ 25
    · have htier : classifyScore (score.val : ℚ) = .low := by
        simp [classifyScore, hnone, hlow]
      rw [htier] at hactions ⊢
      exact cheapest_pipeline_of_allow transactionId score rail hactions hlow
    · by_cases hmoderate : (score.val : ℚ) ≤ 50
      · have htier : classifyScore (score.val : ℚ) = .moderate := by
          simp [classifyScore, hnone, hlow, hmoderate]
        simp only [htier, List.mem_cons, List.not_mem_nil, or_false] at hmem hle ⊢
        have hchallenge := hle .challenge (by simp)
        rcases hmem with h | h | h
        · rw [h] at hchallenge
          exact absurd hchallenge (not_le.mpr (defaults_challenge_lt_monitor hprobability))
        · exact h
        · rw [h] at hchallenge
          exact absurd hchallenge (not_le.mpr (defaults_challenge_lt_review hprobability))
      · have htier : classifyScore (score.val : ℚ) = .high := by
          simp [classifyScore, hnone, hlow, hmoderate]
        simp only [htier, List.mem_cons, List.not_mem_nil, or_false] at hmem hle ⊢
        have hdecline := hle .decline (by simp)
        rcases hmem with h | h
        · rw [h] at hdecline
          exact absurd hdecline (not_le.mpr (defaults_decline_lt_review (by linarith)))
        · exact h

/-- What `decide` answers the pipeline. -/
theorem decide_pipelineRequest (uuid : String) :
    ((pipelineRequest transactionId score rail).decide uuid).action =
      actionForTier (classifyScore (score.val : ℚ)) := by
  have hverdict := DecisionRequest.verdict_of_reaches uuid
    (pipelineRequest transactionId score rail) (pipelineRequest_reaches transactionId score rail)
  have haction := congrArg Verdict.action hverdict
  rw [← cheapest_pipeline transactionId score rail,
    ← selected_eq_cheapest_of_pipeline transactionId score rail]
  exact haction

end VeriPay.DecisionEngine
