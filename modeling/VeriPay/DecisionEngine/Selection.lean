import VeriPay.DecisionEngine.Verdict

/-!
The cost branch of `decide`. The cheapest candidate is taken first and the
tier's friction applied to it afterwards: at tier `low` a cheapest ALLOW is
replaced by the push challenge, whatever a decline would cost.
-/

namespace VeriPay.DecisionEngine

open Lib Common

namespace DecisionRequest

/-- What friction leaves: everything in legacy-band mode and at tier `noRisk`,
otherwise the candidates other than ALLOW. -/
def permittedActions (request : DecisionRequest) : List DecisionAction :=
  if request.matrixMode ∧ request.riskTier ≠ .noRisk then
    request.actions.filter fun action => action ≠ .allow
  else request.actions

/-- At tier `low` in matrix mode, ALLOW is the cheapest of the three candidates. -/
def FrictionApplies (request : DecisionRequest) : Prop :=
  request.matrixMode = true ∧ request.riskTier = .low ∧
    request.costOf .allow ≤ request.costOf .challenge ∧
    request.costOf .allow ≤ request.costOf .decline

instance (request : DecisionRequest) : Decidable request.FrictionApplies := by
  unfold FrictionApplies
  infer_instance

theorem actions_of_matrixMode (request : DecisionRequest) (h : request.matrixMode = true) :
    request.actions = allowedActionsForTier request.riskTier := by
  simp only [actions, h, if_true]

/-- Legacy mode means that a band was sent and that the tier is its projection. -/
theorem exists_band_of_not_matrixMode (request : DecisionRequest)
    (h : request.matrixMode = false) :
    ∃ band, request.riskBand = some band ∧ request.riskTier = tierFromBand band ∧
      request.actions = candidateActions band := by
  cases hband : request.riskBand with
  | none => simp [matrixMode, hband] at h
  | some band =>
    have htier : request.riskTier = tierFromBand band := by
      simpa [matrixMode, hband] using h
    refine ⟨band, rfl, htier, ?_⟩
    simp [actions, h, hband]

/-- ALLOW stands first among the `low` candidates, so it wins every tie. -/
theorem cheapest_allow_iff (request : DecisionRequest) (hmode : request.matrixMode = true)
    (htier : request.riskTier = .low) :
    request.cheapest.action = .allow ↔
      request.costOf .allow ≤ request.costOf .challenge ∧
        request.costOf .allow ≤ request.costOf .decline := by
  have hactions : request.actions = [.allow, .challenge, .decline] := by
    rw [request.actions_of_matrixMode hmode, htier]
    rfl
  constructor
  · intro hallow
    have hle := request.cheapest_le
    rw [hallow, hactions] at hle
    exact ⟨hle .challenge (by simp), hle .decline (by simp)⟩
  · intro h
    obtain ⟨hchallenge, hdecline⟩ := h
    apply request.cheapest_head .allow [.challenge, .decline] hactions
    intro action haction
    simp only [List.mem_cons, List.not_mem_nil, or_false] at haction
    rcases haction with rfl | rfl
    · exact hchallenge
    · exact hdecline

/-- Outside tier `low` the override never fires: `moderate` and `high` have no
ALLOW candidate. -/
theorem selected_of_not_low (request : DecisionRequest) (h : request.riskTier ≠ .low) :
    request.selected = request.cheapest := by
  unfold selected
  split_ifs with hfriction
  · obtain ⟨hmode, htier, hallow⟩ := hfriction
    have hmem := request.cheapest_action_mem
    rw [hallow, request.actions_of_matrixMode hmode] at hmem
    cases hcase : request.riskTier <;> simp_all [allowedActionsForTier]
  · rfl

theorem selected_of_friction (request : DecisionRequest) (h : request.FrictionApplies) :
    request.selected = ⟨.challenge, request.costOf .challenge⟩ := by
  obtain ⟨hmode, htier, hcosts⟩ := h
  have hallow := (request.cheapest_allow_iff hmode htier).mpr hcosts
  have hfind : (request.candidates.find? fun candidate => candidate.action = .challenge) =
      some ⟨.challenge, request.costOf .challenge⟩ := by
    simp [candidates, request.actions_of_matrixMode hmode, htier, allowedActionsForTier]
  unfold selected
  rw [if_pos ⟨hmode, by rw [htier]; decide, hallow⟩, hfind]
  rfl

theorem selected_of_not_friction (request : DecisionRequest) (h : ¬ request.FrictionApplies) :
    request.selected = request.cheapest := by
  by_cases htier : request.riskTier = .low
  · unfold selected
    split_ifs with hoverride
    · obtain ⟨hmode, -, hallow⟩ := hoverride
      have hcosts := (request.cheapest_allow_iff hmode htier).mp hallow
      exact absurd ⟨hmode, htier, hcosts⟩ h
    · rfl
  · exact request.selected_of_not_low htier

theorem selected_of_legacy (request : DecisionRequest) (h : request.matrixMode = false) :
    request.selected = request.cheapest := by
  apply request.selected_of_not_friction
  intro h
  obtain ⟨hmode, -⟩ := h
  exact absurd hmode (by rw [h]; decide)

theorem permittedActions_low (request : DecisionRequest) (hmode : request.matrixMode = true)
    (htier : request.riskTier = .low) :
    request.permittedActions = [.challenge, .decline] := by
  simp [permittedActions, request.actions_of_matrixMode hmode, hmode, htier,
    allowedActionsForTier]

theorem permittedActions_subset (request : DecisionRequest) (action : DecisionAction)
    (h : action ∈ request.permittedActions) : action ∈ request.actions := by
  unfold permittedActions at h
  split at h
  · exact (List.mem_filter.mp h).1
  · exact h

/-- Where the friction rule does not fire, the cheapest candidate is permitted. -/
theorem cheapest_permitted (request : DecisionRequest) (h : ¬ request.FrictionApplies) :
    request.cheapest.action ∈ request.permittedActions := by
  unfold permittedActions
  split_ifs with hmode
  · refine List.mem_filter.mpr ⟨request.cheapest_action_mem, ?_⟩
    have hne : request.cheapest.action ≠ .allow := by
      intro hallow
      have hselected := request.selected_of_not_friction h
      have hmem := request.cheapest_action_mem
      rw [hallow, request.actions_of_matrixMode hmode.1] at hmem
      cases htier : request.riskTier with
      | noRisk => exact hmode.2 htier
      | low => exact h ⟨hmode.1, htier, (request.cheapest_allow_iff hmode.1 htier).mp hallow⟩
      | moderate => simp [htier, allowedActionsForTier] at hmem
      | high => simp [htier, allowedActionsForTier] at hmem
    simpa using hne
  · exact request.cheapest_action_mem

/-- The cost branch picks a permitted action at that action's cost. It is the
least permitted cost unless friction replaced a cheapest ALLOW by the challenge,
and then exactly unless the decline is cheaper than the challenge. -/
theorem decide_cost_minimal (uuid : String) (request : DecisionRequest)
    (h : request.ReachesCostBranch) :
    (request.decide uuid).action ∈ request.permittedActions ∧
      (request.decide uuid).expectedCostMinor = request.costOf (request.decide uuid).action ∧
      (¬ request.FrictionApplies → ∀ action ∈ request.permittedActions,
        (request.decide uuid).expectedCostMinor ≤ request.costOf action) ∧
      (request.FrictionApplies → (request.decide uuid).action = .challenge ∧
        ((∀ action ∈ request.permittedActions,
            (request.decide uuid).expectedCostMinor ≤ request.costOf action) ↔
          request.costOf .challenge ≤ request.costOf .decline)) := by
  have hverdict := request.verdict_of_reaches uuid h
  have haction : (request.decide uuid).action = request.selected.action :=
    congrArg Verdict.action hverdict
  have hcost : (request.decide uuid).expectedCostMinor = request.selected.expectedCostMinor :=
    congrArg Verdict.expectedCostMinor hverdict
  rw [haction, hcost]
  by_cases hfriction : request.FrictionApplies
  · have hpermitted := request.permittedActions_low hfriction.1 hfriction.2.1
    rw [request.selected_of_friction hfriction, hpermitted]
    refine ⟨by simp, rfl, fun hnot => absurd hfriction hnot, fun _ => ⟨rfl, ?_⟩⟩
    simp
  · rw [request.selected_of_not_friction hfriction]
    refine ⟨request.cheapest_permitted hfriction, request.cheapest_cost, fun _ => ?_,
      fun hyes => absurd hyes hfriction⟩
    intro action hmem
    rw [request.cheapest_cost]
    exact request.cheapest_le action (request.permittedActions_subset action hmem)

/-- A `low` request for which a challenge costs far more than a decline: ALLOW
costs 100, CHALLENGE 5020 and DECLINE 900. -/
def dearChallenge : DecisionRequest where
  transactionId := ⟨"pay-2", by decide⟩
  riskScore := ⟨10, by decide⟩
  riskBand := none
  riskTier := .low
  paymentRail := none
  processingPath := none
  verificationOutcome := .pending
  isReversal := false
  complianceBlocked := false
  mandatoryChallenge := false
  evidenceAvailable := true
  explanationAvailable := true
  costModel :=
    { CostModel.defaults with
      fraudLossMinor := 1000
      falseDeclineLossMinor := 1000
      challengeCostMinor := 5000
      fraudLoss_nonneg := by norm_num
      falseDeclineLoss_nonneg := by norm_num
      challengeCost_nonneg := by norm_num }

theorem dearChallenge_friction : dearChallenge.FrictionApplies := by
  refine ⟨rfl, rfl, ?_, ?_⟩ <;>
    norm_num [costOf, expectedCost, probability, dearChallenge, CostModel.defaults]

theorem dearChallenge_costs :
    dearChallenge.costOf .decline < dearChallenge.costOf .challenge := by
  norm_num [costOf, expectedCost, probability, dearChallenge, CostModel.defaults]

theorem not_decide_least_permitted :
    ¬ ∀ (uuid : String) (request : DecisionRequest), request.ReachesCostBranch →
      ∀ action ∈ request.permittedActions,
        (request.decide uuid).expectedCostMinor ≤ request.costOf action := by
  intro hleast
  have hle := hleast "" dearChallenge (by decide) .decline (by decide)
  have hcost : (dearChallenge.decide "").expectedCostMinor =
      dearChallenge.selected.expectedCostMinor := rfl
  rw [hcost, selected_of_friction _ dearChallenge_friction] at hle
  exact absurd hle (not_le.mpr dearChallenge_costs)

theorem decide_cost_minimal_dearChallenge :
    dearChallenge.ReachesCostBranch ∧ (dearChallenge.decide "").action = .challenge :=
  ⟨by decide,
    ((decide_cost_minimal "" dearChallenge (by decide)).2.2.2 dearChallenge_friction).1⟩

end DecisionRequest

end VeriPay.DecisionEngine
