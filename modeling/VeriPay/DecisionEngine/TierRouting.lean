import VeriPay.DecisionEngine.Selection

/-!
Routing by the tier alone. Whatever the cost model makes cheapest, a pending request
without a hard control gets one of its tier's actions, and never ALLOW above `noRisk`.
-/

namespace VeriPay.DecisionEngine

open Lib Common

namespace DecisionRequest

theorem decide_of_reaches (uuid : String) (request : DecisionRequest)
    (h : request.ReachesCostBranch) :
    ∃ mode job, request.decide uuid = request.costResponse mode job := by
  obtain ⟨hreversal, hcompliance, hevidence, hexplanation, hpending⟩ := h
  have hinBand : ¬ (request.derivedPath = .secondary ∧ !request.explanationAvailable) := by
    intro hmissing
    obtain ⟨hsecondary, hunavailable⟩ := hmissing
    rw [hexplanation hsecondary] at hunavailable
    cases hunavailable
  unfold decide
  rw [if_neg (by rw [hreversal]; decide), if_neg (by rw [hcompliance]; decide),
    if_neg (by rw [hevidence]; decide), if_neg hinBand, hpending]
  exact ⟨_, _, rfl⟩

/-- The selected candidate is one of the list, at its own cost. -/
theorem selected_mem (request : DecisionRequest) : request.selected ∈ request.candidates := by
  by_cases hfriction : request.FrictionApplies
  · rw [request.selected_of_friction hfriction, mem_candidates_iff]
    refine ⟨request.permittedActions_subset _ ?_, rfl⟩
    rw [request.permittedActions_low hfriction.1 hfriction.2.1]
    exact List.mem_cons_self
  · rw [request.selected_of_not_friction hfriction]
    exact request.cheapest_mem

theorem selected_action_permitted (request : DecisionRequest) :
    request.selected.action ∈ request.permittedActions := by
  by_cases hfriction : request.FrictionApplies
  · rw [request.selected_of_friction hfriction,
      request.permittedActions_low hfriction.1 hfriction.2.1]
    exact List.mem_cons_self
  · rw [request.selected_of_not_friction hfriction]
    exact request.cheapest_permitted hfriction

/-- Friction leaves no ALLOW above tier `noRisk`. -/
theorem noRisk_of_selected_allow (request : DecisionRequest) (hmode : request.matrixMode = true)
    (hallow : request.selected.action = .allow) : request.riskTier = .noRisk := by
  by_contra htier
  have hpermitted := request.selected_action_permitted
  rw [hallow, permittedActions, if_pos ⟨hmode, htier⟩, List.mem_filter] at hpermitted
  exact absurd hpermitted.2 (by decide)

theorem analystEscalation_iff (tier : RiskTier) :
    (policyForTier tier).analystEscalation = true ↔ tier = .high := by
  cases tier <;> decide

end DecisionRequest

/-- What a submission without a band, a hard control or a verification gets. -/
structure TierRouted (request : DecisionRequest) (response : DecisionResponse) : Prop where
  action_allowed : response.action ∈ allowedActionsForTier request.riskTier
  allow_noRisk : response.action = .allow → request.riskTier = .noRisk
  candidates_eq : response.candidates = (allowedActionsForTier request.riskTier).map fun action =>
    { action := action, expectedCostMinor := request.costOf action }
  cost_eq : response.expectedCostMinor = request.costOf response.action
  escalation_iff : response.escalationRequired = true ↔
    request.riskTier = .high ∧ response.action = .review

theorem DecisionRequest.tierRouted_of_reaches (uuid : String) (request : DecisionRequest)
    (hband : request.riskBand = none) (h : request.ReachesCostBranch) :
    TierRouted request (request.decide uuid) := by
  have hmode : request.matrixMode = true := by rw [matrixMode, hband]
  have hactions := request.actions_of_matrixMode hmode
  obtain ⟨haction, hcost⟩ := (request.mem_candidates_iff _).mp request.selected_mem
  obtain ⟨mode, job, hdecide⟩ := request.decide_of_reaches uuid h
  rw [hdecide]
  constructor
  · rw [← hactions]
    exact haction
  · exact request.noRisk_of_selected_allow hmode
  · rw [← hactions]
    rfl
  · exact hcost
  · show ((policyForTier request.riskTier).analystEscalation &&
      Decidable.decide (request.selected.action = .review)) = true ↔ _
    rw [Bool.and_eq_true, analystEscalation_iff, decide_eq_true_iff]
    rfl

/-- A submission that names no band and meets no hard control is routed by its tier, under
every cost model. -/
theorem decide_tierRouted (uuid : String) (payload : DecisionPayload)
    (hband : payload.riskBand = none) (hreversal : payload.isReversal = false)
    (hcompliance : payload.complianceBlocked = false)
    (hevidence : payload.evidenceAvailable = true)
    (hexplanation : payload.explanationAvailable = true)
    (hpending : payload.verificationOutcome = .pending) :
    TierRouted payload.deriveOperationalFields (payload.deriveOperationalFields.decide uuid) :=
  payload.deriveOperationalFields.tierRouted_of_reaches uuid hband
    ⟨hreversal, hcompliance, hevidence, fun _ => hexplanation, hpending⟩

/-- A score of tier `low`, and the defaults for the rest. -/
def lowScore : DecisionPayload where
  transactionId := ⟨"pay-3", by decide⟩
  riskScore := ⟨17, by decide⟩

theorem decide_tierRouted_lowScore :
    TierRouted lowScore.deriveOperationalFields (lowScore.deriveOperationalFields.decide "") :=
  decide_tierRouted "" lowScore rfl rfl rfl rfl rfl rfl

end VeriPay.DecisionEngine
