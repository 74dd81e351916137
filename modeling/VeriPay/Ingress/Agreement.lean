import VeriPay.DecisionEngine.DefaultCosts
import VeriPay.DecisionEngine.TierRouting
import VeriPay.Ingress.Service

/-!
Ingress and the decision engine. The baseline score stays below tier `high`, and there the default
costs leave the engine one choice for each tier. The authorization of a transaction is then the
engine's decision on the same score: on the same rail, or on the band where no rail is named.
-/

namespace VeriPay.DecisionEngine.DecisionRequest

open Lib Common

/-- What the default costs select below tier `high`. -/
def defaultAction : RiskTier → DecisionAction
  | .noRisk => .allow
  | _ => .challenge

theorem defaultAction_ne_review (tier : RiskTier) : defaultAction tier ≠ .review := by
  cases tier <;> decide

variable (request : DecisionRequest)

/-- `decide` with its explanation fields, where no hard control returns. -/
theorem decide_eq_costResponse (uuid : String) (h : request.ReachesCostBranch) :
    request.decide uuid = request.costResponse
      (if request.derivedPath = .fast then .async else .inBand)
      (if request.derivedPath = .fast ∧ !request.explanationAvailable then
        some ("explain_" ++ uuid) else none) := by
  obtain ⟨hreversal, hcompliance, hevidence, hexplanation, hpending⟩ := h
  have hinBand : ¬ (request.derivedPath = .secondary ∧ !request.explanationAvailable) := by
    rintro ⟨hsecondary, hunavailable⟩
    rw [hexplanation hsecondary] at hunavailable
    cases hunavailable
  unfold decide
  rw [if_neg (by rw [hreversal]; decide), if_neg (by rw [hcompliance]; decide),
    if_neg (by rw [hevidence]; decide), if_neg hinBand, hpending]

theorem defaults_challenge_lt_decline {probability : ℚ} (h : probability ≤ 1 / 2) :
    expectedCost .challenge probability .defaults <
      expectedCost .decline probability .defaults := by
  simp only [expectedCost, CostModel.defaults]
  linarith

/-- The candidates alone decide which is cheapest. -/
theorem cheapest_congr {request other : DecisionRequest}
    (h : request.candidates = other.candidates) : request.cheapest = other.cheapest := by
  have hargmin := request.argmin_candidates
  rw [h, other.argmin_candidates] at hargmin
  exact (Option.some.inj hargmin).symm

variable {request}

/-- Below tier `high` the tier alone decides, at the default costs. -/
theorem selected_of_defaults (hmode : request.matrixMode = true)
    (hcost : request.costModel = .defaults)
    (htier : request.riskTier = classifyScore (request.riskScore.val : ℚ))
    (hscore : (request.riskScore.val : ℚ) ≤ 50) :
    request.selected.action = defaultAction request.riskTier := by
  have hcosts : ∀ action, request.costOf action =
      expectedCost action ((request.riskScore.val : ℚ) / 100) .defaults := by
    intro action
    rw [costOf, probability, hcost]
  have hactions := request.actions_of_matrixMode hmode
  have hprobability : (0 : ℚ) ≤ (request.riskScore.val : ℚ) / 100 :=
    div_nonneg (Nat.cast_nonneg _) (Nat.cast_nonneg 100)
  by_cases hnone : (request.riskScore.val : ℚ) ≤ 5
  · rw [classifyScore, if_pos hnone] at htier
    rw [htier] at hactions
    rw [request.selected_of_not_low (by rw [htier]; decide), htier]
    refine request.cheapest_head .allow [.monitor] hactions ?_
    intro action haction
    rw [List.mem_singleton.mp haction, hcosts, hcosts]
    exact defaults_allow_le_monitor (by linarith)
  · by_cases hlow : (request.riskScore.val : ℚ) ≤ 25
    · rw [classifyScore, if_neg hnone, if_pos hlow] at htier
      rw [htier] at hactions
      by_cases hfriction : request.FrictionApplies
      · rw [request.selected_of_friction hfriction, htier]
        rfl
      · -- Without friction the cheapest of the three is neither ALLOW nor DECLINE.
        have hpermitted := request.cheapest_permitted hfriction
        have hle := request.cheapest_le .challenge (by rw [hactions]; decide)
        rw [request.permittedActions_low hmode htier] at hpermitted
        rw [request.selected_of_not_friction hfriction, htier]
        rcases List.mem_cons.mp hpermitted with hchallenge | hrest
        · exact hchallenge
        · rw [List.mem_singleton.mp hrest, hcosts, hcosts] at hle
          exact absurd hle (not_le.mpr (defaults_challenge_lt_decline (by linarith)))
    · rw [classifyScore, if_neg hnone, if_neg hlow, if_pos hscore] at htier
      rw [htier] at hactions
      rw [request.selected_of_not_low (by rw [htier]; decide), htier]
      refine request.cheapest_head .challenge [.review, .decline] hactions ?_
      intro action haction
      rw [hcosts, hcosts]
      rcases List.mem_cons.mp haction with rfl | hrest
      · exact (defaults_challenge_lt_review hprobability).le
      · rw [List.mem_singleton.mp hrest]
        exact (defaults_challenge_lt_decline (by linarith)).le

end VeriPay.DecisionEngine.DecisionRequest

namespace VeriPay.Ingress

open Lib Common DecisionEngine

/-- A transaction as it would be put to the decision engine on its rail. On the fast path the
explanation is still to come. -/
def railPayload (transaction : Transaction) (rail : PaymentRail) : DecisionPayload where
  transactionId := transaction.transactionId
  riskScore := baselineScore transaction
  paymentRail := some rail
  processingPath := transaction.processingPath
  explanationAvailable := transaction.processingPath.getD (processingPathForRail rail) = .secondary

/-- The same by a client that sends the band only. -/
def bandPayload (transaction : Transaction) : DecisionPayload where
  transactionId := transaction.transactionId
  riskScore := baselineScore transaction
  riskBand := some (calculateRisk transaction).band

/-- The engine's decision as an authorization, with the challenge and the reason that go with an
action other than ALLOW. -/
def ofDecision (challengeUuid reasonCode : String) (response : DecisionResponse) :
    AuthorizationResponse where
  transactionId := response.transactionId.val
  decision := response.action
  riskScore := response.riskScore
  reasonCode := if response.action = .allow then "BASELINE_APPROVED" else reasonCode
  challengeId := if response.action = .allow then none else some ("challenge_" ++ challengeUuid)
  riskTier := some response.riskTier
  friction := some response.friction
  workflow := some response.workflow
  verificationTimeoutSeconds := response.timeoutSeconds
  processingPath := some response.processingPath
  explanationMode := some response.explanationMode
  explanationJobId := response.explanationJobId
  escalationRequired := response.escalationRequired

/-- The authorization with what another tier's policy says of it. -/
def AuthorizationResponse.atTier (response : AuthorizationResponse) (tier : RiskTier) :
    AuthorizationResponse :=
  { response with
    riskTier := some tier
    friction := some (policyForTier tier).friction
    workflow := some (policyForTier tier).workflow
    verificationTimeoutSeconds := (policyForTier tier).timeoutSeconds }

section Agreement

variable (transaction : Transaction)

theorem baselineScore_le : ((baselineScore transaction).val : ℚ) ≤ 45 := by
  have hamount : (amountRisk transaction.amountMinor).1 ≤ 35 := by
    unfold amountRisk
    split_ifs <;> decide
  have hchannel : (channelRisk transaction.channel).1 ≤ 10 := by
    cases transaction.channel <;> decide
  have hscore : (baselineScore transaction).val ≤ 45 :=
    (Nat.min_le_left _ _).trans (Nat.add_le_add hamount hchannel)
  exact_mod_cast hscore

theorem baselineTier_ne_high : baselineTier transaction ≠ .high := by
  have h := baselineScore_le transaction
  unfold baselineTier classifyScore
  split_ifs <;> first | decide | (exfalso; linarith)

theorem railPayload_derivedPath (rail : PaymentRail) :
    (railPayload transaction rail).deriveOperationalFields.derivedPath =
      transaction.processingPath.getD (processingPathForRail rail) := by
  unfold railPayload DecisionPayload.deriveOperationalFields DecisionRequest.derivedPath
  cases transaction.processingPath <;> rfl

theorem decide_railPayload (uuid : String) (rail : PaymentRail) :
    let request := (railPayload transaction rail).deriveOperationalFields
    request.decide uuid = request.costResponse
        (if request.derivedPath = .fast then .async else .inBand)
        (if request.derivedPath = .fast then some ("explain_" ++ uuid) else none) ∧
      request.selected.action = DecisionRequest.defaultAction (baselineTier transaction) := by
  intro request
  have havailable : request.explanationAvailable = true ↔ request.derivedPath = .secondary := by
    rw [railPayload_derivedPath]
    exact decide_eq_true_iff
  have hreaches : request.ReachesCostBranch := ⟨rfl, rfl, rfl, havailable.mpr, rfl⟩
  have hjob : request.derivedPath = .fast ∧ (!request.explanationAvailable) = true ↔
      request.derivedPath = .fast := by
    refine and_iff_left_of_imp ?_
    intro hfast
    rw [Bool.not_eq_true', ← Bool.not_eq_true, havailable, hfast]
    decide
  refine ⟨?_, ?_⟩
  · rw [request.decide_eq_costResponse uuid hreaches]
    simp only [hjob]
  · have hscore := baselineScore_le transaction
    refine DecisionRequest.selected_of_defaults rfl rfl rfl ?_
    show ((baselineScore transaction).val : ℚ) ≤ 50
    linarith

theorem railOutcome_eq (challengeUuid : String) (tier : RiskTier) (h : tier ≠ .high) :
    railOutcome challengeUuid tier =
      (DecisionRequest.defaultAction tier,
        if DecisionRequest.defaultAction tier = .allow then "BASELINE_APPROVED"
        else "RISK_TIER_VERIFICATION_REQUIRED",
        if DecisionRequest.defaultAction tier = .allow then none
        else some ("challenge_" ++ challengeUuid)) := by
  cases tier with
  | high => exact absurd rfl h
  | _ => rfl

theorem railAuthorize_eq (challengeUuid explainUuid : String) (rail : PaymentRail) :
    railAuthorize challengeUuid explainUuid transaction (calculateRisk transaction) rail =
      ofDecision challengeUuid "RISK_TIER_VERIFICATION_REQUIRED"
        ((railPayload transaction rail).deriveOperationalFields.decide explainUuid) := by
  obtain ⟨hdecide, haction⟩ := decide_railPayload transaction explainUuid rail
  have houtcome := railOutcome_eq challengeUuid _ (baselineTier_ne_high transaction)
  have hpath := railPayload_derivedPath transaction rail
  rw [hdecide]
  unfold railAuthorize ofDecision DecisionRequest.costResponse
  rw [haction, hpath]
  have htier : (calculateRisk transaction).tier = baselineTier transaction := rfl
  simp only [htier, houtcome]
  rw [AuthorizationResponse.mk.injEq]
  refine ⟨rfl, rfl, rfl, rfl, rfl, rfl, rfl, rfl, rfl, rfl, rfl, rfl, ?_⟩
  rw [decide_eq_false (baselineTier_ne_high transaction),
    decide_eq_false (DecisionRequest.defaultAction_ne_review _), Bool.and_false]

/-- A band alone gets what the pipeline gets, which sends the tier with it. -/
theorem cheapest_bandPayload :
    (bandPayload transaction).deriveOperationalFields.cheapest.action =
      actionForTier (baselineTier transaction) := by
  have hband := DecisionRequest.actions_of_projected_band
    (bandPayload transaction).deriveOperationalFields
    (congrArg some (bandForTier_tierFromBand _).symm)
  have hpipeline := pipelineRequest_actions transaction.transactionId (baselineScore transaction)
    .card
  have hactions : (bandPayload transaction).deriveOperationalFields.actions =
      (pipelineRequest transaction.transactionId (baselineScore transaction) .card).actions := by
    have htier : (bandPayload transaction).deriveOperationalFields.riskTier =
        tierFromBand (bandForTier (baselineTier transaction)) := rfl
    have hbaseline : classifyScore ((baselineScore transaction).val : ℚ) =
        baselineTier transaction := rfl
    rw [hband, hpipeline, htier, hbaseline]
    cases baselineTier transaction <;> rfl
  rw [baselineTier, ← cheapest_pipeline transaction.transactionId (baselineScore transaction) .card]
  refine congrArg DecisionCandidate.action (DecisionRequest.cheapest_congr ?_)
  unfold DecisionRequest.candidates
  rw [hactions]
  rfl

theorem decide_bandPayload (uuid : String) :
    let request := (bandPayload transaction).deriveOperationalFields
    request.decide uuid = request.costResponse .async none ∧
      request.selected.action = actionForTier (baselineTier transaction) := by
  intro request
  have hreaches : request.ReachesCostBranch := ⟨rfl, rfl, rfl, fun _ => rfl, rfl⟩
  have hmode : request.matrixMode = false :=
    decide_eq_false (not_not.mpr (rfl : request.riskTier = tierFromBand _))
  refine ⟨request.decide_eq_costResponse uuid hreaches, ?_⟩
  rw [request.selected_of_legacy hmode]
  exact cheapest_bandPayload transaction

theorem legacyOutcome_eq (challengeUuid : String) (tier : RiskTier) (h : tier ≠ .high) :
    legacyOutcome challengeUuid (bandForTier tier) =
      (actionForTier tier,
        if actionForTier tier = .allow then "BASELINE_APPROVED" else "RISK_THRESHOLD",
        if actionForTier tier = .allow then none else some ("challenge_" ++ challengeUuid)) := by
  cases tier with
  | high => exact absurd rfl h
  | _ => rfl

theorem legacyAuthorize_eq (challengeUuid explainUuid : String) :
    legacyAuthorize challengeUuid transaction (calculateRisk transaction) =
      (ofDecision challengeUuid "RISK_THRESHOLD"
        ((bandPayload transaction).deriveOperationalFields.decide explainUuid)).atTier
        (baselineTier transaction) := by
  obtain ⟨hdecide, haction⟩ := decide_bandPayload transaction explainUuid
  have houtcome := legacyOutcome_eq challengeUuid _ (baselineTier_ne_high transaction)
  have hband : (calculateRisk transaction).band = bandForTier (baselineTier transaction) := rfl
  have hreview : actionForTier (baselineTier transaction) ≠ .review := by
    cases baselineTier transaction <;> decide
  rw [hdecide]
  unfold legacyAuthorize ofDecision DecisionRequest.costResponse AuthorizationResponse.atTier
  simp only [hband, houtcome, haction]
  rw [AuthorizationResponse.mk.injEq]
  refine ⟨rfl, rfl, rfl, rfl, rfl, rfl, rfl, rfl, rfl, rfl, rfl, rfl, ?_⟩
  rw [decide_eq_false hreview, Bool.and_false]

/-- An authorization is the decision of the engine on the same score, at its default costs: on the
rail of the transaction, or else on the band, at the tier of the score. -/
theorem authorize_eq_decide (challengeUuid explainUuid : String) :
    authorize challengeUuid explainUuid transaction =
      match transaction.paymentRail with
      | some rail =>
        ofDecision challengeUuid "RISK_TIER_VERIFICATION_REQUIRED"
          ((railPayload transaction rail).deriveOperationalFields.decide explainUuid)
      | none =>
        (ofDecision challengeUuid "RISK_THRESHOLD"
          ((bandPayload transaction).deriveOperationalFields.decide explainUuid)).atTier
          (baselineTier transaction) := by
  unfold authorize
  cases transaction.paymentRail with
  | some rail => exact railAuthorize_eq transaction challengeUuid explainUuid rail
  | none => exact legacyAuthorize_eq transaction challengeUuid explainUuid

end Agreement

end VeriPay.Ingress
