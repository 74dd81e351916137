import VeriPay.DecisionEngine.Selection
import VeriPay.DecisionEngine.Modes

/-!
What the hard-control flags guarantee. REVERSE is both the forced answer to a
reversal request and a priced candidate of tier `high`; the mandatory-challenge
flag is carried by the request and read by nothing.
-/

namespace VeriPay.DecisionEngine

open Lib Common

namespace DecisionRequest

theorem action_of_hardControl (uuid : String) (request : DecisionRequest)
    (control : DecisionAction × DecisionReason) (h : request.hardControl = some control) :
    (request.decide uuid).action = control.1 :=
  congrArg Verdict.action (request.verdict_of_hardControl uuid control h)

theorem action_of_reaches (uuid : String) (request : DecisionRequest)
    (h : request.ReachesCostBranch) :
    (request.decide uuid).action = request.selected.action :=
  congrArg Verdict.action (request.verdict_of_reaches uuid h)

/-- Only a reversal request forces a REVERSE. -/
theorem hardControl_reverse (request : DecisionRequest) (hreversal : request.isReversal = false)
    (control : DecisionAction × DecisionReason) (h : request.hardControl = some control) :
    control.1 ≠ .reverse := by
  unfold hardControl at h
  simp only [hreversal, Bool.false_eq_true, if_false] at h
  split_ifs at h
  case pos | pos | pos =>
    cases h
    decide
  all_goals
    cases houtcome : request.verificationOutcome <;> simp only [houtcome, reduceCtorEq,
      Option.some.injEq] at h <;> rw [← h] <;> decide

/-- On a pending request a hard control answers DECLINE or REVIEW, or REVERSE on
a reversal. -/
theorem hardControl_pending (request : DecisionRequest)
    (hpending : request.verificationOutcome = .pending)
    (control : DecisionAction × DecisionReason) (h : request.hardControl = some control) :
    control.1 ≠ .allow ∧ control.1 ≠ .monitor := by
  unfold hardControl at h
  rw [hpending] at h
  split_ifs at h <;> cases h <;> decide

/-- REVERSE is the last candidate of the `high` matrix and in no other list, so
it is chosen exactly when it undercuts both others strictly. -/
theorem selected_reverse_iff (request : DecisionRequest) :
    request.selected.action = .reverse ↔
      request.matrixMode = true ∧ request.riskTier = .high ∧
        request.costOf .reverse < request.costOf .review ∧
        request.costOf .reverse < request.costOf .decline := by
  by_cases hhigh : request.matrixMode = true ∧ request.riskTier = .high
  · obtain ⟨hmode, htier⟩ := hhigh
    have hactions : request.actions = [.review, .decline, .reverse] := by
      rw [request.actions_of_matrixMode hmode, htier]
      rfl
    rw [request.selected_of_not_low (by rw [htier]; decide)]
    simp only [hmode, htier, true_and]
    constructor
    · intro hreverse
      have hlt := request.cheapest_lt_before [.review, .decline] [.reverse] hactions
        (by rw [hreverse]; decide)
      rw [hreverse] at hlt
      exact ⟨hlt .review (by simp), hlt .decline (by simp)⟩
    · intro h
      obtain ⟨hreview, hdecline⟩ := h
      have hmem := request.cheapest_action_mem
      have hle := request.cheapest_le .reverse (by rw [hactions]; simp)
      rw [hactions] at hmem
      simp only [List.mem_cons, List.not_mem_nil, or_false] at hmem
      rcases hmem with hcheapest | hcheapest | hcheapest
      · rw [hcheapest] at hle
        exact absurd hle (not_le.mpr hreview)
      · rw [hcheapest] at hle
        exact absurd hle (not_le.mpr hdecline)
      · exact hcheapest
  · constructor
    · intro hreverse
      have hnotFriction : ¬ request.FrictionApplies := by
        intro hfriction
        rw [request.selected_of_friction hfriction] at hreverse
        cases hreverse
      rw [request.selected_of_not_friction hnotFriction] at hreverse
      have hmem := request.cheapest_action_mem
      rw [hreverse] at hmem
      cases hmode : request.matrixMode with
      | true =>
        rw [request.actions_of_matrixMode hmode] at hmem
        cases htier : request.riskTier with
        | high => exact absurd ⟨hmode, htier⟩ hhigh
        | noRisk => simp [htier, allowedActionsForTier] at hmem
        | low => simp [htier, allowedActionsForTier] at hmem
        | moderate => simp [htier, allowedActionsForTier] at hmem
      | false =>
        obtain ⟨band, -, -, hactions⟩ := request.exists_band_of_not_matrixMode hmode
        rw [hactions] at hmem
        cases band <;> simp [candidateActions] at hmem
    · intro h
      obtain ⟨hmode, htier, -⟩ := h
      exact absurd ⟨hmode, htier⟩ hhigh

/-- Without a reversal request REVERSE is returned only by the cost branch, at
tier `high` in matrix mode, when it is strictly the cheapest candidate. -/
theorem decide_reverse_iff (uuid : String) (request : DecisionRequest)
    (h : request.isReversal = false) :
    (request.decide uuid).action = .reverse ↔
      request.ReachesCostBranch ∧ request.matrixMode = true ∧ request.riskTier = .high ∧
        request.costOf .reverse < request.costOf .review ∧
        request.costOf .reverse < request.costOf .decline := by
  by_cases hreaches : request.ReachesCostBranch
  · rw [request.action_of_reaches uuid hreaches, request.selected_reverse_iff]
    simp only [hreaches, true_and]
  · have hsome : request.hardControl ≠ none :=
      fun hnone => hreaches (request.hardControl_eq_none_iff.mp hnone)
    obtain ⟨control, hcontrol⟩ := Option.ne_none_iff_exists'.mp hsome
    rw [request.action_of_hardControl uuid control hcontrol]
    simp only [hreaches, false_and, iff_false]
    exact request.hardControl_reverse h control hcontrol

/-- A request at tier `high` with the default costs and no flag set. -/
def plainHigh : DecisionRequest where
  transactionId := highPayload.transactionId
  riskScore := highPayload.riskScore
  riskBand := none
  riskTier := .high
  paymentRail := none
  processingPath := none
  verificationOutcome := .pending
  isReversal := false
  complianceBlocked := false
  mandatoryChallenge := false
  evidenceAvailable := true
  explanationAvailable := true
  costModel := .defaults

theorem plainHigh_reverse_cheapest :
    plainHigh.costOf .reverse < plainHigh.costOf .review ∧
      plainHigh.costOf .reverse < plainHigh.costOf .decline := by
  norm_num [costOf, expectedCost, probability, plainHigh, highPayload, CostModel.defaults]

theorem not_reverse_only_on_reversal :
    ¬ ∀ (uuid : String) (request : DecisionRequest), request.isReversal = false →
      (request.decide uuid).action ≠ .reverse := by
  intro hnever
  apply hnever "" plainHigh rfl
  rw [plainHigh.action_of_reaches "" (by decide), plainHigh.selected_reverse_iff]
  exact ⟨rfl, rfl, plainHigh_reverse_cheapest⟩

theorem decide_reverse_plainHigh : (plainHigh.decide "").action = .reverse :=
  (decide_reverse_iff "" plainHigh rfl).mpr
    ⟨by decide, rfl, rfl, plainHigh_reverse_cheapest⟩

/-- Where the cost branch itself keeps away from ALLOW and MONITOR: matrix mode
above `noRisk`, the BLOCK band, and a VERIFY band at which monitoring is dearer
than challenging or reviewing. -/
def AvoidsSilentActions (request : DecisionRequest) : Prop :=
  (request.matrixMode = true ∧ request.riskTier ≠ .noRisk) ∨
    (request.matrixMode = false ∧ request.riskBand = some .block) ∨
    (request.matrixMode = false ∧ request.riskBand = some .verify ∧
      (request.costOf .challenge < request.costOf .monitor ∨
        request.costOf .review < request.costOf .monitor))

theorem selected_verify_band (request : DecisionRequest) (hmode : request.matrixMode = false)
    (hactions : request.actions = [.monitor, .challenge, .review]) :
    (request.selected.action ≠ .allow ∧ request.selected.action ≠ .monitor) ↔
      request.costOf .challenge < request.costOf .monitor ∨
        request.costOf .review < request.costOf .monitor := by
  rw [request.selected_of_legacy hmode]
  have hmem := request.cheapest_action_mem
  rw [hactions] at hmem
  constructor
  · intro h
    obtain ⟨-, hmonitor⟩ := h
    have hlt := request.cheapest_lt_before [.monitor] [.challenge, .review] hactions
      (by simpa using hmonitor) .monitor (by simp)
    simp only [List.mem_cons, List.not_mem_nil, or_false, hmonitor, false_or] at hmem
    rcases hmem with hchallenge | hreview
    · exact Or.inl (by rwa [hchallenge] at hlt)
    · exact Or.inr (by rwa [hreview] at hlt)
  · intro hcheaper
    constructor
    · intro hallow
      rw [hallow] at hmem
      simp at hmem
    · intro hmonitor
      have hle := request.cheapest_le
      rw [hmonitor, hactions] at hle
      rcases hcheaper with hchallenge | hreview
      · exact absurd (hle .challenge (by simp)) (not_le.mpr hchallenge)
      · exact absurd (hle .review (by simp)) (not_le.mpr hreview)

theorem selected_avoids_iff (request : DecisionRequest) :
    (request.selected.action ≠ .allow ∧ request.selected.action ≠ .monitor) ↔
      request.AvoidsSilentActions := by
  unfold AvoidsSilentActions
  cases hmode : request.matrixMode with
  | true =>
    simp only [true_and, Bool.true_eq_false, false_and, or_false]
    have hactions := request.actions_of_matrixMode hmode
    have hpermitted : request.selected.action ∈ request.permittedActions := by
      by_cases hfriction : request.FrictionApplies
      · rw [request.selected_of_friction hfriction,
          request.permittedActions_low hfriction.1 hfriction.2.1]
        simp
      · rw [request.selected_of_not_friction hfriction]
        exact request.cheapest_permitted hfriction
    have hmem : request.selected.action ∈
        (allowedActionsForTier request.riskTier).filter
          (fun action => request.riskTier = .noRisk ∨ action ≠ .allow) := by
      by_cases htier : request.riskTier = .noRisk
      · simpa [permittedActions, hmode, htier, hactions] using hpermitted
      · simpa [permittedActions, hmode, htier, hactions] using hpermitted
    cases htier : request.riskTier <;>
      simp [htier, allowedActionsForTier] at hmem ⊢ <;> grind
  | false =>
    obtain ⟨band, hband, -, hactions⟩ := request.exists_band_of_not_matrixMode hmode
    simp only [Bool.false_eq_true, false_and, true_and, false_or, hband, Option.some.injEq]
    have hmem : request.selected.action ∈ candidateActions band := by
      rw [request.selected_of_legacy hmode, ← hactions]
      exact request.cheapest_action_mem
    cases band with
    | approve => simp [candidateActions] at hmem ⊢; grind
    | verify =>
      rw [request.selected_verify_band hmode hactions]
      simp
    | block => simp [candidateActions] at hmem ⊢; grind

/-- The flag is honoured exactly where a hard control decides the request, or
where the cost branch would have avoided both silent actions without the flag. -/
theorem mandatory_challenge_iff (uuid : String) (request : DecisionRequest)
    (_hmandatory : request.mandatoryChallenge = true) (_hreversal : request.isReversal = false)
    (hpending : request.verificationOutcome = .pending) :
    ((request.decide uuid).action ≠ .allow ∧ (request.decide uuid).action ≠ .monitor) ↔
      ¬ request.ReachesCostBranch ∨ request.AvoidsSilentActions := by
  by_cases hreaches : request.ReachesCostBranch
  · rw [request.action_of_reaches uuid hreaches, request.selected_avoids_iff]
    simp only [hreaches, not_true_eq_false, false_or]
  · have hsome : request.hardControl ≠ none :=
      fun hnone => hreaches (request.hardControl_eq_none_iff.mp hnone)
    obtain ⟨control, hcontrol⟩ := Option.ne_none_iff_exists'.mp hsome
    rw [request.action_of_hardControl uuid control hcontrol]
    simp only [hreaches, not_false_eq_true, true_or, iff_true]
    exact request.hardControl_pending hpending control hcontrol

/-- A mandatory challenge on a request of the lowest score. -/
def waivedChallenge : DecisionRequest :=
  { plainHigh with riskScore := ⟨0, by decide⟩, riskTier := .noRisk, mandatoryChallenge := true }

theorem not_mandatory_challenge_honoured :
    ¬ ∀ (uuid : String) (request : DecisionRequest), request.mandatoryChallenge = true →
      request.isReversal = false → request.verificationOutcome = .pending →
      (request.decide uuid).action ≠ .allow ∧ (request.decide uuid).action ≠ .monitor := by
  intro hnever
  have hwaived := hnever "" waivedChallenge rfl rfl rfl
  rw [waivedChallenge.action_of_reaches "" (by decide), waivedChallenge.selected_avoids_iff]
    at hwaived
  simp [AvoidsSilentActions, waivedChallenge, plainHigh, matrixMode] at hwaived

theorem mandatory_challenge_waived :
    ¬ ((waivedChallenge.decide "").action ≠ .allow ∧
      (waivedChallenge.decide "").action ≠ .monitor) := by
  rw [mandatory_challenge_iff "" waivedChallenge rfl rfl rfl]
  simp [AvoidsSilentActions, waivedChallenge, plainHigh, matrixMode, ReachesCostBranch,
    derivedPath]

end DecisionRequest

end VeriPay.DecisionEngine
