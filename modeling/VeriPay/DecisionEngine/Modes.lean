import VeriPay.DecisionEngine.Verdict

/-!
Matrix mode and legacy-band mode. The mode is read off a comparison of the band
with the tier after the validator has filled the tier in, so a client that sends
its tier together with the matching band is taken for a band-only client.
-/

namespace VeriPay.DecisionEngine

open Lib Common

namespace DecisionPayload

/-- The same submission with an explicit tier, and a band or none. -/
def explicitTier (payload : DecisionPayload) (tier : RiskTier) (band : Option RiskBand) :
    DecisionPayload :=
  { payload with riskTier := some tier, riskBand := band }

/-- A submission is settled by a hard control, whatever band it carries. -/
def HardControlled (payload : DecisionPayload) (tier : RiskTier) : Prop :=
  ¬ (payload.explicitTier tier none).deriveOperationalFields.ReachesCostBranch

/-- With the tier explicit, sending a band changes nothing in the verdict. -/
def BandIrrelevant (payload : DecisionPayload) (tier : RiskTier) : Prop :=
  ∀ (band : RiskBand) (uuid uuid' : String),
    ((payload.explicitTier tier (some band)).deriveOperationalFields.decide uuid).verdict =
      ((payload.explicitTier tier none).deriveOperationalFields.decide uuid').verdict

theorem hardControl_explicitTier (payload : DecisionPayload) (tier : RiskTier)
    (band : Option RiskBand) :
    (payload.explicitTier tier band).deriveOperationalFields.hardControl =
      (payload.explicitTier tier none).deriveOperationalFields.hardControl := rfl

theorem matrixMode_explicitTier_none (payload : DecisionPayload) (tier : RiskTier) :
    (payload.explicitTier tier none).deriveOperationalFields.matrixMode = true := rfl

theorem matrixMode_explicitTier_some (payload : DecisionPayload) (tier : RiskTier)
    (band : RiskBand) :
    (payload.explicitTier tier (some band)).deriveOperationalFields.matrixMode =
      (tierFromBand band ≠ tier : Bool) := by
  change (tier ≠ tierFromBand band : Bool) = _
  cases tier <;> cases band <;> rfl

end DecisionPayload

/-- The legacy set of a band is never the action matrix of the band's tier. -/
theorem candidateActions_ne_allowedActions (band : RiskBand) :
    candidateActions band ≠ allowedActionsForTier (tierFromBand band) := by
  cases band <;> decide

theorem DecisionRequest.candidates_actions (request : DecisionRequest) :
    request.candidates.map DecisionCandidate.action = request.actions := by
  simp [DecisionRequest.candidates, Function.comp_def]

theorem DecisionPayload.actions_explicitTier_none (payload : DecisionPayload) (tier : RiskTier) :
    (payload.explicitTier tier none).deriveOperationalFields.actions =
      allowedActionsForTier tier := rfl

/-- A tier sent with its own band gets the legacy set. -/
theorem DecisionPayload.actions_matching_band (payload : DecisionPayload) (band : RiskBand) :
    (payload.explicitTier (tierFromBand band) (some band)).deriveOperationalFields.actions =
      candidateActions band := by
  have hmode := payload.matrixMode_explicitTier_some (tierFromBand band) band
  simp only [ne_eq, not_true_eq_false, decide_false] at hmode
  simp only [DecisionRequest.actions, hmode]
  rfl

/-- Two requests that differ in the band alone, both in matrix mode. -/
theorem costVerdict_of_matrixMode (payload : DecisionPayload) (tier : RiskTier) (band : RiskBand)
    (h : tierFromBand band ≠ tier) :
    (payload.explicitTier tier (some band)).deriveOperationalFields.costVerdict =
      (payload.explicitTier tier none).deriveOperationalFields.costVerdict := by
  have hmode : (payload.explicitTier tier (some band)).deriveOperationalFields.matrixMode =
      (payload.explicitTier tier none).deriveOperationalFields.matrixMode := by
    rw [payload.matrixMode_explicitTier_some, payload.matrixMode_explicitTier_none]
    simpa using h
  have hactions : (payload.explicitTier tier (some band)).deriveOperationalFields.actions =
      (payload.explicitTier tier none).deriveOperationalFields.actions := by
    simp only [DecisionRequest.actions, hmode]
    rfl
  have hcandidates : (payload.explicitTier tier (some band)).deriveOperationalFields.candidates =
      (payload.explicitTier tier none).deriveOperationalFields.candidates := by
    simp only [DecisionRequest.candidates, hactions]
    rfl
  have hcheapest : (payload.explicitTier tier (some band)).deriveOperationalFields.cheapest =
      (payload.explicitTier tier none).deriveOperationalFields.cheapest := by
    simp only [DecisionRequest.cheapest, hcandidates]
  have hselected : (payload.explicitTier tier (some band)).deriveOperationalFields.selected =
      (payload.explicitTier tier none).deriveOperationalFields.selected := by
    simp only [DecisionRequest.selected, hmode, hcandidates, hcheapest]
    rfl
  simp only [DecisionRequest.costVerdict, DecisionRequest.costReason, hmode, hcandidates,
    hselected]
  rfl

/-- For one band: the verdict is unchanged exactly under a hard control or when
the band is not the projection of the tier. -/
theorem verdict_band_iff (payload : DecisionPayload) (tier : RiskTier) (band : RiskBand)
    (uuid uuid' : String) :
    ((payload.explicitTier tier (some band)).deriveOperationalFields.decide uuid).verdict =
        ((payload.explicitTier tier none).deriveOperationalFields.decide uuid').verdict ↔
      payload.HardControlled tier ∨ tierFromBand band ≠ tier := by
  unfold DecisionPayload.HardControlled
  rw [← DecisionRequest.hardControl_eq_none_iff, DecisionRequest.verdict_decide,
    DecisionRequest.verdict_decide, payload.hardControl_explicitTier tier (some band)]
  cases hcontrol : (payload.explicitTier tier none).deriveOperationalFields.hardControl with
  | some control =>
    simp only [reduceCtorEq, not_false_eq_true, true_or, iff_true]
    rfl
  | none =>
    simp only [not_true_eq_false, false_or]
    constructor
    · rintro hverdict rfl
      -- the two candidate lists name different actions
      have hactions := congrArg
        (fun verdict => verdict.candidates.map DecisionCandidate.action) hverdict
      simp only [DecisionRequest.costVerdict, DecisionRequest.candidates_actions,
        payload.actions_matching_band, payload.actions_explicitTier_none] at hactions
      exact candidateActions_ne_allowedActions band hactions
    · exact costVerdict_of_matrixMode payload tier band

/-- Sending a band beside an explicit tier is harmless exactly when a hard
control decides the request or the tier is `noRisk`, to which no band projects. -/
theorem bandIrrelevant_iff (payload : DecisionPayload) (tier : RiskTier) :
    payload.BandIrrelevant tier ↔ payload.HardControlled tier ∨ tier = .noRisk := by
  constructor
  · intro hirrelevant
    by_cases htier : tier = .noRisk
    · exact Or.inr htier
    · have hmatch := (verdict_band_iff payload tier (bandForTier tier) "" "").mp
        (hirrelevant (bandForTier tier) "" "")
      rcases hmatch with hhard | hne
      · exact Or.inl hhard
      · exact absurd ((tierFromBand_bandForTier_iff tier).mpr htier) hne
  · rintro (hhard | rfl) band uuid uuid'
    · exact (verdict_band_iff payload tier band uuid uuid').mpr (Or.inl hhard)
    · exact (verdict_band_iff payload .noRisk band uuid uuid').mpr
        (Or.inr (tierFromBand_ne_noRisk band))

/-- A request scored 60, every other field at its default. -/
def highPayload : DecisionPayload where
  transactionId := ⟨"pay-1", by decide⟩
  riskScore := ⟨60, by decide⟩

/-- At tier `high`, sent with and without the band of its own tier. -/
theorem not_bandIrrelevant_high : ¬ highPayload.BandIrrelevant .high := by
  intro h
  have hcandidates := congrArg (fun verdict => verdict.candidates.length) (h .block "" "")
  exact absurd hcandidates (by decide)

end VeriPay.DecisionEngine
