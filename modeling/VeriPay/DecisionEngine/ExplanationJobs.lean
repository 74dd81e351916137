import VeriPay.DecisionEngine.Service

/-!
Explanation jobs. The job id is drawn before the first branch and handed on branch by
branch: the exits on a failed or escalated verification drop it.
-/

namespace VeriPay.DecisionEngine

open Lib Common

namespace DecisionRequest

/-- A fast-path request decided before its explanation is there. -/
def OwesExplanation (request : DecisionRequest) : Prop :=
  request.derivedPath = .fast ∧ request.explanationAvailable = false

instance (request : DecisionRequest) : Decidable request.OwesExplanation :=
  inferInstanceAs (Decidable (_ ∧ _))

/-- The verification ended without an approval, and no control before it settles the request. -/
def verificationFailed (request : DecisionRequest) : Bool :=
  !request.isReversal && !request.complianceBlocked && request.evidenceAvailable &&
    match request.verificationOutcome with
    | .pending | .approved => false
    | .denied | .timedOut | .expired | .locked | .escalated => true

def explanationJob (uuid : String) (request : DecisionRequest) : Option String :=
  if request.derivedPath = .fast ∧ !request.explanationAvailable then
    some ("explain_" ++ uuid) else none

theorem explanationJob_isSome_iff (uuid : String) (request : DecisionRequest) :
    (request.explanationJob uuid).isSome ↔ request.OwesExplanation := by
  unfold explanationJob OwesExplanation
  split_ifs with howes
  · simpa using howes
  · simpa using howes

/-- Every exit hands the drawn job on, except those on a failed or escalated verification;
the exit of the secondary path drops nothing, since there none was drawn. -/
theorem explanationJobId_decide (uuid : String) (request : DecisionRequest) :
    (request.decide uuid).explanationJobId =
      if request.verificationFailed then none else request.explanationJob uuid := by
  unfold decide verificationFailed explanationJob
  cases request.isReversal <;> cases request.complianceBlocked <;>
    cases request.evidenceAvailable <;> cases request.explanationAvailable <;>
    cases request.derivedPath <;> cases request.verificationOutcome <;> rfl

/-- A response carries a job exactly for a fast-path decision made without an explanation. -/
def JobIffOwed (uuid : String) (request : DecisionRequest) : Prop :=
  (request.decide uuid).explanationJobId.isSome ↔ request.OwesExplanation

/-- The job is there when it is owed, and only then, unless a failed or escalated
verification settles a request that owes one. -/
theorem jobIffOwed_iff (uuid : String) (request : DecisionRequest) :
    request.JobIffOwed uuid ↔
      ¬ (request.OwesExplanation ∧ request.verificationFailed = true) := by
  unfold JobIffOwed
  rw [explanationJobId_decide]
  by_cases hfailed : request.verificationFailed = true
  · rw [if_pos hfailed]
    constructor
    · intro h howes
      exact absurd (h.mpr howes.1) (by decide)
    · intro h
      exact iff_of_false (by decide) fun howes => h ⟨howes, hfailed⟩
  · rw [if_neg hfailed, explanationJob_isSome_iff]
    exact iff_of_true Iff.rfl fun h => hfailed h.2

/-- A denied card payment whose explanation is still missing. -/
def deniedUnexplained : DecisionPayload where
  transactionId := ⟨"pay-4", by decide⟩
  riskScore := ⟨40, by decide⟩
  paymentRail := some .card
  verificationOutcome := .denied
  explanationAvailable := false

theorem not_jobIffOwed_denied :
    ¬ ∀ (uuid : String) (payload : DecisionPayload),
      payload.deriveOperationalFields.JobIffOwed uuid := by
  intro h
  have howes : deniedUnexplained.deriveOperationalFields.OwesExplanation := by decide
  have hjob := (h "" deniedUnexplained).mpr howes
  exact absurd hjob (by decide)

end DecisionRequest

end VeriPay.DecisionEngine
