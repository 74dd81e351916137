import VeriPay.Lib.FirstMin
import VeriPay.DecisionEngine.Service

/-!
The verdict of `decide`: the action, its reason, its cost and the candidates.
A hard control settles it before any cost is compared; otherwise it is the
candidate of least cost, after the tier's friction. Everything a caller of
`decide` needs is stated here, so later modules never unfold its cascade.
-/

namespace VeriPay.DecisionEngine

open Lib Common

structure Verdict where
  action : DecisionAction
  reasonCode : DecisionReason
  expectedCostMinor : ℚ
  candidates : List DecisionCandidate
  deriving DecidableEq

def DecisionResponse.verdict (response : DecisionResponse) : Verdict where
  action := response.action
  reasonCode := response.reasonCode
  expectedCostMinor := response.expectedCostMinor
  candidates := response.candidates

namespace DecisionRequest

/-- The control that decides a request without comparing costs. -/
def hardControl (request : DecisionRequest) : Option (DecisionAction × DecisionReason) :=
  if request.isReversal then some (.reverse, .reversalRequest)
  else if request.complianceBlocked then some (.decline, .complianceBlock)
  else if !request.evidenceAvailable then some (.review, .evidenceUnavailable)
  else if request.derivedPath = .secondary ∧ !request.explanationAvailable then
    some (.review, .evidenceUnavailable)
  else
    match request.verificationOutcome with
    | .timedOut | .expired =>
      some (if request.riskTier = .high then .review else .decline, .verificationTimeout)
    | .denied | .locked =>
      some (if request.riskTier = .high then .review else .decline, .verificationDenied)
    | .escalated => some (.review, .verificationEscalated)
    | .approved => some (.allow, .verificationApproved)
    | .pending => none

def forcedVerdict (request : DecisionRequest) (control : DecisionAction × DecisionReason) :
    Verdict where
  action := control.1
  reasonCode := control.2
  expectedCostMinor := request.costOf control.1
  candidates := [{ action := control.1, expectedCostMinor := request.costOf control.1 }]

def costVerdict (request : DecisionRequest) : Verdict where
  action := request.selected.action
  reasonCode := request.costReason
  expectedCostMinor := request.selected.expectedCostMinor
  candidates := request.candidates

theorem hardControl_eq_none_iff (request : DecisionRequest) :
    request.hardControl = none ↔ request.ReachesCostBranch := by
  unfold hardControl ReachesCostBranch
  cases request.isReversal <;> cases request.complianceBlocked <;>
    cases request.evidenceAvailable <;> cases request.explanationAvailable <;>
    cases request.derivedPath <;> cases request.verificationOutcome <;> simp

/-- The one lemma about the cascade: which control fires fixes the verdict. -/
theorem verdict_decide (uuid : String) (request : DecisionRequest) :
    (request.decide uuid).verdict =
      match request.hardControl with
      | some control => request.forcedVerdict control
      | none => request.costVerdict := by
  unfold decide hardControl
  cases request.isReversal <;> cases request.complianceBlocked <;>
    cases request.evidenceAvailable <;> cases request.explanationAvailable <;>
    cases request.derivedPath <;> cases request.verificationOutcome <;> rfl

theorem verdict_of_hardControl (uuid : String) (request : DecisionRequest)
    (control : DecisionAction × DecisionReason) (h : request.hardControl = some control) :
    (request.decide uuid).verdict = request.forcedVerdict control := by
  rw [verdict_decide, h]

theorem verdict_of_reaches (uuid : String) (request : DecisionRequest)
    (h : request.ReachesCostBranch) :
    (request.decide uuid).verdict = request.costVerdict := by
  rw [verdict_decide, request.hardControl_eq_none_iff.mpr h]

theorem mem_candidates_iff (request : DecisionRequest) (candidate : DecisionCandidate) :
    candidate ∈ request.candidates ↔
      candidate.action ∈ request.actions ∧
        candidate.expectedCostMinor = request.costOf candidate.action := by
  simp only [candidates, List.mem_map]
  constructor
  · intro h
    obtain ⟨action, haction, rfl⟩ := h
    exact ⟨haction, rfl⟩
  · intro h
    obtain ⟨haction, hcost⟩ := h
    exact ⟨candidate.action, haction, by rw [← hcost]⟩

theorem argmin_candidates (request : DecisionRequest) :
    request.candidates.argmin DecisionCandidate.expectedCostMinor = some request.cheapest :=
  (Option.some_get _).symm

theorem cheapest_mem (request : DecisionRequest) : request.cheapest ∈ request.candidates :=
  List.argmin_mem (Option.mem_def.mpr request.argmin_candidates)

theorem cheapest_cost (request : DecisionRequest) :
    request.cheapest.expectedCostMinor = request.costOf request.cheapest.action :=
  ((request.mem_candidates_iff _).mp request.cheapest_mem).2

theorem cheapest_action_mem (request : DecisionRequest) :
    request.cheapest.action ∈ request.actions :=
  ((request.mem_candidates_iff _).mp request.cheapest_mem).1

theorem cheapest_le (request : DecisionRequest) (action : DecisionAction)
    (h : action ∈ request.actions) :
    request.costOf request.cheapest.action ≤ request.costOf action := by
  have hmem : (⟨action, request.costOf action⟩ : DecisionCandidate) ∈ request.candidates :=
    (request.mem_candidates_iff _).mpr ⟨h, rfl⟩
  have hle := List.le_of_mem_argmin hmem (Option.mem_def.mpr request.argmin_candidates)
  rwa [cheapest_cost] at hle

/-- Python's `min` keeps the first of equal candidates. -/
theorem cheapest_head (request : DecisionRequest) (first : DecisionAction)
    (rest : List DecisionAction) (h : request.actions = first :: rest)
    (hmin : ∀ action ∈ rest, request.costOf first ≤ request.costOf action) :
    request.cheapest.action = first := by
  have hargmin := request.argmin_candidates
  rw [candidates, h, List.map_cons, argmin_cons_of_forall_le] at hargmin
  · exact congrArg DecisionCandidate.action (Option.some.inj hargmin).symm
  · intro candidate hcandidate
    obtain ⟨action, haction, rfl⟩ := List.mem_map.mp hcandidate
    exact hmin action haction

/-- A chosen candidate undercuts every candidate listed before it. -/
theorem cheapest_lt_before (request : DecisionRequest) (before after : List DecisionAction)
    (h : request.actions = before ++ after) (hnot : request.cheapest.action ∉ before) :
    ∀ action ∈ before, request.costOf request.cheapest.action < request.costOf action := by
  intro action haction
  have hargmin := request.argmin_candidates
  rw [candidates, h, List.map_append] at hargmin
  have hlt := argmin_lt_of_append (Option.mem_def.mpr hargmin) (by
    intro hmem
    obtain ⟨chosen, hchosen, heq⟩ := List.mem_map.mp hmem
    exact hnot (by rwa [← heq])) ⟨action, request.costOf action⟩
    (List.mem_map.mpr ⟨action, haction, rfl⟩)
  rwa [cheapest_cost] at hlt

end DecisionRequest

end VeriPay.DecisionEngine
