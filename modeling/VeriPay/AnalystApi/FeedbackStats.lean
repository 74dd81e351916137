import Mathlib.Algebra.BigOperators.Group.List.Basic
import VeriPay.AnalystApi.Scoring

/-!
The statistics of the analyst verdicts. The rows by decision count a verdict as benign under
one set of labels and the totals under two others, which leave one of these labels out.
-/

namespace VeriPay.AnalystApi

open Lib

structure FeedbackByDecisionRow where
  decision : Decision
  totalReviewed : ℕ
  confirmedFraud : ℕ
  falseAlarm : ℕ
  fraudRate : UnitFloat

structure FeedbackStats where
  totalFeedback : ℕ
  confirmedFraud : ℕ
  falseAlarm : ℕ
  customerConfirmedLegitimate : ℕ
  falsePositiveRate : UnitFloat
  feedbackByDecision : List FeedbackByDecisionRow

/-- `round(part / whole, 4) if whole else 0.0`. -/
def share (part whole : ℕ) : ℚ := if whole = 0 then 0 else roundTo 4 (part / whole)

/-- A share of a whole is a rate. -/
theorem share_unit {part whole : ℕ} (h : part ≤ whole) :
    0 ≤ share part whole ∧ share part whole ≤ 1 := by
  unfold share
  split_ifs with hzero
  · exact ⟨le_rfl, zero_le_one⟩
  · have hpos : (0 : ℚ) < whole := by exact_mod_cast Nat.pos_of_ne_zero hzero
    refine ⟨roundTo_nonneg 4 (by positivity), roundTo_le_one 4 ?_⟩
    rw [div_le_one hpos]
    exact_mod_cast h

/-- The counts of one decision's verdicts. -/
def feedbackRow (records : List StoredFeedback) (decision : Decision) : FeedbackByDecisionRow :=
  let bucket := records.filter fun r => r.decision = decision
  { decision := decision
    totalReviewed := bucket.length
    confirmedFraud := bucket.countP fun r => isConfirmedFraud r.analystDecision
    falseAlarm := bucket.countP fun r => isBenign r.analystDecision
    fraudRate := ⟨share (bucket.countP fun r => isConfirmedFraud r.analystDecision) bucket.length,
      share_unit List.countP_le_length⟩ }

/-- The statistics of the verdicts of a store. -/
def feedbackStats (store : ProfileStore) : FeedbackStats :=
  let records := store.feedback
  let confirmed := records.countP fun r => isConfirmedFraud r.analystDecision
  let benign := records.countP fun r => isBenign r.analystDecision
  { totalFeedback := records.length
    confirmedFraud := confirmed
    falseAlarm := records.countP fun r =>
      lower (strip r.analystDecision) ∈ ["false_alarm", "false_positive"]
    customerConfirmedLegitimate := records.countP fun r =>
      lower (strip r.analystDecision) = "customer_confirmed_legitimate"
    falsePositiveRate := ⟨share benign (confirmed + benign), share_unit (Nat.le_add_left _ _)⟩
    feedbackByDecision :=
      [Decision.block, .reviewStealth, .reviewUnusual, .pass].map (feedbackRow records) }

/-- The rows sum to the totals, and the false positives are the two benign classes. -/
structure FeedbackStats.AddsUp (stats : FeedbackStats) : Prop where
  total : (stats.feedbackByDecision.map FeedbackByDecisionRow.totalReviewed).sum =
    stats.totalFeedback
  confirmed : (stats.feedbackByDecision.map FeedbackByDecisionRow.confirmedFraud).sum =
    stats.confirmedFraud
  benign : (stats.feedbackByDecision.map FeedbackByDecisionRow.falseAlarm).sum =
    stats.falseAlarm + stats.customerConfirmedLegitimate
  rate : stats.falsePositiveRate.val =
    share (stats.falseAlarm + stats.customerConfirmedLegitimate)
      (stats.falseAlarm + stats.customerConfirmedLegitimate + stats.confirmedFraud)

section Counting

variable (records : List StoredFeedback)

/-- Every verdict is in the bucket of its decision. -/
theorem countP_by_decision (p : StoredFeedback → Bool) :
    (records.filter fun r => r.decision = .block).countP p +
      ((records.filter fun r => r.decision = .reviewStealth).countP p +
        ((records.filter fun r => r.decision = .reviewUnusual).countP p +
          (records.filter fun r => r.decision = .pass).countP p)) = records.countP p := by
  induction records with
  | nil => rfl
  | cons record rest ih =>
    simp only [List.countP_cons, List.filter_cons]
    cases record.decision with
    | block => simp [List.countP_cons, ← ih]; omega
    | reviewStealth => simp [List.countP_cons, ← ih]; omega
    | reviewUnusual => simp [List.countP_cons, ← ih]; omega
    | pass => simp [List.countP_cons, ← ih]; omega

/-- A benign label is one of exactly three kinds. -/
theorem isBenign_kinds (label : String) :
    (if isBenign label = true then 1 else 0) =
      (if lower (strip label) ∈ ["false_alarm", "false_positive"] then 1 else 0) +
        (if lower (strip label) = "customer_confirmed_legitimate" then 1 else 0) +
        if lower (strip label) = "legitimate" then 1 else 0 := by
  unfold isBenign benignLabels
  generalize lower (strip label) = normalized
  by_cases hcustomer : normalized = "customer_confirmed_legitimate"
  · subst hcustomer
    rfl
  by_cases hlegitimate : normalized = "legitimate"
  · subst hlegitimate
    rfl
  simp [hcustomer, hlegitimate]

/-- A benign verdict is in one of the two classes, or says just that it was legitimate. -/
theorem countP_benign :
    records.countP (fun r => isBenign r.analystDecision) =
      records.countP (fun r => lower (strip r.analystDecision) ∈
          ["false_alarm", "false_positive"]) +
        records.countP (fun r =>
          lower (strip r.analystDecision) = "customer_confirmed_legitimate") +
        records.countP (fun r => lower (strip r.analystDecision) = "legitimate") := by
  induction records with
  | nil => rfl
  | cons record rest ih =>
    have hkinds := isBenign_kinds record.analystDecision
    rw [List.countP_cons, List.countP_cons, List.countP_cons, List.countP_cons, ih]
    simp only [decide_eq_true_eq]
    omega

end Counting

/-- The statistics add up exactly when no verdict reads just legitimate. -/
theorem addsUp_feedbackStats_iff (store : ProfileStore) :
    (feedbackStats store).AddsUp ↔
      ∀ r ∈ store.feedback, lower (strip r.analystDecision) ≠ "legitimate" := by
  have hlength := countP_by_decision store.feedback fun _ => true
  simp only [List.countP_true] at hlength
  have hconfirmed := countP_by_decision store.feedback fun r => isConfirmedFraud r.analystDecision
  have hbenign := countP_by_decision store.feedback fun r => isBenign r.analystDecision
  have hclasses := countP_benign store.feedback
  have hnone : store.feedback.countP (fun r => lower (strip r.analystDecision) = "legitimate") =
      0 ↔ ∀ r ∈ store.feedback, lower (strip r.analystDecision) ≠ "legitimate" := by
    rw [List.countP_eq_zero]
    simp only [decide_eq_true_eq, ne_eq]
  rw [← hnone]
  constructor
  · intro h
    have hrows := h.benign
    simp only [feedbackStats, feedbackRow, List.map_cons, List.map_nil, List.sum_cons,
      List.sum_nil] at hrows
    omega
  · intro hzero
    rw [hzero, Nat.add_zero] at hclasses
    refine ⟨?_, ?_, ?_, ?_⟩
    · simpa only [feedbackStats, feedbackRow, List.map_cons, List.map_nil, List.sum_cons,
        List.sum_nil, Nat.add_zero] using hlength
    · simpa only [feedbackStats, feedbackRow, List.map_cons, List.map_nil, List.sum_cons,
        List.sum_nil, Nat.add_zero] using hconfirmed
    · simp only [feedbackStats, feedbackRow, List.map_cons, List.map_nil, List.sum_cons,
        List.sum_nil]
      omega
    · simp only [feedbackStats, ← hclasses]
      rw [Nat.add_comm]

namespace AnalystOrchestrator

variable {W : Type} (self : AnalystOrchestrator W)

/-- Verdicts submitted one after another, each with the time it is received at. -/
def submitAll : List (FeedbackInput × DateTime) → Effect (Pipeline W) Unit
  | [] => pure ()
  | (feedback, received) :: rest => do
    let _ ← self.submitFeedback feedback received
    submitAll rest

/-- Every submitted verdict is retained, whatever the services answer. -/
theorem feedback_submitAll (submissions : List (FeedbackInput × DateTime))
    (pipeline : Pipeline W) :
    (Effect.exec (self.submitAll submissions) pipeline).2.store.feedback =
      pipeline.store.feedback ++ submissions.map fun s => storedFeedback s.1 s.2 := by
  induction submissions generalizing pipeline with
  | nil => exact (List.append_nil _).symm
  | cons submission rest ih =>
    obtain ⟨feedback, received⟩ := submission
    rw [submitAll, Effect.exec_bind, exec_submitFeedback]
    refine (ih _).trans ?_
    rw [List.map_cons]
    exact List.append_assoc _ [_] _

end AnalystOrchestrator

/-- The statistics over any verdicts add up exactly when none reads just legitimate. -/
theorem feedbackStats_submitAll_iff {W : Type} (analyst : AnalystOrchestrator W) (world : W)
    (submissions : List (FeedbackInput × DateTime)) :
    (feedbackStats (Effect.exec (analyst.submitAll submissions) { world }).2.store).AddsUp ↔
      ∀ s ∈ submissions, lower (strip s.1.analystDecision.val) ≠ "legitimate" := by
  rw [addsUp_feedbackStats_iff, analyst.feedback_submitAll]
  exact List.forall_mem_map

theorem legitimate_ne_empty : "legitimate" ≠ "" := by decide

/-- A verdict in the label that the review vocabulary has for a genuine transaction. -/
def legitimateVerdict : FeedbackInput where
  transactionId := ⟨"tx-genuine", by decide⟩
  ccNum := ⟨7, by decide⟩
  analystDecision := ⟨"legitimate", legitimate_ne_empty⟩

/-- It is in the row of its decision and in neither total. -/
theorem feedbackStats_legitimateVerdict :
    ¬ (feedbackStats (Effect.exec
      (AnalystOrchestrator.submitAll ⟨answeringClient [] [] [], {}, .atNoon⟩
        [(legitimateVerdict, .atHour true 739706 9)]) { world := () }).2.store).AddsUp := by
  rw [addsUp_feedbackStats_iff, AnalystOrchestrator.feedback_submitAll]
  intro h
  exact h _ (List.mem_singleton_self _) (by decide)

end VeriPay.AnalystApi
