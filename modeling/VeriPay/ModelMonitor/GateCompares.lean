import VeriPay.ModelMonitor.Champion

/-!
When the gate compares at all. It starts out passed and is only set where the champion and
the retrain report a metric in common, so a champion with other metrics is replaced unseen.
-/

namespace VeriPay.ModelMonitor

open Lib

variable {C : Type}

/-- The metrics the gate looks at, in its order. -/
def gateMetrics : List String := ["roc_auc", "pr_auc"]

/-- A metric of the champion and of the retrain, where both report it. -/
def reportedByBoth (latestMetrics newMetrics : Metrics) (name : String) : Option (ℚ × ℚ) :=
  (latestMetrics.get? name).bind fun latest => (newMetrics.get? name).map fun new => (latest, new)

/-- The first metric of the gate that both report. -/
def sharedMetric (latestMetrics newMetrics : Metrics) : Option (ℚ × ℚ) :=
  gateMetrics.findSome? (reportedByBoth latestMetrics newMetrics)

/-- A shared metric is there, and the retrain's is at most the tolerance below. -/
def Clears (latestMetrics newMetrics : Metrics) (tolerance : ℚ) : Prop :=
  ∃ latest new, sharedMetric latestMetrics newMetrics = some (latest, new) ∧
    latest - tolerance ≤ new

/-- A call passes the gate only on a comparison, and otherwise changes nothing. -/
structure GateCompares (lib : PromotionLib C) (call : PromoteCall) (world : World C)
    (latestMetrics : Metrics) : Prop where
  gate : ∀ registry, world.registry.load = .ok registry → Passes lib call registry →
    Clears latestMetrics call.result.metrics call.tolerance
  outcome : ∀ faults outcome,
    (Effect.exec (promoteIfBetter lib faults call) world).1 = .ok outcome →
      outcome.gatePassed = true → Clears latestMetrics call.result.metrics call.tolerance
  kept : ¬ Clears latestMetrics call.result.metrics call.tolerance →
    ∀ faults, (Effect.exec (promoteIfBetter lib faults call) world).2 = world

section Gate

variable (lib : PromotionLib C)

/-- The gate against a champion with metrics. -/
theorem gate_eq_true_iff {latestMetrics newMetrics : Metrics} {tolerance : ℚ}
    (hne : latestMetrics.items ≠ []) :
    (gate lib (some latestMetrics) newMetrics tolerance).1 = true ↔
      sharedMetric latestMetrics newMetrics = none ∨
        Clears latestMetrics newMetrics tolerance := by
  have hitems : latestMetrics.items.isEmpty = false := List.isEmpty_eq_false_iff.mpr hne
  simp only [gate, hitems, Bool.false_eq_true, if_false, Clears, sharedMetric, gateMetrics,
    List.findSome?_cons, List.findSome?_nil, reportedByBoth]
  cases latestMetrics.get? "roc_auc" with
  | none =>
    cases latestMetrics.get? "pr_auc" with
    | none => simp
    | some latest =>
      cases newMetrics.get? "pr_auc" with
      | none => simp
      | some new => simp [compareMetric]
  | some latest =>
    cases newMetrics.get? "roc_auc" with
    | some new => simp [compareMetric]
    | none =>
      cases latestMetrics.get? "pr_auc" with
      | none => simp
      | some latest =>
        cases newMetrics.get? "pr_auc" with
        | none => simp
        | some new => simp [compareMetric]

end Gate

section Comparing

variable {lib : PromotionLib C} {call : PromoteCall} {world : World C} {registry : Registry}
  {entry : VersionEntry}

theorem passes_iff (hentry : registry.latestEntry call.modelName = some entry)
    (hne : entry.metrics.items ≠ []) :
    Passes lib call registry ↔
      sharedMetric entry.metrics call.result.metrics = none ∨
        Clears entry.metrics call.result.metrics call.tolerance := by
  rw [Passes, championMetrics, hentry]
  exact gate_eq_true_iff lib hne

/-- A promoted call passed the gate, and one that did not pass changed nothing. -/
theorem PromoteCases.of_gate {faults : Faults C} {answer : Py PromoteOutcome} {after : World C}
    (h : PromoteCases lib faults call world answer after)
    (hload : world.registry.load = .ok registry) :
    ((∃ outcome, answer = .ok outcome ∧ outcome.gatePassed = true) → Passes lib call registry) ∧
      (¬ Passes lib call registry → after = world) := by
  cases h with
  | stopped answer hstop hrejected =>
    refine ⟨?_, fun _ => rfl⟩
    rintro ⟨outcome, houtcome, hpassed⟩
    rw [hrejected outcome houtcome] at hpassed
    cases hpassed
  | broken hread registry' hload' hpasses e after hfiles =>
    cases hload.symm.trans hload'
    exact ⟨fun _ => hpasses, fun hnot => absurd hpasses hnot⟩
  | unregistered hread registry' hload' hpasses e after hfiles file hfile hfault =>
    cases hload.symm.trans hload'
    exact ⟨fun _ => hpasses, fun hnot => absurd hpasses hnot⟩
  | promoted hread registry' hload' hpasses outcome houtcome after hfiles =>
    cases hload.symm.trans hload'
    exact ⟨fun _ => hpasses, fun hnot => absurd hpasses hnot⟩

/-- Against a champion with metrics, the gate compares exactly when a metric it looks at is
reported by both. -/
theorem gateCompares_iff (hload : world.registry.load = .ok registry)
    (hentry : registry.latestEntry call.modelName = some entry)
    (hne : entry.metrics.items ≠ []) :
    GateCompares lib call world entry.metrics ↔
      ∃ name ∈ gateMetrics, (entry.metrics.get? name).isSome = true ∧
        (call.result.metrics.get? name).isSome = true := by
  have hpasses : Passes lib call registry ↔ _ := passes_iff hentry hne
  have hshared : sharedMetric entry.metrics call.result.metrics = none ↔
      ¬ ∃ name ∈ gateMetrics, (entry.metrics.get? name).isSome = true ∧
        (call.result.metrics.get? name).isSome = true := by
    rw [sharedMetric, List.findSome?_eq_none_iff]
    push Not
    refine forall₂_congr fun name _ => ?_
    unfold reportedByBoth
    cases entry.metrics.get? name with
    | none => simp
    | some latest => simp
  constructor
  · intro h
    by_contra hnone
    obtain ⟨latest, new, hsome, -⟩ :=
      h.gate registry hload (hpasses.mpr (Or.inl (hshared.mpr hnone)))
    rw [hshared.mpr hnone] at hsome
    cases hsome
  · intro hboth
    have hclears : Passes lib call registry →
        Clears entry.metrics call.result.metrics call.tolerance := fun h =>
      (hpasses.mp h).resolve_left fun hnone => hshared.mp hnone hboth
    refine ⟨?_, ?_, ?_⟩
    · intro registry' hload' h
      cases hload.symm.trans hload'
      exact hclears h
    · intro faults outcome houtcome hpassed
      exact hclears (((promote_cases lib faults call world).of_gate hload).1
        ⟨outcome, houtcome, hpassed⟩)
    · intro hfails faults
      exact ((promote_cases lib faults call world).of_gate hload).2
        fun h => hfails (hclears h)

end Comparing

section Runs

/-- The registry of a champion with a ROC-AUC of nine tenths. -/
def championRegistry : Registry :=
  Registry.registered ∅ "supervised" (promotedEntry plainPromotionLib (retrainCall "v1" (9 / 10)))

def championWorld : World String := { scratchWorld with registry := .payload championRegistry }

theorem championRegistry_entry : championRegistry.latestEntry "supervised" =
    some (promotedEntry plainPromotionLib (retrainCall "v1" (9 / 10))) :=
  Registry.latestEntry_registered _ _ _

/-- A retrain with a ROC-AUC is compared. -/
theorem gateCompares_retrainCall : GateCompares plainPromotionLib (retrainCall "v2" (1 / 2))
    championWorld (aucMetrics (9 / 10)) := by
  have hload : championWorld.registry.load = .ok championRegistry := rfl
  have hentry : championRegistry.latestEntry (retrainCall "v2" (1 / 2)).modelName =
      some (promotedEntry plainPromotionLib (retrainCall "v1" (9 / 10))) := championRegistry_entry
  exact (gateCompares_iff hload hentry (List.cons_ne_nil _ _)).mpr
    ⟨"roc_auc", List.mem_cons_self, rfl, rfl⟩

/-- A retrain that reports nothing but a low PR-AUC. -/
def unratedCall : PromoteCall :=
  { retrainCall "v2" 0 with
    result := { (retrainCall "v2" 0).result with
      metrics := ⟨[("pr_auc", 1 / 10)], List.nodup_singleton _⟩ } }

/-- It is promoted over the champion, as a first version. -/
theorem unratedCall_promoted :
    (promotes (Effect.exec (promoteIfBetter plainPromotionLib noFaults unratedCall)
      championWorld).1 = true ∧
    (Effect.exec (promoteIfBetter plainPromotionLib noFaults unratedCall)
      championWorld).2.registry.latestVersion "supervised" = some "v2") ∧
      ¬ GateCompares plainPromotionLib unratedCall championWorld (aucMetrics (9 / 10)) := by
  have hpasses : Passes plainPromotionLib unratedCall championRegistry := by decide +kernel
  refine ⟨by decide +kernel, ?_⟩
  intro h
  obtain ⟨latest, new, hshared, -⟩ := h.gate championRegistry rfl hpasses
  cases hshared

end Runs

end VeriPay.ModelMonitor
