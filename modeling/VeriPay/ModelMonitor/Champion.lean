import Mathlib.Data.List.Chain
import Mathlib.Tactic.Linarith
import VeriPay.Lib.Machine
import VeriPay.ModelMonitor.Promotion

/-!
How far a champion can fall. The gate compares a retrain with the champion of the moment,
so each promotion may give up the tolerance once, and a run of promotions as often as it
is long.
-/

namespace VeriPay.ModelMonitor

open Lib

variable {C : Type}

/-- A call on one model with the tolerance of the run, and the ROC-AUC its result reports. -/
structure RatedCall (C : Type) (modelName : String) (tolerance : ℚ) where
  call : PromoteCall
  faults : Faults C
  auc : ℚ
  modelName_eq : call.modelName = modelName
  tolerance_eq : call.tolerance = tolerance
  reports : call.result.metrics.get? "roc_auc" = some auc

def promotionMachine (lib : PromotionLib C) (modelName : String) (tolerance : ℚ) :
    Machine (World C) (RatedCall C modelName tolerance) (Py PromoteOutcome) where
  step world rated := Effect.exec (promoteIfBetter lib rated.faults rated.call) world

def promotes : Py PromoteOutcome → Bool
  | .ok outcome => outcome.gatePassed
  | .error _ => false

/-- An answer that is a raise or a rejection promotes nothing. -/
theorem promotes_of_rejected {answer : Py PromoteOutcome}
    (h : ∀ outcome, answer = .ok outcome → outcome.gatePassed = false) :
    promotes answer = false := by
  cases answer with
  | error e => rfl
  | ok outcome => exact h outcome rfl

variable {modelName : String} {tolerance : ℚ}

/-- The ROC-AUC of every promoted model, the last one first. -/
def promotedAucs
    (events : List (Machine.Event (World C) (RatedCall C modelName tolerance)
      (Py PromoteOutcome))) : List ℚ :=
  (events.reverse.filter fun event => promotes event.answer).map fun event => event.call.auc

theorem promotedAucs_concat
    (events : List (Machine.Event (World C) (RatedCall C modelName tolerance)
      (Py PromoteOutcome)))
    (event : Machine.Event (World C) (RatedCall C modelName tolerance) (Py PromoteOutcome)) :
    promotedAucs (events ++ [event]) =
      (if promotes event.answer then [event.call.auc] else []) ++ promotedAucs events := by
  rw [promotedAucs, List.reverse_append, List.reverse_singleton, List.singleton_append,
    List.filter_cons]
  cases promotes event.answer <;> rfl

/-- The ROC-AUC recorded for `latest`. -/
def latestAuc (world : World C) (modelName : String) : Option ℚ :=
  match world.registry.load with
  | .error _ => none
  | .ok registry =>
    (registry.latestEntry modelName).bind fun entry => entry.metrics.get? "roc_auc"

/-- The next of two promoted models is at most the tolerance worse. -/
def WithinTolerance (tolerance newer older : ℚ) : Prop := older - tolerance ≤ newer

/-- Every promotion passed the gate, and a readable registry records the last one. -/
structure Recorded (modelName : String) (tolerance : ℚ) (aucs : List ℚ) (world : World C) :
    Prop where
  chain : aucs.IsChain (WithinTolerance tolerance)
  latest : ∀ registry, world.registry.load = .ok registry →
    (registry.latestEntry modelName = none ∧ aucs = []) ∨
      ∃ entry auc rest, registry.latestEntry modelName = some entry ∧
        entry.metrics.get? "roc_auc" = some auc ∧ aucs = auc :: rest

theorem Recorded.of_cases {lib : PromotionLib C} {rated : RatedCall C modelName tolerance}
    {aucs : List ℚ} {world after : World C} {answer : Py PromoteOutcome}
    (h : Recorded modelName tolerance aucs world)
    (hcases : PromoteCases lib rated.faults rated.call world answer after) :
    Recorded modelName tolerance ((if promotes answer then [rated.auc] else []) ++ aucs) after := by
  cases hcases with
  | stopped answer hstop hrejected =>
    rw [promotes_of_rejected hrejected]
    exact h
  | broken hread registry hload hpasses e after hfiles =>
    have hkept := keepsRegistry_releaseFiles lib rated.faults rated.call world
    rw [hfiles] at hkept
    refine ⟨h.chain, ?_⟩
    intro registry' hload'
    exact h.latest registry' (by rwa [← hkept])
  | unregistered hread registry hload hpasses e after hfiles file hfile =>
    refine ⟨h.chain, ?_⟩
    intro registry' hload'
    rcases hfile with rfl | rfl
    · exact h.latest registry' hload'
    · cases hload'
  | promoted hread registry hload hpasses outcome houtcome after hfiles =>
    have hyes : promotes (.ok outcome) = true := houtcome
    rw [hyes, if_pos rfl, List.singleton_append]
    constructor
    · rcases h.latest registry hload with ⟨-, rfl⟩ | ⟨entry, auc, rest, hentry, hauc, rfl⟩
      · exact List.isChain_singleton _
      · refine List.isChain_cons_cons.mpr ⟨?_, h.chain⟩
        have hchampion : championMetrics rated.call registry = some entry.metrics := by
          rw [championMetrics, rated.modelName_eq, hentry]
          rfl
        have hgate := hpasses
        rw [Passes, hchampion, rated.tolerance_eq] at hgate
        exact le_of_gate lib hauc rated.reports hgate
    · intro registry' hload'
      cases hload'
      refine Or.inr ⟨promotedEntry lib rated.call, rated.auc, aucs, ?_, rated.reports, rfl⟩
      rw [rated.modelName_eq, Registry.latestEntry_registered]

/-- Every run from an empty registry records its last promotion. -/
theorem recorded_run (lib : PromotionLib C) {world : World C}
    (hempty : world.registry.load = .ok ∅) (calls : List (RatedCall C modelName tolerance)) :
    let m := promotionMachine lib modelName tolerance
    Recorded modelName tolerance (promotedAucs (m.trace world calls)) (m.run world calls) := by
  intro m
  induction calls using List.reverseRecOn with
  | nil =>
    refine ⟨List.isChain_nil, ?_⟩
    intro registry hload
    rw [Machine.run_nil, hempty] at hload
    cases hload
    exact Or.inl ⟨rfl, rfl⟩
  | append_singleton calls rated ih =>
    rw [Machine.run_concat, Machine.trace_append, Machine.trace_cons, Machine.trace_nil,
      promotedAucs_concat]
    exact ih.of_cases (promote_cases lib rated.faults rated.call (m.run world calls))

/-- A model stays above an earlier one up to the tolerance for each promotion between. -/
theorem le_of_chain {aucs : List ℚ} {newest : ℚ}
    (h : (newest :: aucs).IsChain (WithinTolerance tolerance)) {position : ℕ} {older : ℚ}
    (holder : (newest :: aucs)[position]? = some older) :
    older - position * tolerance ≤ newest := by
  induction position generalizing newest aucs with
  | zero =>
    cases holder
    simp
  | succ position ih =>
    cases aucs with
    | nil => cases holder
    | cons next rest =>
      obtain ⟨hnext, hrest⟩ := List.isChain_cons_cons.mp h
      have hlower := ih hrest holder
      rw [WithinTolerance] at hnext
      push_cast
      linarith

/-- After every run from an empty registry, `latest` is the last promoted model, and no
earlier one was better by more than the tolerance for each promotion after it. -/
theorem latest_within_tolerances (lib : PromotionLib C) (world : World C)
    (hempty : world.registry.load = .ok ∅) (calls : List (RatedCall C modelName tolerance)) :
    let m := promotionMachine lib modelName tolerance
    let aucs := promotedAucs (m.trace world calls)
    ∀ latest, latestAuc (m.run world calls) modelName = some latest →
      aucs.head? = some latest ∧ ∀ (position : ℕ) auc, aucs[position]? = some auc →
        auc - position * tolerance ≤ latest := by
  intro m aucs latest hlatest
  have hrecorded := recorded_run lib hempty calls
  rw [latestAuc] at hlatest
  cases hload : (m.run world calls).registry.load with
  | error e =>
    rw [hload] at hlatest
    cases hlatest
  | ok registry =>
    rw [hload] at hlatest
    simp only at hlatest
    rcases hrecorded.latest registry hload with ⟨hnone, -⟩ | ⟨entry, auc, rest, hentry, hauc, haucs⟩
    · rw [hnone] at hlatest
      cases hlatest
    · rw [hentry, Option.bind_some, hauc] at hlatest
      cases hlatest
      have hchain := hrecorded.chain
      rw [haucs] at hchain
      refine ⟨congrArg List.head? haucs, ?_⟩
      intro position older holder
      refine le_of_chain hchain ?_
      rw [← haucs]
      exact holder

section Runs

/-- Sidecars that hold a version and are written as its text. -/
def plainPromotionLib : PromotionLib String where
  loads text := .ok (.obj [("version", .str text)])
  dumps
    | .obj ((_, .str text) :: _) => text
    | _ => ""
  fingerprint _ := "unavailable"
  floatRepr x := fixedText 2 x
  pathText path := "/".intercalate path

def aucMetrics (auc : ℚ) : Metrics := ⟨[("roc_auc", auc)], List.nodup_singleton _⟩

/-- A retrain of one metric, its files in a scratch directory of their own. -/
def retrainCall (version : String) (auc : ℚ) : PromoteCall where
  result := { version, metrics := aucMetrics auc, scratchDir := [version], datasetPath := "d.csv" }
  modelName := "supervised"
  latestDir := ["models", "supervised", "latest"]
  trainedAt := "2026-01-01T00:00:00+00:00"

theorem retrainCall_modelName (version : String) (auc : ℚ) :
    (retrainCall version auc).modelName = "supervised" := rfl

def ratedRetrain (version : String) (auc : ℚ) : RatedCall String "supervised" (1 / 100) where
  call := retrainCall version auc
  faults := noFaults
  auc
  modelName_eq := retrainCall_modelName version auc
  tolerance_eq := rfl
  reports := rfl

/-- Every scratch directory holds a model, a sidecar and a profile, the latest none. -/
def scratchWorld : World String where
  registry := .absent
  files path := if path.head? = some "models" then none else path.head?

/-- Three retrains, each a little worse than the one before it. -/
def slowDecline : List (RatedCall String "supervised" (1 / 100)) :=
  [ratedRetrain "v1" (9 / 10), ratedRetrain "v2" (895 / 1000), ratedRetrain "v3" (889 / 1000)]

theorem slowDecline_aucs :
    promotedAucs ((promotionMachine plainPromotionLib "supervised" (1 / 100)).trace scratchWorld
      slowDecline) = [889 / 1000, 895 / 1000, 9 / 10] := by
  decide +kernel

theorem slowDecline_auc :
    latestAuc ((promotionMachine plainPromotionLib "supervised" (1 / 100)).run scratchWorld
      slowDecline) "supervised" = some (889 / 1000) := by
  decide +kernel

/-- The third model is worse than the first by more than the tolerance. -/
theorem slowDecline_latest :
    let m := promotionMachine plainPromotionLib "supervised" (1 / 100)
    promotedAucs (m.trace scratchWorld slowDecline) = [889 / 1000, 895 / 1000, 9 / 10] ∧
      latestAuc (m.run scratchWorld slowDecline) "supervised" = some (889 / 1000) ∧
      ¬ ((9 : ℚ) / 10 - 1 / 100 ≤ 889 / 1000) :=
  ⟨slowDecline_aucs, slowDecline_auc, by norm_num⟩

/-- Two promotions after the first model, the bound is twice the tolerance. -/
theorem latest_within_tolerances_slowDecline : (9 : ℚ) / 10 - (2 : ℕ) * (1 / 100) ≤ 889 / 1000 :=
  (latest_within_tolerances plainPromotionLib scratchWorld rfl slowDecline (889 / 1000)
    slowDecline_auc).2 2 (9 / 10) (by rw [slowDecline_aucs]; rfl)

end Runs

end VeriPay.ModelMonitor
