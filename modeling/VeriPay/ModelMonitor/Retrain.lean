import VeriPay.ModelMonitor.Dataset
import VeriPay.ModelMonitor.Promotion

/-!
The gated retrain of the monitor. With enough labels it trains on the augmented dataset
and offers the result to the promotion gate; what it reports says how far it came.
-/

namespace VeriPay.ModelMonitor

open Lib

structure MonitorSettings where
  modelName : String := "supervised"
  modelDir : Path
  baseDataset : Path
  minLabeledObservations : ℤ := 10
  promotionTolerance : ℚ := 1 / 100

/-- Trains on a dataset, under a version and a model name, in a scratch directory. -/
abbrev Retrainer (C : Type) := Path → String → String → Path → Effect (World C) RetrainResult

/-- The monitor at one request: its window and labels, the services it is given, the
scratch directory and the times it draws, and what fails in a promotion. -/
structure Monitor (C : Type) where
  settings : MonitorSettings
  observations : List StoredObservation
  localLabels : LocalLabels
  retrainer : Retrainer C
  lib : PromotionLib C
  datasets : DatasetLib C
  faults : Faults C := noFaults
  mkdtemp : Py Path
  stamp : String
  trainedAt : String

/-- The answers of `retrain_and_promote`. -/
inductive RetrainReport
  | notTriggered (reason : String) (labeledCount : ℕ)
  | triggered (version : String) (gatePassed : Bool) (reason : String) (metrics : Metrics)
      (latestMetrics : Option Metrics) (labeledCount : ℕ) (datasetPath : String)

def metricsJson (metrics : Metrics) : Json :=
  .obj (metrics.items.map fun item => (item.1, .float item.2))

/-- How a retrain that answers ended. -/
inductive Ending
  | notTriggered | rejected | promoted
  deriving DecidableEq

theorem Ending.eq_iff {ending ending' : Ending} :
    ending = ending' ↔ (ending = .notTriggered ↔ ending' = .notTriggered) ∧
      (ending = .promoted ↔ ending' = .promoted) := by
  cases ending <;> cases ending' <;> decide

namespace RetrainReport

def toJson : RetrainReport → JsonObj
  | notTriggered reason labeledCount =>
    [("triggered", .bool false), ("reason", .str reason), ("labeled_count", .int labeledCount)]
  | triggered version gatePassed reason metrics latestMetrics labeledCount datasetPath =>
    [("triggered", .bool true), ("version", .str version), ("gate_passed", .bool gatePassed),
      ("reason", .str reason), ("metrics", metricsJson metrics),
      ("latest_metrics", (latestMetrics.map metricsJson).getD .null),
      ("labeled_count", .int labeledCount), ("dataset_path", .str datasetPath)]

def ending : RetrainReport → Ending
  | notTriggered .. => .notTriggered
  | triggered _ gatePassed .. => if gatePassed then .promoted else .rejected

/-- The version a retrain trained under. -/
def trainedVersion : RetrainReport → Option String
  | notTriggered .. => none
  | triggered version .. => some version

def metrics : RetrainReport → List (String × ℚ)
  | notTriggered .. => []
  | triggered _ _ _ metrics .. => metrics.items

end RetrainReport

/-- `shutil.rmtree(scratch_dir)`. -/
def rmtree {C : Type} (scratch : Path) (world : World C) : World C :=
  { world with files := fun path => if scratch <+: path then none else world.files path }

namespace Monitor

variable {C : Type} (monitor : Monitor C)

def labeled : List (StoredObservation × ℕ) :=
  collectLabeled monitor.observations monitor.localLabels

/-- There are enough labels to retrain. -/
def Triggers : Prop :=
  monitor.settings.minLabeledObservations ≤ (monitor.labeled.length : ℤ)

instance : Decidable monitor.Triggers := inferInstanceAs (Decidable (_ ≤ _))

/-- The version of a retrain that is given none. -/
def drawnVersion : String := "retrain-" ++ monitor.stamp

/-- `version or f"retrain-{now}"`. -/
def resolvedVersion : Option String → String
  | none => monitor.drawnVersion
  | some version => if version = "" then monitor.drawnVersion else version

def latestDir : Path := monitor.settings.modelDir ++ [monitor.settings.modelName, "latest"]

def augmentedPath (scratch : Path) : Path := scratch ++ ["augmented_dataset.csv"]

/-- The rows, the dataset and the training. -/
def train (version : String) (scratch : Path) : Effect (World C) RetrainResult := do
  let rows ← (liftM (monitor.labeled.mapM fun item =>
    observationToRow monitor.datasets.expm1 item.1 item.2) : Effect (World C) (List Row))
  let _ ← buildAugmentedDataset monitor.datasets monitor.settings.baseDataset rows
    (augmentedPath scratch)
  monitor.retrainer (augmentedPath scratch) version monitor.settings.modelName scratch

def promoteCall (result : RetrainResult) : PromoteCall where
  result
  modelName := monitor.settings.modelName
  latestDir := monitor.latestDir
  tolerance := monitor.settings.promotionTolerance
  trainedAt := monitor.trainedAt

def triggeredReport (version : String) (scratch : Path) (outcome : PromoteOutcome) :
    RetrainReport :=
  .triggered version outcome.gatePassed outcome.reason outcome.metrics outcome.latestMetrics
    monitor.labeled.length (monitor.lib.pathText (augmentedPath scratch))

/-- The part of a retrain that runs in the scratch directory. -/
def trainAndPromote (version : String) (scratch : Path) : Effect (World C) RetrainReport := do
  let result ← monitor.train version scratch
  let outcome ← promoteIfBetter monitor.lib monitor.faults (monitor.promoteCall result)
  return monitor.triggeredReport version scratch outcome

def tooFewReason : String :=
  "only " ++ toString monitor.labeled.length ++ " labeled observation(s) (minimum " ++
    toString monitor.settings.minLabeledObservations ++ ")"

def retrainAndPromote (version : Option String) : Effect (World C) RetrainReport := do
  if (monitor.labeled.length : ℤ) < monitor.settings.minLabeledObservations then
    return .notTriggered monitor.tooFewReason monitor.labeled.length
  else do
    let scratch ← (liftM monitor.mkdtemp : Effect (World C) Path)
    Effect.ensure (rmtree scratch)
      (monitor.trainAndPromote (monitor.resolvedVersion version) scratch)

/-- The retrained model passes the gate. -/
def GatePasses (version : String) (world : World C) : Prop :=
  ∃ scratch result trained registry, monitor.mkdtemp = .ok scratch ∧
    Effect.exec (monitor.train version scratch) world = (.ok result, trained) ∧
    trained.registry.load = .ok registry ∧
    Passes monitor.lib (monitor.promoteCall result) registry

end Monitor

variable {C : Type}

/-- A promotion that returns has read the registry. -/
theorem promoteIfBetter_reads {lib : PromotionLib C} {faults : Faults C} {call : PromoteCall}
    {world after : World C} {outcome : PromoteOutcome}
    (h : Effect.exec (promoteIfBetter lib faults call) world = (.ok outcome, after)) :
    faults .readRegistry = none ∧ ∃ registry, world.registry.load = .ok registry := by
  unfold promoteIfBetter at h
  obtain ⟨_, _, hperform, h⟩ := Effect.exec_bind_eq_ok h
  rw [exec_perform] at hperform
  cases hread : faults .readRegistry with
  | some fault =>
    rw [hread] at hperform
    cases hperform
  | none =>
    rw [hread] at hperform
    cases hperform
    rw [Effect.exec_bind_ok (Effect.exec_get world)] at h
    obtain ⟨registry, _, hload, -⟩ := Effect.exec_bind_eq_ok h
    exact ⟨rfl, registry, (Effect.exec_lift_eq_ok.mp hload).1⟩

/-- The gate decides how a promotion that returns has ended. -/
theorem promoteIfBetter_ok {lib : PromotionLib C} {faults : Faults C} {call : PromoteCall}
    {world after : World C} {outcome : PromoteOutcome}
    (h : Effect.exec (promoteIfBetter lib faults call) world = (.ok outcome, after)) :
    ∃ registry, world.registry.load = .ok registry ∧
      ((outcome.gatePassed = true ∧ Passes lib call registry ∧
          after.registry =
            .payload (registry.registered call.modelName (promotedEntry lib call))) ∨
        (outcome.gatePassed = false ∧ ¬ Passes lib call registry)) := by
  obtain ⟨hread, registry, hload⟩ := promoteIfBetter_reads h
  refine ⟨registry, hload, ?_⟩
  have hcases := promote_cases lib faults call world
  rw [h] at hcases
  cases hcases with
  | stopped answer hstop hrejected =>
    refine Or.inr ⟨hrejected outcome rfl, ?_⟩
    rcases hstop with hfault | hfails
    · exact absurd hread hfault
    · exact hfails registry hload
  | promoted hread' registry' hload' hpasses outcome houtcome after hfiles =>
    rw [hload] at hload'
    cases hload'
    exact Or.inl ⟨houtcome, hpasses, rfl⟩

namespace Monitor

variable (monitor : Monitor C)

/-- How a retrain that answers can end. -/
inductive RetrainCases (version : Option String) (world : World C) :
    RetrainReport → World C → Prop
  | notTriggered (hfew : ¬ monitor.Triggers) :
      RetrainCases version world (.notTriggered monitor.tooFewReason monitor.labeled.length) world
  | rejected (htriggers : monitor.Triggers) (scratch : Path) (outcome : PromoteOutcome)
      (houtcome : outcome.gatePassed = false)
      (hfails : ¬ monitor.GatePasses (monitor.resolvedVersion version) world) (after : World C) :
      RetrainCases version world
        (monitor.triggeredReport (monitor.resolvedVersion version) scratch outcome) after
  | promoted (htriggers : monitor.Triggers) (scratch : Path) (outcome : PromoteOutcome)
      (houtcome : outcome.gatePassed = true)
      (hpasses : monitor.GatePasses (monitor.resolvedVersion version) world)
      (after : World C) (registry : Registry) (entry : VersionEntry)
      (hafter : after.registry =
        .payload (registry.registered monitor.settings.modelName entry)) :
      RetrainCases version world
        (monitor.triggeredReport (monitor.resolvedVersion version) scratch outcome) after

variable {monitor}

theorem trainAndPromote_ok {version : String} {scratch : Path} {world after : World C}
    {report : RetrainReport}
    (h : Effect.exec (monitor.trainAndPromote version scratch) world = (.ok report, after)) :
    ∃ result trained outcome,
      Effect.exec (monitor.train version scratch) world = (.ok result, trained) ∧
      Effect.exec (promoteIfBetter monitor.lib monitor.faults (monitor.promoteCall result))
        trained = (.ok outcome, after) ∧
      report = monitor.triggeredReport version scratch outcome := by
  obtain ⟨result, trained, htrain, h⟩ := Effect.exec_bind_eq_ok h
  obtain ⟨outcome, promoted, hpromote, h⟩ := Effect.exec_bind_eq_ok h
  cases h
  exact ⟨result, trained, outcome, htrain, hpromote, rfl⟩

theorem retrain_cases {version : Option String} {world after : World C} {report : RetrainReport}
    (h : Effect.exec (monitor.retrainAndPromote version) world = (.ok report, after)) :
    monitor.RetrainCases version world report after := by
  unfold retrainAndPromote at h
  by_cases hfew : (monitor.labeled.length : ℤ) < monitor.settings.minLabeledObservations
  · rw [if_pos hfew] at h
    cases h
    apply RetrainCases.notTriggered
    unfold Triggers
    omega
  · rw [if_neg hfew] at h
    have htriggers : monitor.Triggers := by
      unfold Triggers
      omega
    obtain ⟨scratch, _, hdraw, h⟩ := Effect.exec_bind_eq_ok h
    obtain ⟨hdir, rfl⟩ := Effect.exec_lift_eq_ok.mp hdraw
    rw [Effect.exec_ensure] at h
    cases hrun : Effect.exec
        (monitor.trainAndPromote (monitor.resolvedVersion version) scratch) world with
    | mk answer promoted =>
      rw [hrun] at h
      cases h
      obtain ⟨result, trained, outcome, htrain, hpromote, rfl⟩ := trainAndPromote_ok hrun
      obtain ⟨registry, hload, hgate⟩ := promoteIfBetter_ok hpromote
      rcases hgate with ⟨houtcome, hpasses, hafter⟩ | ⟨houtcome, hfails⟩
      · exact .promoted htriggers scratch outcome houtcome
          ⟨scratch, result, trained, registry, hdir, htrain, hload, hpasses⟩ _ registry _ hafter
      · refine .rejected htriggers scratch outcome houtcome ?_ _
        -- the training is a function of the version and the files, so this is the one it fails
        rintro ⟨scratch', result', trained', registry', hdir', htrain', hload', hpasses⟩
        rw [hdir] at hdir'
        cases hdir'
        rw [htrain] at htrain'
        cases htrain'
        rw [hload] at hload'
        cases hload'
        exact hfails hpasses

theorem triggeredReport_ending {version : String} {scratch : Path} {outcome : PromoteOutcome} :
    (monitor.triggeredReport version scratch outcome).ending =
      if outcome.gatePassed then .promoted else .rejected := rfl

theorem ending_eq_notTriggered_iff {version : Option String} {world after : World C}
    {report : RetrainReport} (h : monitor.RetrainCases version world report after) :
    report.ending = .notTriggered ↔ ¬ monitor.Triggers := by
  cases h with
  | notTriggered hfew => exact iff_of_true rfl hfew
  | rejected htriggers scratch outcome houtcome hfails after =>
    rw [triggeredReport_ending, houtcome]
    exact iff_of_false (by decide) (not_not_intro htriggers)
  | promoted htriggers scratch outcome houtcome hpasses after registry entry hafter =>
    rw [triggeredReport_ending, houtcome]
    exact iff_of_false (by decide) (not_not_intro htriggers)

theorem ending_eq_promoted_iff {version : Option String} {world after : World C}
    {report : RetrainReport} (h : monitor.RetrainCases version world report after) :
    report.ending = .promoted ↔
      monitor.Triggers ∧ monitor.GatePasses (monitor.resolvedVersion version) world := by
  cases h with
  | notTriggered hfew =>
    refine iff_of_false (by simp only [RetrainReport.ending]; decide) ?_
    intro hboth
    exact hfew hboth.1
  | rejected htriggers scratch outcome houtcome hfails after =>
    rw [triggeredReport_ending, houtcome]
    refine iff_of_false (by decide) ?_
    intro hboth
    exact hfails hboth.2
  | promoted htriggers scratch outcome houtcome hpasses after registry entry hafter =>
    rw [triggeredReport_ending, houtcome]
    exact iff_of_true rfl ⟨htriggers, hpasses⟩

/-- What trains is what the request resolves to. -/
theorem trainedVersion_eq {version : Option String} {world after : World C}
    {report : RetrainReport} (h : monitor.RetrainCases version world report after) :
    report.trainedVersion =
      if monitor.Triggers then some (monitor.resolvedVersion version) else none := by
  cases h with
  | notTriggered hfew => rw [if_neg hfew]; rfl
  | rejected htriggers => rw [if_pos htriggers]; rfl
  | promoted htriggers => rw [if_pos htriggers]; rfl

/-- After a promotion `latest` names a version. -/
theorem latestVersion_promoted {version : Option String} {world after : World C}
    {report : RetrainReport} (h : monitor.RetrainCases version world report after)
    (hpromoted : report.ending = .promoted) :
    ∃ promoted, after.registry.latestVersion monitor.settings.modelName = some promoted := by
  cases h with
  | notTriggered hfew => cases hpromoted
  | rejected htriggers scratch outcome houtcome hfails after =>
    rw [triggeredReport_ending, houtcome] at hpromoted
    cases hpromoted
  | promoted htriggers scratch outcome houtcome hpasses after registry entry hafter =>
    exact ⟨entry.version, by rw [hafter, RegistryFile.latestVersion_registered]⟩

end Monitor

end VeriPay.ModelMonitor
