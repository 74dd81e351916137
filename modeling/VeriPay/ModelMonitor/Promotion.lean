import VeriPay.Lib.DecimalText
import VeriPay.Lib.Json
import VeriPay.ModelMonitor.Registry

/-!
Promotion of a retrained model. The gate compares its metrics with the champion's; then
the artifact files are copied over the latest ones, the sidecar is read back and
rewritten, and the version is registered. Any file operation may raise, and what was
written before stays written.
-/

namespace VeriPay.ModelMonitor

open Lib

/-- What promotion calls of Python's library: the parser and printer of the sidecar, the
fingerprint of a dataset, and the texts of numbers and paths. -/
structure PromotionLib (C : Type) where
  loads : C → Py Json
  dumps : Json → C
  fingerprint : String → String
  floatRepr : ℚ → String
  pathText : Path → String

structure RetrainResult where
  version : String
  metrics : Metrics
  scratchDir : Path
  datasetPath : String

structure PromoteOutcome where
  gatePassed : Bool
  version : String
  metrics : Metrics
  latestMetrics : Option Metrics
  reason : String

/-- One call, with the time it registers the version at. -/
structure PromoteCall where
  result : RetrainResult
  modelName : String
  latestDir : Path
  tolerance : ℚ := 1 / 100
  trainedAt : String

/-- The file operations of a call, in their order. -/
inductive PromoteOp
  | readRegistry
  | makeDir
  | exists (filename : String)
  | copy (filename : String)
  | readSidecar
  | writeSidecar
  | loadRegistry
  | writeRegistry
  deriving DecidableEq

/-- An operation that raises. A write may leave something else in its target. -/
structure Fault (C : Type) where
  error : PyErr
  left : Option (Option C) := none

/-- Which operations of a call raise. -/
abbrev Faults (C : Type) := PromoteOp → Option (Fault C)

def noFaults {C : Type} : Faults C := fun _ => none

def firstVersionReason : String := "first version (no champion to compare)"

section Gate

variable {C : Type} (lib : PromotionLib C)

/-- One metric of the retrain against the champion's. -/
def compareMetric (name : String) (new latest tolerance : ℚ) : Bool × String :=
  (latest - tolerance ≤ new,
    name ++ " " ++ fixedText 4 new ++ " vs champion " ++ fixedText 4 latest ++ " (tolerance " ++
      lib.floatRepr tolerance ++ ")")

/-- The gate of `promote_if_better`, with its reason. -/
def gate (latestMetrics : Option Metrics) (newMetrics : Metrics) (tolerance : ℚ) :
    Bool × String :=
  match latestMetrics with
  | none => (true, firstVersionReason)
  | some latestMetrics =>
    if latestMetrics.items.isEmpty then (true, firstVersionReason)
    else match latestMetrics.get? "roc_auc", newMetrics.get? "roc_auc" with
      | some latestAuc, some newAuc => compareMetric lib "roc_auc" newAuc latestAuc tolerance
      | _, _ =>
        match latestMetrics.get? "pr_auc", newMetrics.get? "pr_auc" with
        | some latestPr, some newPr => compareMetric lib "pr_auc" newPr latestPr tolerance
        | _, _ => (true, firstVersionReason)

/-- Where both report a ROC-AUC, a passed gate bounds the new one from below. -/
theorem le_of_gate {latestMetrics newMetrics : Metrics} {tolerance latestAuc newAuc : ℚ}
    (hlatest : latestMetrics.get? "roc_auc" = some latestAuc)
    (hnew : newMetrics.get? "roc_auc" = some newAuc)
    (hgate : (gate lib (some latestMetrics) newMetrics tolerance).1 = true) :
    latestAuc - tolerance ≤ newAuc := by
  have hitems : latestMetrics.items.isEmpty = false := by
    cases hmetrics : latestMetrics.items with
    | nil =>
      rw [PyDict.get?, hmetrics] at hlatest
      cases hlatest
    | cons item rest => rfl
  simp only [gate, hitems, Bool.false_eq_true, if_false, hlatest, hnew, compareMetric,
    decide_eq_true_eq] at hgate
  exact hgate

end Gate

def artifactNames : List String := ["model.joblib", "model.json", "reference_profile.json"]

namespace PromoteCall

variable (call : PromoteCall)

/-- `Path(result.scratch_dir) / model_name / "latest"`. -/
def scratch : Path := call.result.scratchDir ++ [call.modelName, "latest"]

def scratchFile (filename : String) : Path := call.scratch ++ [filename]

def latestFile (filename : String) : Path := call.latestDir ++ [filename]

end PromoteCall

section Effects

variable {C : Type} (lib : PromotionLib C) (faults : Faults C) (call : PromoteCall)

/-- An operation that changes no file. -/
def perform (op : PromoteOp) : Effect (World C) Unit :=
  match faults op with
  | none => pure ()
  | some fault => throw fault.error

/-- The files after a raising write. -/
def Fault.apply (fault : Fault C) (path : Path) (files : Files C) : Files C :=
  match fault.left with
  | none => files
  | some left => Function.update files path left

def writeFile (op : PromoteOp) (path : Path) (content : C) : Effect (World C) Unit :=
  match faults op with
  | none => modify fun world =>
      { world with files := Function.update world.files path (some content) }
  | some fault => do
    modify fun world => { world with files := fault.apply path world.files }
    throw fault.error

/-- `if source.exists(): shutil.copyfile(source, latest_dir / filename)`. -/
def copyArtifact (filename : String) : Effect (World C) Unit := do
  perform faults (.exists filename)
  let world ← get
  match world.files (call.scratchFile filename) with
  | none => pure ()
  | some content =>
    if call.scratchFile filename = call.latestFile filename then throw (.other "SameFileError")
    else writeFile faults (.copy filename) (call.latestFile filename) content

def copyArtifacts : List String → Effect (World C) Unit
  | [] => pure ()
  | filename :: rest => do
    copyArtifact faults call filename
    copyArtifacts rest

/-- `sidecar[key] = value`. -/
def setKey (key : String) (value : Json) : Json → Py Json
  | .obj fields => .ok (.obj (PyDict.setItems key value fields))
  | _ => .error (.typeError "object does not support item assignment")

/-- The sidecar with the path of the profile beside it. -/
def rewritten (text : C) : Py C := do
  let sidecar ← lib.loads text
  let profile := lib.pathText (call.latestFile "reference_profile.json")
  let sidecar ← setKey "reference_profile" (.str profile) sidecar
  return lib.dumps sidecar

def rewriteSidecar : Effect (World C) Unit := do
  perform faults .readSidecar
  let world ← get
  match world.files (call.latestFile "model.json") with
  | none => throw (.other "FileNotFoundError")
  | some text =>
    let content ← (liftM (rewritten lib call text) : Effect (World C) C)
    writeFile faults .writeSidecar (call.latestFile "model.json") content

/-- The record of a promoted version. -/
def promotedEntry : VersionEntry where
  version := call.result.version
  trainedAt := call.trainedAt
  artifactPath := some (call.latestFile "model.joblib")
  metrics := call.result.metrics
  datasetPath := some call.result.datasetPath
  datasetFingerprint := some (lib.fingerprint call.result.datasetPath)
  referenceProfile := some (call.latestFile "reference_profile.json")

/-- A raising write may leave a registry that cannot be read. -/
def registerVersion (entry : VersionEntry) : Effect (World C) Unit := do
  perform faults .loadRegistry
  let world ← get
  let payload ← (liftM world.registry.load : Effect (World C) Registry)
  match faults .writeRegistry with
  | none => modify fun world =>
      { world with registry := .payload (payload.registered call.modelName entry) }
  | some fault => do
    if fault.left.isSome then modify fun world => { world with registry := .damaged }
    throw fault.error

/-- What a passed gate writes beside the registry. -/
def releaseFiles : Effect (World C) Unit := do
  perform faults .makeDir
  copyArtifacts faults call artifactNames
  rewriteSidecar lib faults call

def promoteIfBetter : Effect (World C) PromoteOutcome := do
  perform faults .readRegistry
  let world ← get
  let registry ← (liftM world.registry.load : Effect (World C) Registry)
  let latestMetrics := (registry.latestEntry call.modelName).map VersionEntry.metrics
  let (gatePassed, reason) := gate lib latestMetrics call.result.metrics call.tolerance
  let outcome := {
    gatePassed
    version := call.result.version
    metrics := call.result.metrics
    latestMetrics
    reason }
  if gatePassed then do
    releaseFiles lib faults call
    registerVersion faults call (promotedEntry lib call)
    return outcome
  else return outcome

/-- The champion's metrics, as the gate is given them. -/
def championMetrics (registry : Registry) : Option Metrics :=
  (registry.latestEntry call.modelName).map VersionEntry.metrics

/-- The gate lets the call through. -/
def Passes (registry : Registry) : Prop :=
  (gate lib (championMetrics call registry) call.result.metrics call.tolerance).1 = true

instance (registry : Registry) : Decidable (Passes lib call registry) :=
  inferInstanceAs (Decidable (_ = true))

theorem exec_perform (op : PromoteOp) (world : World C) :
    Effect.exec (perform faults op) world =
      match faults op with
      | none => (.ok (), world)
      | some fault => (.error fault.error, world) := by
  unfold perform
  cases faults op with
  | none => rfl
  | some fault => rfl

theorem exec_writeFile (op : PromoteOp) (path : Path) (content : C) (world : World C) :
    Effect.exec (writeFile faults op path content) world =
      match faults op with
      | none => (.ok (), { world with files := Function.update world.files path (some content) })
      | some fault =>
        (.error fault.error, { world with files := fault.apply path world.files }) := by
  unfold writeFile
  cases faults op with
  | none => rfl
  | some fault => rfl

/-- The method leaves the registry alone. -/
def KeepsRegistry {α : Type} (x : Effect (World C) α) : Prop :=
  ∀ world, (Effect.exec x world).2.registry = world.registry

theorem KeepsRegistry.of_readOnly {α : Type} {x : Effect (World C) α} (h : Effect.ReadOnly x) :
    KeepsRegistry x := fun world => congrArg World.registry (h world)

theorem KeepsRegistry.bind {α β : Type} {x : Effect (World C) α} {f : α → Effect (World C) β}
    (hx : KeepsRegistry x) (hf : ∀ a, KeepsRegistry (f a)) : KeepsRegistry (x >>= f) := by
  intro world
  have hfirst := hx world
  rw [Effect.exec_bind]
  cases hexec : Effect.exec x world with
  | mk answer after =>
    rw [hexec] at hfirst
    cases answer with
    | ok a => exact (hf a after).trans hfirst
    | error e => exact hfirst

theorem keepsRegistry_perform (op : PromoteOp) :
    KeepsRegistry (perform faults op : Effect (World C) Unit) := by
  intro world
  rw [exec_perform]
  cases faults op with
  | none => rfl
  | some fault => rfl

theorem keepsRegistry_writeFile (op : PromoteOp) (path : Path) (content : C) :
    KeepsRegistry (writeFile faults op path content) := by
  intro world
  rw [exec_writeFile]
  cases faults op with
  | none => rfl
  | some fault => rfl

theorem keepsRegistry_copyArtifact (filename : String) :
    KeepsRegistry (copyArtifact faults call filename : Effect (World C) Unit) := by
  refine .bind (keepsRegistry_perform faults _) fun _ => .bind (.of_readOnly .get) fun world => ?_
  cases world.files (call.scratchFile filename) with
  | none => exact .of_readOnly (.pure ())
  | some content =>
    split_ifs
    · exact .of_readOnly (.throw _)
    · exact keepsRegistry_writeFile faults _ _ _

theorem keepsRegistry_copyArtifacts (filenames : List String) :
    KeepsRegistry (copyArtifacts faults call filenames : Effect (World C) Unit) := by
  induction filenames with
  | nil => exact .of_readOnly (.pure ())
  | cons filename rest ih =>
    exact .bind (keepsRegistry_copyArtifact faults call filename) fun _ => ih

theorem keepsRegistry_rewriteSidecar : KeepsRegistry (rewriteSidecar lib faults call) := by
  refine .bind (keepsRegistry_perform faults _) fun _ => .bind (.of_readOnly .get) fun world => ?_
  cases world.files (call.latestFile "model.json") with
  | none => exact .of_readOnly (.throw _)
  | some text =>
    exact .bind (.of_readOnly (.lift _)) fun content => keepsRegistry_writeFile faults _ _ content

theorem keepsRegistry_releaseFiles : KeepsRegistry (releaseFiles lib faults call) :=
  .bind (keepsRegistry_perform faults _) fun _ =>
    .bind (keepsRegistry_copyArtifacts faults call _) fun _ =>
      keepsRegistry_rewriteSidecar lib faults call

/-- How a call can end. -/
inductive PromoteCases (world : World C) : Py PromoteOutcome → World C → Prop
  /-- Nothing is written: the gate rejects, or reading the registry raises. -/
  | stopped (answer : Py PromoteOutcome)
      (hstop : faults .readRegistry ≠ none ∨
        ∀ registry, world.registry.load = .ok registry → ¬ Passes lib call registry)
      (hrejected : ∀ outcome, answer = .ok outcome → outcome.gatePassed = false) :
      PromoteCases world answer world
  /-- A file operation raises, after some of the writes. -/
  | broken (hread : faults .readRegistry = none) (registry : Registry)
      (hload : world.registry.load = .ok registry) (hpasses : Passes lib call registry)
      (e : PyErr) (after : World C)
      (hfiles : Effect.exec (releaseFiles lib faults call) world = (.error e, after)) :
      PromoteCases world (.error e) after
  /-- The files are written, and the registry is not. -/
  | unregistered (hread : faults .readRegistry = none) (registry : Registry)
      (hload : world.registry.load = .ok registry) (hpasses : Passes lib call registry)
      (e : PyErr) (after : World C)
      (hfiles : Effect.exec (releaseFiles lib faults call) world = (.ok (), after))
      (file : RegistryFile) (hfile : file = world.registry ∨ file = .damaged)
      (hfault : faults .loadRegistry ≠ none ∨ faults .writeRegistry ≠ none) :
      PromoteCases world (.error e) { after with registry := file }
  | promoted (hread : faults .readRegistry = none) (registry : Registry)
      (hload : world.registry.load = .ok registry) (hpasses : Passes lib call registry)
      (outcome : PromoteOutcome) (houtcome : outcome.gatePassed = true)
      (after : World C)
      (hfiles : Effect.exec (releaseFiles lib faults call) world = (.ok (), after)) :
      PromoteCases world (.ok outcome)
        { after with
          registry := .payload (registry.registered call.modelName (promotedEntry lib call)) }

/-- Registering the version is the last thing that can raise. -/
theorem registerVersion_cases (entry : VersionEntry) {world : World C} {registry : Registry}
    (hload : world.registry.load = .ok registry) :
    (∃ e file, Effect.exec (registerVersion faults call entry) world =
        (.error e, { world with registry := file }) ∧
      (file = world.registry ∨ file = .damaged) ∧
      (faults .loadRegistry ≠ none ∨ faults .writeRegistry ≠ none)) ∨
    Effect.exec (registerVersion faults call entry) world =
      (.ok (), { world with
        registry := .payload (registry.registered call.modelName entry) }) := by
  unfold registerVersion
  cases hread : faults .loadRegistry with
  | some fault =>
    have hperform : Effect.exec (perform faults .loadRegistry) world =
        (.error fault.error, world) := by rw [exec_perform, hread]
    refine Or.inl ⟨fault.error, world.registry, ?_, Or.inl rfl, Or.inl (by simp)⟩
    rw [Effect.exec_bind_error hperform]
  | none =>
    have hperform : Effect.exec (perform faults .loadRegistry) world = (.ok (), world) := by
      rw [exec_perform, hread]
    rw [Effect.exec_bind_ok hperform, Effect.exec_bind_ok (Effect.exec_get world),
      Effect.exec_bind_ok (by rw [Effect.exec_lift, hload])]
    cases hwrite : faults .writeRegistry with
    | none => exact Or.inr rfl
    | some fault =>
      cases hleft : fault.left.isSome with
      | false =>
        refine Or.inl ⟨fault.error, world.registry, ?_, Or.inl rfl, Or.inr (by simp)⟩
        simp only [hleft]
        rfl
      | true =>
        refine Or.inl ⟨fault.error, .damaged, ?_, Or.inr rfl, Or.inr (by simp)⟩
        simp only [hleft]
        rfl

/-- What follows a passed gate. -/
theorem released_cases {world : World C} {registry : Registry} {outcome : PromoteOutcome}
    (hread : faults .readRegistry = none) (hload : world.registry.load = .ok registry)
    (hpasses : Passes lib call registry) (houtcome : outcome.gatePassed = true) :
    let released : Effect (World C) PromoteOutcome := do
      releaseFiles lib faults call
      registerVersion faults call (promotedEntry lib call)
      return outcome
    PromoteCases lib faults call world (Effect.exec released world).1
      (Effect.exec released world).2 := by
  intro released
  cases hfiles : Effect.exec (releaseFiles lib faults call) world with
  | mk answer after =>
    cases answer with
    | error e =>
      rw [Effect.exec_bind_error hfiles]
      exact .broken hread registry hload hpasses e after hfiles
    | ok _ =>
      have hkept := keepsRegistry_releaseFiles lib faults call world
      rw [hfiles] at hkept
      have hloadAfter : after.registry.load = .ok registry := by rw [hkept, hload]
      rw [Effect.exec_bind_ok hfiles]
      rcases registerVersion_cases faults call (promotedEntry lib call) hloadAfter with
        ⟨e, file, hregister, hfile, hfault⟩ | hregister
      · rw [Effect.exec_bind_error hregister]
        rw [hkept] at hfile
        exact .unregistered hread registry hload hpasses e after hfiles file hfile hfault
      · rw [Effect.exec_bind_ok hregister]
        exact .promoted hread registry hload hpasses outcome houtcome after hfiles

theorem promote_cases (world : World C) :
    PromoteCases lib faults call world (Effect.exec (promoteIfBetter lib faults call) world).1
      (Effect.exec (promoteIfBetter lib faults call) world).2 := by
  unfold promoteIfBetter
  cases hread : faults .readRegistry with
  | some fault =>
    have hperform : Effect.exec (perform faults .readRegistry) world =
        (.error fault.error, world) := by rw [exec_perform, hread]
    rw [Effect.exec_bind_error hperform]
    exact .stopped _ (Or.inl (by simp [hread])) fun _ h => by cases h
  | none =>
    have hperform : Effect.exec (perform faults .readRegistry) world = (.ok (), world) := by
      rw [exec_perform, hread]
    rw [Effect.exec_bind_ok hperform, Effect.exec_bind_ok (Effect.exec_get world)]
    cases hload : world.registry.load with
    | error e =>
      rw [Effect.exec_bind_error (Effect.exec_lift _ world)]
      refine .stopped _ (Or.inr ?_) fun _ h => by cases h
      intro registry h
      rw [hload] at h
      cases h
    | ok registry =>
      rw [Effect.exec_bind_ok (Effect.exec_lift _ world)]
      cases hgate : gate lib (championMetrics call registry) call.result.metrics
          call.tolerance with
      | mk gatePassed reason =>
        have hpair := hgate
        unfold championMetrics at hpair
        simp only [hpair]
        cases gatePassed with
        | false =>
          refine .stopped _ (Or.inr ?_) ?_
          · intro registry' h
            rw [hload] at h
            cases h
            rw [Passes, hgate]
            exact Bool.false_ne_true
          · intro outcome h
            cases h
            rfl
        | true =>
          have hpasses : Passes lib call registry := by rw [Passes, hgate]
          simp only [if_true]
          exact released_cases lib faults call hread hload hpasses rfl

end Effects

end VeriPay.ModelMonitor
