import Mathlib.Data.List.Induction
import VeriPay.ModelMonitor.Registry

/-!
The registry's own operations, and the end of a training run. What a training run fits is
an input: its model, profile and sidecar are the contents it writes.
-/

namespace VeriPay.ModelMonitor

open Lib

variable {C : Type}

/-- `text or fallback`. -/
def orText (text : Option String) (fallback : String) : String :=
  match text with
  | none => fallback
  | some text => if text = "" then fallback else text

/-- The arguments of `register`, with the two times it may read. -/
structure RegisterCall where
  version : Option String := none
  artifactPath : Option Path := none
  metrics : Option Metrics := none
  datasetPath : Option String := none
  datasetFingerprint : Option String := none
  trainedAt : Option String := none
  referenceProfile : Option Path := none
  versionNow : String
  trainedNow : String

def RegisterCall.entry (call : RegisterCall) : VersionEntry where
  version := orText call.version call.versionNow
  trainedAt := orText call.trainedAt call.trainedNow
  artifactPath := call.artifactPath
  metrics := call.metrics.getD ∅
  datasetPath := call.datasetPath
  datasetFingerprint := call.datasetFingerprint
  referenceProfile := call.referenceProfile

def register (modelName : String) (call : RegisterCall) : Effect (World C) VersionEntry := do
  let world ← get
  let payload ← (liftM world.registry.load : Effect (World C) Registry)
  modify fun world =>
    { world with registry := .payload (payload.registered modelName call.entry) }
  return call.entry

def rollback (modelName toVersion : String) : Effect (World C) VersionEntry := do
  let world ← get
  let payload ← (liftM world.registry.load : Effect (World C) Registry)
  match payload.get? modelName with
  | none => throw (.keyError ("Unknown model: " ++ modelName))
  | some model =>
    match model.versions.get? toVersion with
    | none => throw (.keyError ("Unknown version " ++ toVersion ++ " for model " ++ modelName))
    | some entry => do
      let moved := { model with latest := some toVersion }
      modify fun world => { world with registry := .payload (payload.set modelName moved) }
      return entry

/-- `latest(model_name)`. -/
def latest (modelName : String) : Effect (World C) (Option VersionEntry) := do
  let world ← get
  let payload ← (liftM world.registry.load : Effect (World C) Registry)
  match payload.get? modelName with
  | none => return none
  | some model =>
    match model.latest with
    | none => return none
    | some version => do
      let entry ← (liftM (model.versions.item version) : Effect (World C) VersionEntry)
      return some entry

/-- Writes in their order, each with what it leaves in its target. -/
abbrev Writes (C : Type) := List (Path × Option C)

/-- The files after a row of writes. -/
def written (files : Files C) (writes : Writes C) : Files C :=
  writes.foldl (fun files write => Function.update files write.1 write.2) files

/-- What the last write to a path leaves there. -/
def lastWrite (writes : Writes C) (path : Path) : Option (Option C) :=
  (writes.reverse.find? fun write => write.1 = path).map Prod.snd

theorem written_append (files : Files C) (writes later : Writes C) :
    written files (writes ++ later) = written (written files writes) later :=
  List.foldl_append

/-- A file holds what was last written to it. -/
theorem written_apply (files : Files C) (writes : Writes C) (path : Path) :
    written files writes path = (lastWrite writes path).getD (files path) := by
  induction writes using List.reverseRecOn with
  | nil => rfl
  | append_singleton writes write ih =>
    rw [written_append, lastWrite, List.reverse_append, List.reverse_singleton,
      List.singleton_append, List.find?_cons]
    by_cases hpath : write.1 = path
    · simp only [hpath, decide_true, Option.map_some, Option.getD_some]
      subst hpath
      exact Function.update_self _ _ _
    · simp only [hpath, decide_false]
      rw [← lastWrite, ← ih]
      exact Function.update_of_ne (Ne.symm hpath) _ _

/-- A training run, by what it fitted and where it writes it. -/
structure TrainCall (C : Type) where
  modelDir : Path
  version : Option String := none
  datasetPath : String
  datasetFingerprint : String
  metrics : Metrics
  artifact : C
  profile : C
  sidecar : C
  versionNow : String
  trainedNow : String

namespace TrainCall

variable (call : TrainCall C) (modelName : String)

/-- `Path(model_dir) / MODEL_NAME / "latest"`. -/
def modelPath : Path := call.modelDir ++ [modelName, "latest"]

/-- The files of a training run, in the order they are written. -/
def writes : Writes C := [
  (call.modelPath modelName ++ ["model.joblib"], some call.artifact),
  (call.modelPath modelName ++ ["reference_profile.json"], some call.profile),
  (call.modelPath modelName ++ ["model.json"], some call.sidecar)]

def registration : RegisterCall where
  version := some (orText call.version call.versionNow)
  artifactPath := some (call.modelPath modelName ++ ["model.joblib"])
  metrics := some call.metrics
  datasetPath := some call.datasetPath
  datasetFingerprint := some call.datasetFingerprint
  referenceProfile := some (call.modelPath modelName ++ ["reference_profile.json"])
  versionNow := call.versionNow
  trainedNow := call.trainedNow

/-- The world with those files written. -/
def fitted (world : World C) : World C :=
  { world with files := written world.files (call.writes modelName) }

end TrainCall

/-- `train`, from the point where the model is fitted. -/
def train (modelName : String) (call : TrainCall C) : Effect (World C) VersionEntry := do
  modify (call.fitted modelName)
  register modelName (call.registration modelName)

end VeriPay.ModelMonitor
