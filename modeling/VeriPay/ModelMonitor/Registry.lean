import Mathlib.Data.Rat.Defs
import Mathlib.Logic.Function.Basic
import VeriPay.Lib.Effect
import VeriPay.Lib.PyDict

/-!
The model registry and the files beside it. `ml/registry` and the model monitor read and
write one registry file; it is kept apart from the artifact files, which are a map from
paths to contents.
-/

namespace VeriPay.ModelMonitor

open Lib

/-- A path by its segments, so that `dir / name` is `dir ++ [name]`. -/
abbrev Path := List String

abbrev Files (C : Type) := Path → Option C

abbrev Metrics := PyDict String ℚ

structure VersionEntry where
  version : String
  trainedAt : String
  artifactPath : Option Path
  metrics : Metrics
  datasetPath : Option String
  datasetFingerprint : Option String
  referenceProfile : Option Path

/-- `{"latest": None, "versions": {}}`, until a version is registered. -/
structure RegisteredModel where
  latest : Option String := none
  versions : PyDict String VersionEntry := ∅

/-- The `models` of the registry payload. -/
abbrev Registry := PyDict String RegisteredModel

/-- The registry file; a damaged one is not JSON. -/
inductive RegistryFile
  | absent
  | damaged
  | payload (registry : Registry)

structure World (C : Type) where
  files : Files C
  registry : RegistryFile

namespace RegistryFile

/-- `_load()`, and what `_register_version` and `_latest_registry_entry` read. -/
def load : RegistryFile → Py Registry
  | absent => .ok ∅
  | damaged => .error (.valueError "Expecting value")
  | payload registry => .ok registry

/-- The version `latest` names, where the file can be read. -/
def latestVersion (file : RegistryFile) (modelName : String) : Option String :=
  match file.load with
  | .error _ => none
  | .ok registry => (registry.get? modelName).bind RegisteredModel.latest

end RegistryFile

namespace Registry

def latestEntry (registry : Registry) (modelName : String) : Option VersionEntry :=
  (registry.get? modelName).bind fun model =>
    model.latest.bind fun version => model.versions.get? version

/-- The payload with a version set and `latest` pointed at it. -/
def registered (registry : Registry) (modelName : String) (entry : VersionEntry) : Registry :=
  let model := (registry.get? modelName).getD {}
  registry.set modelName
    { latest := some entry.version, versions := model.versions.set entry.version entry }

theorem get?_registered (registry : Registry) (modelName : String) (entry : VersionEntry) :
    PyDict.get? (registry.registered modelName entry) modelName =
      some { latest := some entry.version
             versions := ((registry.get? modelName).getD {}).versions.set entry.version entry } :=
  PyDict.get?_set_self _ _ _

@[simp] theorem latestEntry_registered (registry : Registry) (modelName : String)
    (entry : VersionEntry) :
    (registry.registered modelName entry).latestEntry modelName = some entry := by
  rw [latestEntry, get?_registered]
  exact PyDict.get?_set_self _ _ _

end Registry

@[simp] theorem RegistryFile.latestVersion_registered (registry : Registry) (modelName : String)
    (entry : VersionEntry) :
    (payload (registry.registered modelName entry)).latestVersion modelName =
      some entry.version := by
  rw [latestVersion, load]
  show ((registry.registered modelName entry).get? modelName).bind RegisteredModel.latest = _
  rw [Registry.get?_registered]
  rfl

end VeriPay.ModelMonitor
