import VeriPay.Lib.Machine
import VeriPay.ModelMonitor.Rollback

/-!
One registry file under the calls of two modules: `register` and `rollback` of
`ml/registry`, and the model monitor's `_register_version`. Each of them replaces the
record of one model by one that keeps every version and points `latest` at one.
-/

namespace VeriPay.ModelMonitor

open Lib

/-- `latest` names a version, and each version stands under its own name. -/
structure RegisteredModel.Sound (model : RegisteredModel) : Prop where
  latest_mem : ∀ version, model.latest = some version →
    ∃ entry, model.versions.get? version = some entry
  version_eq : ∀ version entry, model.versions.get? version = some entry → entry.version = version

/-- The other record has every version of this one. -/
def RegisteredModel.Within (model other : RegisteredModel) : Prop :=
  ∀ version entry, model.versions.get? version = some entry →
    ∃ entry, other.versions.get? version = some entry

namespace RegistryFile

/-- The record of a model, where the file can be read. -/
def model? (file : RegistryFile) (modelName : String) : Option RegisteredModel :=
  match file.load with
  | .error _ => none
  | .ok registry => registry.get? modelName

/-- Every model of the file is sound. -/
def Sound (file : RegistryFile) : Prop :=
  ∀ modelName model, file.model? modelName = some model → model.Sound

def HasVersion (file : RegistryFile) (modelName version : String) : Prop :=
  ∃ model entry, file.model? modelName = some model ∧ model.versions.get? version = some entry

theorem sound_absent : Sound absent := by
  intro modelName model hmodel
  cases hmodel

theorem model?_payload (registry : Registry) (modelName : String) :
    (payload registry).model? modelName = registry.get? modelName := rfl

theorem model?_of_load {file : RegistryFile} {registry : Registry}
    (hload : file.load = .ok registry) (modelName : String) :
    file.model? modelName = registry.get? modelName := by
  rw [model?, hload]

end RegistryFile

/-- The calls on the file, by the model each is about. -/
inductive RegistryCall
  | register (modelName : String) (call : RegisterCall)
  | rollback (modelName version : String)
  | registerVersion (call : PromoteCall) (entry : VersionEntry)

namespace RegistryCall

def modelName : RegistryCall → String
  | register modelName _ => modelName
  | rollback modelName _ => modelName
  | registerVersion call _ => call.modelName

variable {C : Type}

/-- A call, and the entry it answers with. `_register_version` answers with none. -/
def perform : RegistryCall → Effect (World C) (Option VersionEntry)
  | register modelName call => do
    let entry ← ModelMonitor.register modelName call
    return some entry
  | rollback modelName version => do
    let entry ← ModelMonitor.rollback modelName version
    return some entry
  | registerVersion call entry => do
    ModelMonitor.registerVersion noFaults call entry
    return none

end RegistryCall

def registryMachine (C : Type) :
    Machine (World C) RegistryCall (Py (Option VersionEntry)) where
  step world call := Effect.exec call.perform world

section Steps

variable {C : Type}

/-- The registry with the record of one model replaced by a sound one that keeps its
versions. -/
def Advances (modelName : String) (before after : RegistryFile) : Prop :=
  ∃ registry model, before.load = .ok registry ∧
    after = .payload (registry.set modelName model) ∧
    (before.Sound → model.Sound) ∧ ((registry.get? modelName).getD {}).Within model

theorem advances_registered {before : RegistryFile} {registry : Registry}
    (hload : before.load = .ok registry) (modelName : String) (entry : VersionEntry) :
    Advances modelName before (.payload (registry.registered modelName entry)) := by
  refine ⟨registry, _, hload, rfl, ?_, ?_⟩
  · intro hsound
    constructor
    · intro version hlatest
      cases hlatest
      exact ⟨entry, PyDict.get?_set_self _ _ _⟩
    · intro version other hother
      rw [PyDict.get?_set] at hother
      split_ifs at hother with hversion
      · cases hother
        exact hversion.symm
      · cases hmodel : registry.get? modelName with
        | none =>
          rw [hmodel] at hother
          cases hother
        | some model =>
          rw [hmodel] at hother
          refine (hsound modelName model ?_).version_eq version other hother
          rw [RegistryFile.model?_of_load hload, hmodel]
  · intro version other hother
    show ∃ entry', PyDict.get? (PyDict.set _ entry.version entry) version = some entry'
    rw [PyDict.get?_set]
    split_ifs
    · exact ⟨entry, rfl⟩
    · exact ⟨other, hother⟩

theorem advances_movedTo {before : RegistryFile} {registry : Registry} {modelName version : String}
    {model : RegisteredModel} {entry : VersionEntry} (hload : before.load = .ok registry)
    (hmodel : registry.get? modelName = some model)
    (hentry : model.versions.get? version = some entry) :
    Advances modelName before (.payload (movedTo registry modelName version model)) := by
  refine ⟨registry, _, hload, rfl, ?_, ?_⟩
  · intro hsound
    constructor
    · intro moved hlatest
      cases hlatest
      exact ⟨entry, hentry⟩
    · refine (hsound modelName model ?_).version_eq
      rw [RegistryFile.model?_of_load hload, hmodel]
  · rw [hmodel]
    exact fun _ other hother => ⟨other, hother⟩

/-- What `_register_version` leaves, where its file operations succeed. -/
theorem exec_registerVersion (call : PromoteCall) (entry : VersionEntry) (world : World C) :
    Effect.exec (registerVersion noFaults call entry) world =
      match world.registry.load with
      | .error e => (.error e, world)
      | .ok registry => (.ok (), { world with
          registry := .payload (registry.registered call.modelName entry) }) := by
  cases hload : world.registry.load with
  | error e =>
    unfold registerVersion
    rw [Effect.exec_bind_ok (exec_perform noFaults .loadRegistry world),
      Effect.exec_bind_ok (Effect.exec_get world)]
    exact Effect.exec_bind_error (by rw [Effect.exec_lift, hload])
  | ok registry =>
    rcases registerVersion_cases noFaults call entry hload with ⟨e, file, -, -, hfault⟩ | hexec
    · simp [noFaults] at hfault
    · exact hexec

/-- A call raises and leaves the world alone, or advances the record of its model. -/
theorem perform_cases (call : RegistryCall) (world : World C) :
    (∃ e, Effect.exec call.perform world = (.error e, world)) ∨
    ∃ answer file, Effect.exec call.perform world =
        (.ok answer, { world with registry := file }) ∧
      Advances call.modelName world.registry file := by
  cases call with
  | register modelName call =>
    have hexec := exec_register modelName call world
    cases hload : world.registry.load with
    | error e =>
      rw [hload] at hexec
      exact Or.inl ⟨e, Effect.exec_bind_error hexec⟩
    | ok registry =>
      rw [hload] at hexec
      exact Or.inr ⟨_, _, Effect.exec_bind_ok hexec,
        advances_registered hload modelName call.entry⟩
  | rollback modelName version =>
    rcases rollback_cases modelName version world with ⟨e, hexec⟩ |
      ⟨registry, model, entry, hload, hmodel, hentry, hexec⟩
    · exact Or.inl ⟨e, Effect.exec_bind_error hexec⟩
    · exact Or.inr ⟨_, _, Effect.exec_bind_ok hexec, advances_movedTo hload hmodel hentry⟩
  | registerVersion call entry =>
    have hexec := exec_registerVersion call entry world
    cases hload : world.registry.load with
    | error e =>
      rw [hload] at hexec
      exact Or.inl ⟨e, Effect.exec_bind_error hexec⟩
    | ok registry =>
      rw [hload] at hexec
      exact Or.inr ⟨_, _, Effect.exec_bind_ok hexec,
        advances_registered hload call.modelName entry⟩

/-- Advancing one model leaves the others alone. -/
theorem Advances.model?_of_ne {modelName other : String} {before after : RegistryFile}
    (h : Advances modelName before after) (hne : other ≠ modelName) :
    after.model? other = before.model? other := by
  obtain ⟨registry, model, hload, rfl, -, -⟩ := h
  rw [RegistryFile.model?_payload, PyDict.get?_set_of_ne _ _ hne,
    RegistryFile.model?_of_load hload]

theorem Advances.model?_self {modelName : String} {before after : RegistryFile}
    (h : Advances modelName before after) :
    ∃ model, after.model? modelName = some model ∧ (before.Sound → model.Sound) ∧
      ((before.model? modelName).getD {}).Within model := by
  obtain ⟨registry, model, hload, rfl, hsound, hwithin⟩ := h
  refine ⟨model, PyDict.get?_set_self _ _ _, hsound, ?_⟩
  rw [RegistryFile.model?_of_load hload]
  exact hwithin

theorem Advances.sound {modelName : String} {before after : RegistryFile}
    (h : Advances modelName before after) (hsound : before.Sound) : after.Sound := by
  intro other record hrecord
  by_cases hother : other = modelName
  · obtain ⟨model, hmodel, hkept, -⟩ := h.model?_self
    rw [hother, hmodel] at hrecord
    cases hrecord
    exact hkept hsound
  · rw [h.model?_of_ne hother] at hrecord
    exact hsound other record hrecord

theorem Advances.hasVersion {modelName other version : String} {before after : RegistryFile}
    (h : Advances modelName before after) (hversion : before.HasVersion other version) :
    after.HasVersion other version := by
  obtain ⟨record, entry, hrecord, hentry⟩ := hversion
  by_cases hother : other = modelName
  · obtain ⟨model, hmodel, -, hwithin⟩ := h.model?_self
    subst hother
    rw [hrecord] at hwithin
    obtain ⟨kept, hkept⟩ := hwithin version entry hentry
    exact ⟨model, kept, hmodel, hkept⟩
  · exact ⟨record, entry, by rw [h.model?_of_ne hother, hrecord], hentry⟩

/-- A call leaves the file as it is, or advances the record of its model. -/
theorem next_registry (call : RegistryCall) (world : World C) :
    ((registryMachine C).next world call).registry = world.registry ∨
      Advances call.modelName world.registry ((registryMachine C).next world call).registry := by
  show (Effect.exec call.perform world).2.registry = _ ∨
    Advances _ _ (Effect.exec call.perform world).2.registry
  rcases perform_cases call world with ⟨e, hexec⟩ | ⟨answer, file, hexec, hadvances⟩
  · rw [hexec]
    exact Or.inl rfl
  · rw [hexec]
    exact Or.inr hadvances

/-- What advancing a record keeps, a run keeps. -/
theorem run_keeps {P : RegistryFile → Prop}
    (hkeeps : ∀ {modelName before after}, Advances modelName before after → P before → P after)
    {world : World C} (hworld : P world.registry) (calls : List RegistryCall) :
    P ((registryMachine C).run world calls).registry := by
  refine (registryMachine C).run_history_invariant
    (P := fun _ world => P world.registry) hworld calls ?_
  intro pre call post _ hbefore
  rcases next_registry call ((registryMachine C).run world pre) with hsame | hadvances
  · rw [hsame]
    exact hbefore
  · exact hkeeps hadvances hbefore

theorem run_sound {world : World C} (hsound : world.registry.Sound) (calls : List RegistryCall) :
    ((registryMachine C).run world calls).registry.Sound :=
  run_keeps (fun hadvances => hadvances.sound) hsound calls

/-- No version is ever removed. -/
theorem run_hasVersion {world : World C} {modelName version : String}
    (hversion : world.registry.HasVersion modelName version) (calls : List RegistryCall) :
    ((registryMachine C).run world calls).registry.HasVersion modelName version :=
  run_keeps (P := fun file => file.HasVersion modelName version)
    (fun hadvances => hadvances.hasVersion) hversion calls

/-- Every state a run reaches is sound and has all versions of the states before it, each call
leaves the models it is not about alone, and a call that raises leaves the file alone. -/
theorem registry_runs_sound {world : World C} (hsound : world.registry.Sound)
    (calls : List RegistryCall) :
    ((registryMachine C).run world calls).registry.Sound ∧
      (∀ pre post, calls = pre ++ post → ∀ modelName version,
        ((registryMachine C).run world pre).registry.HasVersion modelName version →
          ((registryMachine C).run world calls).registry.HasVersion modelName version) ∧
      ∀ event ∈ (registryMachine C).trace world calls,
        (∀ modelName, modelName ≠ event.call.modelName →
          event.after.registry.model? modelName = event.before.registry.model? modelName) ∧
        ∀ e, event.answer = .error e → event.after.registry = event.before.registry := by
  refine ⟨run_sound hsound calls, ?_, ?_⟩
  · rintro pre post rfl modelName version hversion
    rw [Machine.run_append]
    exact run_hasVersion hversion post
  · intro event hevent
    obtain ⟨pre, call, post, -, rfl⟩ :=
      ((registryMachine C).mem_trace_iff world calls event).mp hevent
    refine ⟨?_, ?_⟩
    · intro modelName hne
      rcases next_registry call ((registryMachine C).run world pre) with hsame | hadvances
      · exact congrArg (fun file => RegistryFile.model? file modelName) hsame
      · exact hadvances.model?_of_ne hne
    · intro e hanswer
      rcases perform_cases call ((registryMachine C).run world pre) with ⟨e', hexec⟩ |
        ⟨answer, file, hexec, -⟩
      · exact congrArg (fun step => step.2.registry) hexec
      · have hok : (Effect.exec call.perform ((registryMachine C).run world pre)).1 = .error e :=
          hanswer
        rw [hexec] at hok
        cases hok

/-- From a missing file: a version is registered, and a rollback to another one raises. -/
theorem registry_runs_sound_absent :
    ((registryMachine Unit).run ⟨fun _ => none, .absent⟩
      [.register "amount" { version := some "1", versionNow := "2", trainedNow := "2" },
        .rollback "amount" "2"]).registry.Sound :=
  (registry_runs_sound RegistryFile.sound_absent _).1

end Steps

end VeriPay.ModelMonitor
