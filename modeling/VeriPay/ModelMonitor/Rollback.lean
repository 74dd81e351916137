import VeriPay.ModelMonitor.Trail

/-!
What a rollback serves. Training and promotion reuse one artifact path for every version,
so a version stays servable as long as nothing else is written to the paths it was
registered with.
-/

namespace VeriPay.ModelMonitor

open Lib

variable {C : Type} {modelName : String}

namespace Registry

/-- A version of a model. -/
def versionOf (registry : Registry) (modelName version : String) : Option VersionEntry :=
  (registry.get? modelName).bind fun model => model.versions.get? version

theorem versionOf_registered (registry : Registry) (modelName version : String)
    (entry : VersionEntry) :
    (registry.registered modelName entry).versionOf modelName version =
      if version = entry.version then some entry else registry.versionOf modelName version := by
  rw [versionOf, get?_registered, Option.bind_some, PyDict.get?_set]
  split_ifs with hversion
  · rfl
  · rw [versionOf]
    cases registry.get? modelName with
    | none => rfl
    | some model => rfl

end Registry

/-- What the paths of a version hold. -/
structure Stored (C : Type) where
  artifact : Option C
  profile : Option C

def storedAt (files : Files C) (entry : VersionEntry) : Stored C where
  artifact := entry.artifactPath.bind files
  profile := entry.referenceProfile.bind files

/-- The world, and what the paths of each version held when it was registered. -/
structure Archive (C : Type) where
  world : World C
  recorded : String → Option (Stored C)

/-- The next world, in which a version may have been registered. -/
def Archive.after (archive : Archive C) (world : World C) (entry : Option VersionEntry) :
    Archive C where
  world := world
  recorded :=
    match entry with
    | none => archive.recorded
    | some entry =>
      Function.update archive.recorded entry.version (some (storedAt world.files entry))

/-- The calls on one model. A retrain keeps a registry of its own. -/
inductive VersionCall (C : Type) (modelName : String)
  | train (call : TrainCall C)
  | retrain (call : TrainCall C)
  | register (call : RegisterCall)
  | promote (call : PromoteCall) (faults : Faults C) (modelName_eq : call.modelName = modelName)
  | rollback (version : String)

inductive VersionAnswer
  | entry (entry : VersionEntry)
  | outcome (outcome : PromoteOutcome)
  | fitted

section Runs

variable (lib : PromotionLib C)

def versionStep (archive : Archive C) :
    VersionCall C modelName → Py VersionAnswer × Archive C
  | .train call =>
    let (answer, world) := Effect.exec (train modelName call) archive.world
    (answer.map .entry, archive.after world answer.toOption)
  | .retrain call =>
    (.ok .fitted, archive.after (call.fitted modelName archive.world) none)
  | .register call =>
    let (answer, world) := Effect.exec (register modelName call) archive.world
    (answer.map .entry, archive.after world answer.toOption)
  | .promote call faults _ =>
    let (answer, world) := Effect.exec (promoteIfBetter lib faults call) archive.world
    let entry := if promotes answer then some (promotedEntry lib call) else none
    (answer.map .outcome, archive.after world entry)
  | .rollback version =>
    let (answer, world) := Effect.exec (rollback modelName version) archive.world
    (answer.map .entry, archive.after world none)

def versionMachine (modelName : String) :
    Machine (Archive C) (VersionCall C modelName) (Py VersionAnswer) where
  step := versionStep lib

/-- The artifact files a call writes. -/
def VersionCall.writes (world : World C) : VersionCall C modelName → Writes C
  | .train call => call.writes modelName
  | .retrain call => call.writes modelName
  | .register _ => []
  | .promote call faults _ => promoteWrites lib faults call world
  | .rollback _ => []

/-- A call leaves the paths of every registered version as they are. -/
def Preserves (world : World C) (call : VersionCall C modelName) : Prop :=
  ∀ registry version entry path content, world.registry.load = .ok registry →
    registry.versionOf modelName version = some entry →
    entry.artifactPath = some path ∨ entry.referenceProfile = some path →
    lastWrite (call.writes lib world) path = some content → content = world.files path

end Runs

/-- The paths of every version hold what they held when it was registered. -/
def Kept (modelName : String) (archive : Archive C) : Prop :=
  ∀ registry version entry, archive.world.registry.load = .ok registry →
    registry.versionOf modelName version = some entry →
    entry.version = version ∧ archive.recorded version = some (storedAt archive.world.files entry)

/-- `latest` answers with the version, and its paths hold what it was registered with. -/
def Serves (modelName : String) (archive : Archive C) (version : String) : Prop :=
  ∃ entry stored,
    Effect.exec (latest modelName) archive.world = (.ok (some entry), archive.world) ∧
      entry.version = version ∧ archive.recorded version = some stored ∧
      entry.artifactPath.bind archive.world.files = stored.artifact ∧
      entry.referenceProfile.bind archive.world.files = stored.profile

section Steps

variable {lib : PromotionLib C} {archive : Archive C}

theorem Preserves.storedAt_eq {call : VersionCall C modelName} {registry : Registry}
    {version : String} {entry : VersionEntry} (h : Preserves lib archive.world call)
    (hload : archive.world.registry.load = .ok registry)
    (hentry : registry.versionOf modelName version = some entry) :
    storedAt (written archive.world.files (call.writes lib archive.world)) entry =
      storedAt archive.world.files entry := by
  have hpath : ∀ path, entry.artifactPath = some path ∨ entry.referenceProfile = some path →
      written archive.world.files (call.writes lib archive.world) path =
        archive.world.files path := by
    intro path hnamed
    rw [written_apply]
    cases hlast : lastWrite (call.writes lib archive.world) path with
    | none => rfl
    | some content => exact h registry version entry path content hload hentry hnamed hlast
  unfold storedAt
  congr 1
  · cases hartifact : entry.artifactPath with
    | none => rfl
    | some path => exact hpath path (Or.inl hartifact)
  · cases hprofile : entry.referenceProfile with
    | none => rfl
    | some path => exact hpath path (Or.inr hprofile)

/-- A call that registers nothing keeps the archive, whatever it does to `latest`. -/
theorem Kept.moved {call : VersionCall C modelName} {world : World C}
    (hkept : Kept modelName archive) (hpreserves : Preserves lib archive.world call)
    (hfiles : world.files = written archive.world.files (call.writes lib archive.world))
    (hregistry : ∀ after, world.registry.load = .ok after →
      ∃ registry, archive.world.registry.load = .ok registry ∧
        ∀ version, after.versionOf modelName version = registry.versionOf modelName version) :
    Kept modelName (archive.after world none) := by
  intro after version entry hload hentry
  obtain ⟨registry, hbefore, hsame⟩ := hregistry after hload
  rw [hsame] at hentry
  obtain ⟨hversion, hrecorded⟩ := hkept registry version entry hbefore hentry
  refine ⟨hversion, ?_⟩
  show archive.recorded version = some (storedAt world.files entry)
  rw [hrecorded, hfiles, hpreserves.storedAt_eq hbefore hentry]

theorem Kept.registered {call : VersionCall C modelName} {world : World C} {registry : Registry}
    {entry : VersionEntry} (hkept : Kept modelName archive)
    (hpreserves : Preserves lib archive.world call)
    (hfiles : world.files = written archive.world.files (call.writes lib archive.world))
    (hbefore : archive.world.registry.load = .ok registry)
    (hregistry : world.registry = .payload (registry.registered modelName entry)) :
    Kept modelName (archive.after world (some entry)) := by
  intro after version other hload hother
  have hafter : world.registry.load = .ok after := hload
  rw [hregistry] at hafter
  cases hafter
  rw [Registry.versionOf_registered] at hother
  show other.version = version ∧
    Function.update archive.recorded entry.version (some (storedAt world.files entry)) version =
      some (storedAt world.files other)
  split_ifs at hother with hversion
  · cases hother
    rw [hversion, Function.update_self]
    exact ⟨rfl, rfl⟩
  · obtain ⟨hsame, hrecorded⟩ := hkept registry version other hbefore hother
    refine ⟨hsame, ?_⟩
    rw [Function.update_of_ne hversion, hrecorded, hfiles, hpreserves.storedAt_eq hbefore hother]

/-- What `register` leaves, where the registry can be read. -/
theorem exec_register (modelName : String) (call : RegisterCall) (world : World C) :
    Effect.exec (register modelName call) world =
      match world.registry.load with
      | .error e => (.error e, world)
      | .ok registry => (.ok call.entry,
          { world with registry := .payload (registry.registered modelName call.entry) }) := by
  rw [register, Effect.exec_bind_ok (Effect.exec_get world)]
  cases hload : world.registry.load with
  | error e => exact Effect.exec_bind_error (Effect.exec_lift _ world)
  | ok registry => exact Effect.exec_bind_ok (Effect.exec_lift _ world)

/-- A training run is recorded with what it fitted. -/
theorem recorded_train {registry : Registry} (hload : archive.world.registry.load = .ok registry)
    (call : TrainCall C) :
    ((versionMachine lib modelName).next archive (.train call)).recorded
        (call.registration modelName).entry.version =
      some { artifact := some call.artifact, profile := some call.profile } := by
  have hexec := exec_register modelName (call.registration modelName)
    (call.fitted modelName archive.world)
  have hread : (call.fitted modelName archive.world).registry.load = .ok registry := hload
  rw [hread] at hexec
  show (archive.after (Effect.exec (register modelName (call.registration modelName)) _).2
    (Effect.exec (register modelName (call.registration modelName)) _).1.toOption).recorded _ = _
  rw [hexec]
  have hnames : ∀ first second : String, first ≠ second →
      call.modelPath modelName ++ [first] ≠ call.modelPath modelName ++ [second] := by
    intro first second hne hsame
    exact hne (List.singleton_inj.mp (List.append_inj hsame rfl).2)
  have hartifact : (call.fitted modelName archive.world).files
      (call.modelPath modelName ++ ["model.joblib"]) = some call.artifact := by
    simp only [TrainCall.fitted, written, TrainCall.writes, List.foldl_cons, List.foldl_nil]
    rw [Function.update_of_ne (hnames _ _ (by decide)),
      Function.update_of_ne (hnames _ _ (by decide)), Function.update_self]
  have hprofile : (call.fitted modelName archive.world).files
      (call.modelPath modelName ++ ["reference_profile.json"]) = some call.profile := by
    simp only [TrainCall.fitted, written, TrainCall.writes, List.foldl_cons, List.foldl_nil]
    rw [Function.update_of_ne (hnames _ _ (by decide)), Function.update_self]
  rw [← hartifact, ← hprofile]
  exact Function.update_self _ _ _

/-- The registry with `latest` pointed at another version. -/
def movedTo (registry : Registry) (modelName version : String) (model : RegisteredModel) :
    Registry :=
  registry.set modelName { model with latest := some version }

theorem versionOf_movedTo {registry : Registry} {model : RegisteredModel}
    (hmodel : registry.get? modelName = some model) (moved version : String) :
    (movedTo registry modelName moved model).versionOf modelName version =
      registry.versionOf modelName version := by
  rw [movedTo, Registry.versionOf, PyDict.get?_set_self, Registry.versionOf, hmodel]
  rfl

/-- A rollback raises and changes nothing, or points `latest` at a registered version. -/
theorem rollback_cases (modelName version : String) (world : World C) :
    (∃ e, Effect.exec (rollback modelName version) world = (.error e, world)) ∨
    ∃ registry model entry, world.registry.load = .ok registry ∧
      registry.get? modelName = some model ∧ model.versions.get? version = some entry ∧
      Effect.exec (rollback modelName version) world =
        (.ok entry, { world with
          registry := .payload (movedTo registry modelName version model) }) := by
  rw [rollback, Effect.exec_bind_ok (Effect.exec_get world)]
  cases hload : world.registry.load with
  | error e => exact Or.inl ⟨e, Effect.exec_bind_error (Effect.exec_lift _ world)⟩
  | ok registry =>
    rw [Effect.exec_bind_ok (Effect.exec_lift _ world)]
    cases hmodel : registry.get? modelName with
    | none => exact Or.inl ⟨_, rfl⟩
    | some model =>
      cases hentry : model.versions.get? version with
      | none =>
        simp only [hentry]
        exact Or.inl ⟨_, rfl⟩
      | some entry =>
        simp only [hentry]
        exact Or.inr ⟨registry, model, entry, rfl, hmodel, hentry, rfl⟩

theorem stays_registered {world : World C} (hsame : world.registry = archive.world.registry) :
    ∀ after, world.registry.load = .ok after →
      ∃ registry, archive.world.registry.load = .ok registry ∧
        ∀ version, after.versionOf modelName version = registry.versionOf modelName version := by
  intro after hload
  rw [hsame] at hload
  exact ⟨after, hload, fun _ => rfl⟩

theorem Kept.of_register {call : VersionCall C modelName} (world : World C)
    (hkept : Kept modelName archive) (hpreserves : Preserves lib archive.world call)
    (hfiles : world.files = written archive.world.files (call.writes lib archive.world))
    (hsame : world.registry = archive.world.registry) (record : RegisterCall) :
    Kept modelName (archive.after (Effect.exec (register modelName record) world).2
      (Effect.exec (register modelName record) world).1.toOption) := by
  have hexec := exec_register modelName record world
  cases hload : world.registry.load with
  | error e =>
    rw [hload] at hexec
    rw [hexec]
    exact hkept.moved hpreserves hfiles (stays_registered hsame)
  | ok registry =>
    rw [hload] at hexec
    rw [hexec]
    exact hkept.registered hpreserves hfiles (by rw [← hsame, hload]) rfl

theorem Kept.of_promote {call : PromoteCall} {faults : Faults C}
    (modelName_eq : call.modelName = modelName) {answer : Py PromoteOutcome} {after : World C}
    (hkept : Kept modelName archive)
    (hpreserves : Preserves lib archive.world (.promote call faults modelName_eq))
    (hcases : PromoteCases lib faults call archive.world answer after) :
    Kept modelName
      (archive.after after (if promotes answer then some (promotedEntry lib call) else none)) := by
  have hfiles := hcases.files_eq
  have hkeeps := keepsRegistry_releaseFiles lib faults call archive.world
  cases hcases with
  | stopped answer hstop hrejected =>
    rw [promotes_of_rejected hrejected]
    exact hkept.moved hpreserves hfiles (stays_registered rfl)
  | broken hread registry hload hpasses e after hreleased =>
    rw [hreleased] at hkeeps
    exact hkept.moved hpreserves hfiles (stays_registered hkeeps)
  | unregistered hread registry hload hpasses e after hreleased file hfile hfault =>
    refine hkept.moved hpreserves hfiles ?_
    rcases hfile with rfl | rfl
    · exact stays_registered rfl
    · intro registry' hload'
      cases hload'
  | promoted hread registry hload hpasses outcome houtcome after hreleased =>
    have hyes : promotes (.ok outcome) = true := houtcome
    rw [hyes]
    subst modelName_eq
    exact hkept.registered hpreserves hfiles hload rfl

/-- One call. -/
theorem Kept.step (hkept : Kept modelName archive) {call : VersionCall C modelName}
    (hpreserves : Preserves lib archive.world call) :
    Kept modelName ((versionMachine lib modelName).next archive call) := by
  cases call with
  | train call =>
    exact hkept.of_register (call.fitted modelName archive.world) hpreserves rfl rfl
      (call.registration modelName)
  | retrain call => exact hkept.moved hpreserves rfl (stays_registered rfl)
  | register call => exact hkept.of_register archive.world hpreserves rfl rfl call
  | promote call faults modelName_eq =>
    exact hkept.of_promote modelName_eq hpreserves
      (promote_cases lib faults call archive.world)
  | rollback version =>
    show Kept modelName (archive.after (Effect.exec (rollback modelName version) archive.world).2
      none)
    rcases rollback_cases modelName version archive.world with
      ⟨e, hexec⟩ | ⟨registry, model, entry, hload, hmodel, hentry, hexec⟩
    · rw [hexec]
      exact hkept.moved hpreserves rfl (stays_registered rfl)
    · rw [hexec]
      refine hkept.moved hpreserves rfl ?_
      intro after hafter
      cases hafter
      exact ⟨registry, hload, versionOf_movedTo hmodel version⟩

theorem exec_latest {world : World C} {registry : Registry} {model : RegisteredModel}
    {version : String} {entry : VersionEntry} (hload : world.registry.load = .ok registry)
    (hmodel : registry.get? modelName = some model) (hlatest : model.latest = some version)
    (hentry : model.versions.get? version = some entry) :
    Effect.exec (latest modelName) world = (.ok (some entry), world) := by
  rw [latest, Effect.exec_bind_ok (Effect.exec_get world),
    Effect.exec_bind_ok (by rw [Effect.exec_lift, hload]), hmodel]
  simp only [hlatest]
  rw [Effect.exec_bind_ok (by rw [Effect.exec_lift, PyDict.item_of_get? hentry])]
  rfl

/-- A kept archive serves the version a rollback names. -/
theorem Kept.serves (hkept : Kept modelName archive) {version : String} {answer : VersionEntry}
    (hanswer : (Effect.exec (rollback modelName version) archive.world).1 = .ok answer) :
    Serves modelName
      (archive.after (Effect.exec (rollback modelName version) archive.world).2 none) version := by
  rcases rollback_cases modelName version archive.world with
    ⟨e, hexec⟩ | ⟨registry, model, entry, hload, hmodel, hentry, hexec⟩
  · rw [hexec] at hanswer
    cases hanswer
  · rw [hexec] at hanswer ⊢
    cases hanswer
    obtain ⟨hversion, hrecorded⟩ := hkept registry version answer hload (by
      rw [Registry.versionOf, hmodel]
      exact hentry)
    refine ⟨answer, _, ?_, hversion, hrecorded, rfl, rfl⟩
    have hmoved := PyDict.get?_set_self registry modelName
      { model with latest := some version }
    exact exec_latest rfl hmoved rfl hentry

end Steps

section Runs

variable (lib : PromotionLib C)

/-- In every run that starts without a version and whose calls leave the paths of registered
versions as they are, a rollback that returns serves the version it names. -/
theorem rollback_serves {world : World C}
    (hnew : ∀ registry, world.registry.load = .ok registry → registry.get? modelName = none)
    (calls : List (VersionCall C modelName))
    (hcalls : ∀ event ∈ (versionMachine lib modelName).trace ⟨world, fun _ => none⟩ calls,
      Preserves lib event.before.world event.call) :
    ∀ event ∈ (versionMachine lib modelName).trace ⟨world, fun _ => none⟩ calls,
      ∀ version answer, event.call = .rollback version → event.answer = .ok answer →
        Serves modelName event.after version := by
  have hinit : Kept modelName (⟨world, fun _ => none⟩ : Archive C) := by
    intro registry version entry hload hentry
    rw [Registry.versionOf, hnew registry hload] at hentry
    cases hentry
  generalize (⟨world, fun _ => none⟩ : Archive C) = archive at hinit hcalls ⊢
  induction calls generalizing archive with
  | nil => simp
  | cons call rest ih =>
    rw [Machine.trace_cons, List.forall_mem_cons] at hcalls ⊢
    refine ⟨?_, ih _ (hinit.step hcalls.1) hcalls.2⟩
    intro version answer hcall hanswer
    have hcall' : call = .rollback version := hcall
    subst hcall'
    have hmap : ((Effect.exec (rollback modelName version) archive.world).1.map
        VersionAnswer.entry) = .ok answer := hanswer
    cases hentry : (Effect.exec (rollback modelName version) archive.world).1 with
    | error e =>
      rw [hentry] at hmap
      cases hmap
    | ok entry => exact hinit.serves hentry

def trainCall (modelDir : Path) (version : String) : TrainCall String where
  modelDir := modelDir
  version := some version
  datasetPath := "transactions.csv"
  datasetFingerprint := "0"
  metrics := ∅
  artifact := "model of " ++ version
  profile := "profile of " ++ version
  sidecar := "sidecar of " ++ version
  versionNow := "now"
  trainedNow := "now"

def emptyArchive : Archive String where
  world := { files := fun _ => none, registry := .absent }
  recorded := fun _ => none

/-- Two trainings into the same directory, and back to the first. -/
def sameDirectory : List (VersionCall String "supervised") :=
  [.train (trainCall ["models"] "v1"), .train (trainCall ["models"] "v2"), .rollback "v1"]

/-- The rollback to `v1` returns, and its paths hold the files of `v2`. -/
theorem sameDirectory_serves_v2 :
    let m := versionMachine plainPromotionLib "supervised"
    let before := m.run emptyArchive (sameDirectory.take 2)
    let after := m.run emptyArchive sameDirectory
    (Effect.exec (rollback "supervised" "v1") before.world).1.isOk = true ∧
      (after.recorded "v1").bind Stored.artifact = some "model of v1" ∧
      (after.recorded "v1").bind Stored.profile = some "profile of v1" ∧
      after.world.files ["models", "supervised", "latest", "model.joblib"] =
        some "model of v2" ∧
      after.world.files ["models", "supervised", "latest", "reference_profile.json"] =
        some "profile of v2" ∧
      ¬ Serves "supervised" after "v1" := by
  intro m before after
  have hartifact : after.world.files ["models", "supervised", "latest", "model.joblib"] =
      some "model of v2" := by
    decide +kernel
  have hrecorded : (after.recorded "v1").bind Stored.artifact = some "model of v1" := by
    decide +kernel
  refine ⟨by decide +kernel, hrecorded, by decide +kernel, hartifact, by decide +kernel, ?_⟩
  intro h
  obtain ⟨entry, stored, hlatest, -, hstored, hsame, -⟩ := h
  have hpath : ((Effect.exec (latest "supervised") after.world).1.toOption.bind id).bind
      VersionEntry.artifactPath = some ["models", "supervised", "latest", "model.joblib"] := by
    decide +kernel
  rw [hlatest] at hpath
  have hnamed : entry.artifactPath = some ["models", "supervised", "latest", "model.joblib"] :=
    hpath
  rw [hnamed, Option.bind_some, hartifact] at hsame
  rw [hstored, Option.bind_some, ← hsame] at hrecorded
  exact absurd hrecorded (by decide)

/-- Two trainings into directories of their own, and back to the first. -/
def ownDirectories : List (VersionCall String "supervised") :=
  [.train (trainCall ["models", "1"] "v1"), .train (trainCall ["models", "2"] "v2"),
    .rollback "v1"]

/-- The second training writes none of the first one's paths. -/
theorem preserves_second : Preserves plainPromotionLib
    ((versionMachine plainPromotionLib "supervised").run emptyArchive
      (ownDirectories.take 1)).world
    (.train (trainCall ["models", "2"] "v2") : VersionCall String "supervised") := by
  intro registry version entry path content hload hentry hnamed hlast
  have hregistry : registry = (∅ : Registry).registered "supervised"
      ((trainCall ["models", "1"] "v1").registration "supervised").entry :=
    (Except.ok.inj hload).symm
  rw [hregistry, Registry.versionOf_registered] at hentry
  split_ifs at hentry
  · cases hentry
    have hunwritten : lastWrite ((trainCall ["models", "2"] "v2").writes "supervised") path =
        none := by
      rcases hnamed with hartifact | hprofile
      · cases hartifact
        decide +kernel
      · cases hprofile
        decide +kernel
    have hwrites : lastWrite ((trainCall ["models", "2"] "v2").writes "supervised") path =
        some content := hlast
    rw [hunwritten] at hwrites
    cases hwrites
  · cases hentry

theorem rollback_serves_first :
    Serves "supervised"
      ((versionMachine plainPromotionLib "supervised").run emptyArchive ownDirectories) "v1" := by
  have hcalls : ∀ event ∈ (versionMachine plainPromotionLib "supervised").trace emptyArchive
      ownDirectories, Preserves plainPromotionLib event.before.world event.call := by
    rw [ownDirectories, Machine.trace_cons, Machine.trace_cons, Machine.trace_cons,
      Machine.trace_nil]
    refine List.forall_mem_cons.mpr ⟨?_, List.forall_mem_cons.mpr
      ⟨preserves_second, List.forall_mem_singleton.mpr ?_⟩⟩
    · intro registry version entry path content hload hentry
      cases hload
      cases hentry
    · intro registry version entry path content hload hentry hnamed hlast
      cases hlast
  exact rollback_serves plainPromotionLib (by intro registry hload; cases hload; rfl) _ hcalls _
    (List.mem_cons_of_mem _ (List.mem_cons_of_mem _ List.mem_cons_self)) "v1" _ rfl rfl

end Runs

end VeriPay.ModelMonitor
