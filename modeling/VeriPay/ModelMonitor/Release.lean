import VeriPay.Lib.Machine
import VeriPay.ModelMonitor.Champion

/-!
Which version the latest files come from. A release is kept beside the world for every
registered version; a promotion is whole when the three files are those of the release
the registry names.
-/

namespace VeriPay.ModelMonitor

open Lib

variable {C : Type}

/-- The three files of a retrain, as its promotion would write them. -/
structure Release (C : Type) where
  model : Option C
  sidecar : Option C
  profile : Option C

def releaseOf (lib : PromotionLib C) (call : PromoteCall) (files : Files C) : Release C where
  model := files (call.scratchFile "model.joblib")
  sidecar := (files (call.scratchFile "model.json")).bind fun text =>
    (rewritten lib call text).toOption
  profile := files (call.scratchFile "reference_profile.json")

/-- The world, and the release each version was last registered with. -/
structure Shelf (C : Type) where
  world : World C
  releases : String → Option (Release C)

/-- A call on one model and one directory. -/
structure SlottedCall (C : Type) (modelName : String) (latestDir : Path) where
  call : PromoteCall
  faults : Faults C
  modelName_eq : call.modelName = modelName
  latestDir_eq : call.latestDir = latestDir

variable {modelName : String} {latestDir : Path}

def releaseMachine (lib : PromotionLib C) (modelName : String) (latestDir : Path) :
    Machine (Shelf C) (SlottedCall C modelName latestDir) (Py PromoteOutcome) where
  step shelf slotted :=
    let (answer, world) :=
      Effect.exec (promoteIfBetter lib slotted.faults slotted.call) shelf.world
    let releases :=
      if promotes answer then
        Function.update shelf.releases slotted.call.result.version
          (some (releaseOf lib slotted.call shelf.world.files))
      else shelf.releases
    (answer, { world, releases })

/-- The latest files are those of a release. -/
structure Holds (latestDir : Path) (files : Files C) (release : Release C) : Prop where
  model : files (latestDir ++ ["model.joblib"]) = release.model
  sidecar : files (latestDir ++ ["model.json"]) = release.sidecar
  profile : files (latestDir ++ ["reference_profile.json"]) = release.profile

/-- The latest files come from the version `latest` names, or both are empty. -/
def Whole (modelName : String) (latestDir : Path) (shelf : Shelf C) : Prop :=
  match shelf.world.registry.latestVersion modelName with
  | none => Holds latestDir shelf.world.files ⟨none, none, none⟩
  | some version => ∃ release, shelf.releases version = some release ∧
      Holds latestDir shelf.world.files release

section Conditions

variable (lib : PromotionLib C) (faults : Faults C) (call : PromoteCall) (world : World C)

/-- Copying these files, and then the sidecar, raises before anything is written. -/
def StopsCopying : List String → Prop
  | [] =>
    faults .readSidecar ≠ none ∨
      match world.files (call.latestFile "model.json") with
      | none => True
      | some text =>
        (∃ e, rewritten lib call text = .error e) ∨
          ∃ fault, faults .writeSidecar = some fault ∧ fault.left = none
  | filename :: rest =>
    faults (.exists filename) ≠ none ∨
      match world.files (call.scratchFile filename) with
      | none => StopsCopying rest
      | some _ =>
        call.scratch = call.latestDir ∨
          ∃ fault, faults (.copy filename) = some fault ∧ fault.left = none

/-- The call ends before it writes a file. -/
inductive StopsBefore : Prop
  | registry (h : faults .readRegistry ≠ none)
  | gate (h : ∀ registry, world.registry.load = .ok registry → ¬ Passes lib call registry)
  | directory (h : faults .makeDir ≠ none)
  | copying (h : StopsCopying lib faults call world artifactNames)

/-- No operation raises, and no latest file stays that the retrain does not replace. -/
structure Completes : Prop where
  no_fault : ∀ op, faults op = none
  apart : call.scratch ≠ call.latestDir
  sidecar : ∃ text fields, world.files (call.scratchFile "model.json") = some text ∧
    lib.loads text = .ok (.obj fields)
  replaced : ∀ filename ∈ artifactNames, world.files (call.scratchFile filename) = none →
    world.files (call.latestFile filename) = none

end Conditions

section Stopping

variable {lib : PromotionLib C} {faults : Faults C} {call : PromoteCall} {world : World C}

/-- A raising write that leaves its target alone changes nothing. -/
theorem exec_writeFile_kept {op : PromoteOp} {fault : Fault C} (hop : faults op = some fault)
    (hleft : fault.left = none) (path : Path) (content : C) :
    Effect.exec (writeFile faults op path content) world = (.error fault.error, world) := by
  rw [exec_writeFile, hop]
  simp only [Fault.apply, hleft]

theorem exec_perform_of_some {op : PromoteOp} {fault : Fault C} (hop : faults op = some fault) :
    Effect.exec (perform faults op) world = (.error fault.error, world) := by
  rw [exec_perform, hop]

theorem exec_perform_of_ne (world : World C) {op : PromoteOp} (hop : faults op ≠ none) :
    ∃ e, Effect.exec (perform faults op) world = (.error e, world) := by
  obtain ⟨fault, hfault⟩ := Option.ne_none_iff_exists'.mp hop
  exact ⟨fault.error, exec_perform_of_some hfault⟩

theorem exec_perform_of_none {op : PromoteOp} (hop : faults op = none) :
    Effect.exec (perform faults op) world = (.ok (), world) := by
  rw [exec_perform, hop]

theorem exec_copyArtifact_of_absent {filename : String} (hop : faults (.exists filename) = none)
    (habsent : world.files (call.scratchFile filename) = none) :
    Effect.exec (copyArtifact faults call filename) world = (.ok (), world) := by
  rw [copyArtifact, Effect.exec_bind_ok (exec_perform_of_none hop),
    Effect.exec_bind_ok (Effect.exec_get world), habsent]
  rfl

theorem exec_copyArtifact_of_present {filename : String} {content : C}
    (hop : faults (.exists filename) = none)
    (hpresent : world.files (call.scratchFile filename) = some content) :
    Effect.exec (copyArtifact faults call filename) world =
      if call.scratch = call.latestDir then (.error (.other "SameFileError"), world)
      else Effect.exec (writeFile faults (.copy filename) (call.latestFile filename) content)
        world := by
  have hsame : call.scratchFile filename = call.latestFile filename ↔
      call.scratch = call.latestDir := List.append_left_inj _
  rw [copyArtifact, Effect.exec_bind_ok (exec_perform_of_none hop),
    Effect.exec_bind_ok (Effect.exec_get world), hpresent]
  simp only [Effect.exec_ite, hsame]
  rfl

theorem exec_rewriteSidecar (hop : faults .readSidecar = none) :
    Effect.exec (rewriteSidecar lib faults call) world =
      match world.files (call.latestFile "model.json") with
      | none => (.error (.other "FileNotFoundError"), world)
      | some text =>
        match rewritten lib call text with
        | .error e => (.error e, world)
        | .ok content => Effect.exec
            (writeFile faults .writeSidecar (call.latestFile "model.json") content) world := by
  rw [rewriteSidecar, Effect.exec_bind_ok (exec_perform_of_none hop),
    Effect.exec_bind_ok (Effect.exec_get world)]
  cases world.files (call.latestFile "model.json") with
  | none => rfl
  | some text =>
    simp only
    cases hcontent : rewritten lib call text with
    | error e => rw [Effect.exec_bind_error (Effect.exec_lift _ world)]
    | ok content => rw [Effect.exec_bind_ok (Effect.exec_lift _ world)]

theorem StopsCopying.exec_rewriteSidecar (h : StopsCopying lib faults call world []) :
    ∃ e, Effect.exec (rewriteSidecar lib faults call) world = (.error e, world) := by
  by_cases hop : faults .readSidecar = none
  · rw [ModelMonitor.exec_rewriteSidecar hop]
    have hstops := h.resolve_left (not_not_intro hop)
    cases htext : world.files (call.latestFile "model.json") with
    | none => exact ⟨_, rfl⟩
    | some text =>
      rw [htext] at hstops
      rcases hstops with ⟨e, hcontent⟩ | ⟨fault, hfault, hleft⟩
      · simp only [hcontent]
        exact ⟨e, rfl⟩
      · cases hcontent : rewritten lib call text with
        | error e => exact ⟨e, by simp only [hcontent]⟩
        | ok content =>
          refine ⟨fault.error, ?_⟩
          simp only [hcontent]
          exact exec_writeFile_kept hfault hleft _ _
  · obtain ⟨e, hperform⟩ := exec_perform_of_ne world hop
    exact ⟨e, Effect.exec_bind_error hperform⟩

theorem exec_copyArtifact_of_stops {filename : String} {content : C}
    (hop : faults (.exists filename) = none)
    (hpresent : world.files (call.scratchFile filename) = some content)
    (h : call.scratch = call.latestDir ∨
      ∃ fault, faults (.copy filename) = some fault ∧ fault.left = none) :
    ∃ e, Effect.exec (copyArtifact faults call filename) world = (.error e, world) := by
  have hcopy := exec_copyArtifact_of_present hop hpresent
  split_ifs at hcopy with hsame
  · exact ⟨_, hcopy⟩
  · obtain ⟨fault, hfault, hleft⟩ := h.resolve_left hsame
    rw [exec_writeFile_kept hfault hleft] at hcopy
    exact ⟨_, hcopy⟩

theorem StopsCopying.exec_cases {filenames : List String}
    (h : StopsCopying lib faults call world filenames) :
    (∃ e, Effect.exec (copyArtifacts faults call filenames) world = (.error e, world)) ∨
      Effect.exec (copyArtifacts faults call filenames) world = (.ok (), world) ∧
        ∃ e, Effect.exec (rewriteSidecar lib faults call) world = (.error e, world) := by
  induction filenames with
  | nil => exact Or.inr ⟨rfl, h.exec_rewriteSidecar⟩
  | cons filename rest ih =>
    by_cases hop : faults (.exists filename) = none
    · have hstops := h.resolve_left (not_not_intro hop)
      cases htext : world.files (call.scratchFile filename) with
      | none =>
        rw [htext] at hstops
        have habsent := exec_copyArtifact_of_absent hop htext
        rw [copyArtifacts, Effect.exec_bind_ok habsent]
        exact ih hstops
      | some content =>
        rw [htext] at hstops
        obtain ⟨e, hcopy⟩ := exec_copyArtifact_of_stops hop htext hstops
        exact Or.inl ⟨e, Effect.exec_bind_error hcopy⟩
    · obtain ⟨e, hperform⟩ := exec_perform_of_ne world hop
      refine Or.inl ⟨e, ?_⟩
      rw [copyArtifacts, Effect.exec_bind, copyArtifact, Effect.exec_bind_error hperform]

/-- The files of a call that passes the gate and ends before its first write: nothing is
released. -/
theorem StopsBefore.exec_releaseFiles (h : StopsBefore lib faults call world)
    {registry : Registry} (hload : world.registry.load = .ok registry)
    (hpasses : Passes lib call registry) (hread : faults .readRegistry = none) :
    ∃ e, Effect.exec (releaseFiles lib faults call) world = (.error e, world) := by
  cases h with
  | registry h => exact absurd hread h
  | gate h => exact absurd hpasses (h registry hload)
  | directory h =>
    obtain ⟨e, hperform⟩ := exec_perform_of_ne world h
    exact ⟨e, Effect.exec_bind_error hperform⟩
  | copying h =>
    by_cases hop : faults .makeDir = none
    · rw [releaseFiles, Effect.exec_bind_ok (exec_perform_of_none hop)]
      rcases h.exec_cases with ⟨e, hcopy⟩ | ⟨hcopy, e, hsidecar⟩
      · exact ⟨e, Effect.exec_bind_error hcopy⟩
      · exact ⟨e, by rw [Effect.exec_bind_ok hcopy, hsidecar]⟩
    · obtain ⟨e, hperform⟩ := exec_perform_of_ne world hop
      exact ⟨e, Effect.exec_bind_error hperform⟩

/-- A call that ends before its first write leaves the world alone and promotes nothing. -/
theorem StopsBefore.exec_eq (h : StopsBefore lib faults call world) {answer : Py PromoteOutcome}
    {after : World C} (hcases : PromoteCases lib faults call world answer after) :
    after = world ∧ promotes answer = false := by
  cases hcases with
  | stopped answer hstop hrejected =>
    exact ⟨rfl, promotes_of_rejected hrejected⟩
  | broken hread registry hload hpasses e after hfiles =>
    obtain ⟨e', hexec⟩ := h.exec_releaseFiles hload hpasses hread
    rw [hexec] at hfiles
    cases hfiles
    exact ⟨rfl, rfl⟩
  | unregistered hread registry hload hpasses e after hfiles file hfile hfault =>
    obtain ⟨e', hexec⟩ := h.exec_releaseFiles hload hpasses hread
    rw [hexec] at hfiles
    cases hfiles
  | promoted hread registry hload hpasses outcome houtcome after hfiles =>
    obtain ⟨e', hexec⟩ := h.exec_releaseFiles hload hpasses hread
    rw [hexec] at hfiles
    cases hfiles

end Stopping

section Completing

variable {lib : PromotionLib C} {faults : Faults C} {call : PromoteCall} {world : World C}

/-- The files with one scratch file copied, if it exists. -/
def copyFile (call : PromoteCall) (files : Files C) (filename : String) : Files C :=
  match files (call.scratchFile filename) with
  | none => files
  | some content => Function.update files (call.latestFile filename) (some content)

theorem scratchFile_ne_latestFile (hapart : call.scratch ≠ call.latestDir)
    (filename other : String) : call.scratchFile filename ≠ call.latestFile other := by
  intro h
  exact hapart (List.append_inj' h rfl).1

theorem copyFile_scratch (hapart : call.scratch ≠ call.latestDir) (files : Files C)
    (filename other : String) :
    copyFile call files filename (call.scratchFile other) = files (call.scratchFile other) := by
  unfold copyFile
  cases files (call.scratchFile filename) with
  | none => rfl
  | some content => exact Function.update_of_ne (scratchFile_ne_latestFile hapart _ _) _ _

theorem copyFile_latest (files : Files C) (filename other : String) :
    copyFile call files filename (call.latestFile other) =
      if other = filename then
        (files (call.scratchFile other)).or (files (call.latestFile other))
      else files (call.latestFile other) := by
  unfold copyFile
  by_cases hname : other = filename
  · subst hname
    rw [if_pos rfl]
    cases files (call.scratchFile other) with
    | none => rfl
    | some content => exact Function.update_self _ _ _
  · rw [if_neg hname]
    have hpath : call.latestFile other ≠ call.latestFile filename := by
      intro h
      have hlast := (List.append_inj h rfl).2
      exact hname (List.singleton_inj.mp hlast)
    cases files (call.scratchFile filename) with
    | none => rfl
    | some content => exact Function.update_of_ne hpath _ _

/-- A latest file after the copies: the scratch file's content, where there is one. -/
theorem copyFiles_latest (hapart : call.scratch ≠ call.latestDir) (filenames : List String)
    (files : Files C) (other : String) :
    filenames.foldl (copyFile call) files (call.latestFile other) =
      if other ∈ filenames then
        (files (call.scratchFile other)).or (files (call.latestFile other))
      else files (call.latestFile other) := by
  induction filenames generalizing files with
  | nil => rfl
  | cons filename rest ih =>
    rw [List.foldl_cons, ih, copyFile_scratch hapart, copyFile_latest]
    by_cases hname : other = filename
    · simp only [hname, List.mem_cons, true_or, if_true]
      split_ifs
      · cases files (call.scratchFile filename) <;> rfl
      · rfl
    · simp only [hname, List.mem_cons, false_or, if_false]

theorem exec_copyArtifact (hfaults : ∀ op, faults op = none)
    (hapart : call.scratch ≠ call.latestDir) (filename : String) :
    Effect.exec (copyArtifact faults call filename) world =
      (.ok (), { world with files := copyFile call world.files filename }) := by
  unfold copyFile
  cases htext : world.files (call.scratchFile filename) with
  | none => exact exec_copyArtifact_of_absent (hfaults _) htext
  | some content =>
    rw [exec_copyArtifact_of_present (hfaults _) htext, if_neg hapart, exec_writeFile, hfaults]

theorem exec_copyArtifacts (hfaults : ∀ op, faults op = none)
    (hapart : call.scratch ≠ call.latestDir) (filenames : List String) :
    Effect.exec (copyArtifacts faults call filenames) world =
      (.ok (), { world with files := filenames.foldl (copyFile call) world.files }) := by
  induction filenames generalizing world with
  | nil => rfl
  | cons filename rest ih =>
    rw [copyArtifacts, Effect.exec_bind_ok (exec_copyArtifact hfaults hapart filename), ih]
    rfl

/-- A call that completes writes its release. -/
theorem Completes.exec_releaseFiles (h : Completes lib faults call world) :
    ∃ files, Effect.exec (releaseFiles lib faults call) world =
        (.ok (), { world with files }) ∧
      Holds call.latestDir files (releaseOf lib call world.files) := by
  obtain ⟨text, fields, htext, hfields⟩ := h.sidecar
  obtain ⟨content, hcontent⟩ : ∃ content, rewritten lib call text = .ok content := by
    rw [rewritten, hfields]
    exact ⟨_, rfl⟩
  have hcopied : artifactNames.foldl (copyFile call) world.files (call.latestFile "model.json") =
      some text := by
    rw [copyFiles_latest h.apart, if_pos (by decide), htext]
    rfl
  refine ⟨Function.update (artifactNames.foldl (copyFile call) world.files)
    (call.latestFile "model.json") (some content), ?_, ?_⟩
  · rw [releaseFiles, Effect.exec_bind_ok (exec_perform_of_none (h.no_fault _)),
      Effect.exec_bind_ok (exec_copyArtifacts h.no_fault h.apart _),
      exec_rewriteSidecar (h.no_fault _)]
    simp only [hcopied, hcontent]
    rw [exec_writeFile, h.no_fault]
  · have hother : ∀ filename ∈ artifactNames, filename ≠ "model.json" →
        Function.update (artifactNames.foldl (copyFile call) world.files)
            (call.latestFile "model.json") (some content) (call.latestFile filename) =
          world.files (call.scratchFile filename) := by
      intro filename hfilename hne
      have hpath : call.latestFile filename ≠ call.latestFile "model.json" := by
        intro hsame
        exact hne (List.singleton_inj.mp (List.append_inj hsame rfl).2)
      rw [Function.update_of_ne hpath, copyFiles_latest h.apart, if_pos hfilename]
      cases hscratch : world.files (call.scratchFile filename) with
      | none => rw [h.replaced filename hfilename hscratch]; rfl
      | some content => rfl
    refine ⟨hother "model.joblib" (by decide) (by decide), ?_,
      hother "reference_profile.json" (by decide) (by decide)⟩
    rw [releaseOf, htext, Option.bind_some, hcontent]
    exact Function.update_self _ _ _

end Completing

section Runs

/-- A call keeps the promotion whole when it ends before its first write or completes. -/
theorem Whole.of_cases {lib : PromotionLib C} {slotted : SlottedCall C modelName latestDir}
    {shelf : Shelf C} {answer : Py PromoteOutcome} {after : World C}
    (hwhole : Whole modelName latestDir shelf)
    (hcall : StopsBefore lib slotted.faults slotted.call shelf.world ∨
      Completes lib slotted.faults slotted.call shelf.world)
    (hcases : PromoteCases lib slotted.faults slotted.call shelf.world answer after) :
    Whole modelName latestDir
      { world := after
        releases :=
          if promotes answer then
            Function.update shelf.releases slotted.call.result.version
              (some (releaseOf lib slotted.call shelf.world.files))
          else shelf.releases } := by
  rcases hcall with hstops | hcompletes
  · obtain ⟨rfl, hno⟩ := hstops.exec_eq hcases
    rw [hno]
    exact hwhole
  · obtain ⟨files, hreleased, hholds⟩ := hcompletes.exec_releaseFiles
    cases hcases with
    | stopped answer hstop hrejected =>
      rw [promotes_of_rejected hrejected]
      exact hwhole
    | broken hread registry hload hpasses e after hfiles =>
      rw [hreleased] at hfiles
      cases hfiles
    | unregistered hread registry hload hpasses e after hfiles file hfile hfault =>
      rcases hfault with h | h
      · exact absurd (hcompletes.no_fault _) h
      · exact absurd (hcompletes.no_fault _) h
    | promoted hread registry hload hpasses outcome houtcome after hfiles =>
      rw [hreleased] at hfiles
      cases hfiles
      have hyes : promotes (.ok outcome) = true := houtcome
      rw [Whole, slotted.modelName_eq, RegistryFile.latestVersion_registered, hyes]
      rw [slotted.latestDir_eq] at hholds
      exact ⟨_, Function.update_self _ _ _, hholds⟩

/-- In every run whose calls end before their first write or complete, the latest files
come from the version `latest` names after each call. -/
theorem whole_after (lib : PromotionLib C) {shelf : Shelf C}
    (hinit : Whole modelName latestDir shelf) (calls : List (SlottedCall C modelName latestDir))
    (hcalls : ∀ event ∈ (releaseMachine lib modelName latestDir).trace shelf calls,
      StopsBefore lib event.call.faults event.call.call event.before.world ∨
        Completes lib event.call.faults event.call.call event.before.world) :
    ∀ event ∈ (releaseMachine lib modelName latestDir).trace shelf calls,
      Whole modelName latestDir event.after := by
  induction calls generalizing shelf with
  | nil => simp
  | cons slotted rest ih =>
    rw [Machine.trace_cons, List.forall_mem_cons] at hcalls ⊢
    have hnext : Whole modelName latestDir
        ((releaseMachine lib modelName latestDir).next shelf slotted) :=
      hinit.of_cases hcalls.1 (promote_cases lib slotted.faults slotted.call shelf.world)
    exact ⟨hnext, ih hnext hcalls.2⟩

def slottedRetrain (version : String) (auc : ℚ) :
    SlottedCall String "supervised" ["models", "supervised", "latest"] where
  call := retrainCall version auc
  faults := noFaults
  modelName_eq := retrainCall_modelName version auc
  latestDir_eq := rfl

/-- The scratch directory of `v2` lacks the model; all other files name their version. -/
def missingModel : Shelf String where
  releases _ := none
  world := {
    registry := .absent
    files path :=
      if path = ["v2", "supervised", "latest", "model.joblib"] then none
      else scratchWorld.files path }

theorem missingModel_whole :
    Whole "supervised" ["models", "supervised", "latest"] missingModel := ⟨rfl, rfl, rfl⟩

/-- After the second call `latest` names `v2` and the model is the one of `v1`. -/
theorem missingModel_mixed :
    let m := releaseMachine plainPromotionLib "supervised" ["models", "supervised", "latest"]
    let shelf := m.run missingModel [slottedRetrain "v1" (9 / 10), slottedRetrain "v2" (9 / 10)]
    Whole "supervised" ["models", "supervised", "latest"] missingModel ∧
      shelf.world.registry.latestVersion "supervised" = some "v2" ∧
      shelf.world.files ["models", "supervised", "latest", "model.joblib"] = some "v1" ∧
      shelf.world.files ["models", "supervised", "latest", "model.json"] = some "v2" ∧
      ¬ Whole "supervised" ["models", "supervised", "latest"] shelf := by
  intro m shelf
  have hlatest : shelf.world.registry.latestVersion "supervised" = some "v2" := by decide +kernel
  have hmodel : shelf.world.files ["models", "supervised", "latest", "model.joblib"] =
      some "v1" := by
    decide +kernel
  have hsidecar : shelf.world.files ["models", "supervised", "latest", "model.json"] =
      some "v2" := by
    decide +kernel
  have hrelease : (shelf.releases "v2").map Release.model = some none := by decide +kernel
  refine ⟨missingModel_whole, hlatest, hmodel, hsidecar, ?_⟩
  intro h
  rw [Whole, hlatest] at h
  obtain ⟨release, hfound, hholds⟩ := h
  rw [hfound] at hrelease
  have hempty := hholds.model
  rw [Option.some.inj hrelease] at hempty
  exact absurd (hmodel.symm.trans hempty) (by simp)

/-- The retrain of `v1` has all three files. -/
theorem slottedRetrain_completes :
    Completes plainPromotionLib noFaults (slottedRetrain "v1" (9 / 10)).call
      missingModel.world where
  no_fault := fun _ => rfl
  apart := by decide
  sidecar := ⟨"v1", [("version", .str "v1")], by decide, rfl⟩
  replaced := by decide

theorem whole_after_slottedRetrain :
    Whole "supervised" ["models", "supervised", "latest"]
      ((releaseMachine plainPromotionLib "supervised" ["models", "supervised", "latest"]).next
        missingModel (slottedRetrain "v1" (9 / 10))) :=
  whole_after plainPromotionLib missingModel_whole [slottedRetrain "v1" (9 / 10)]
    (List.forall_mem_singleton.mpr (Or.inr slottedRetrain_completes)) _ List.mem_cons_self

end Runs

end VeriPay.ModelMonitor
