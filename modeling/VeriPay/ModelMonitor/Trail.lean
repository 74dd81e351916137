import VeriPay.ModelMonitor.ModelRegistry
import VeriPay.ModelMonitor.Release

/-!
What a promotion writes, from its arguments and the files before it. The trail of a part
lists the writes it makes until it ends or raises.
-/

namespace VeriPay.ModelMonitor

open Lib

variable {C : Type}

structure Trail (C : Type) where
  writes : Writes C := []
  finished : Bool

namespace Trail

/-- Nothing is written. -/
def quiet (finished : Bool) : Trail C where
  finished := finished

/-- What follows sees the files the first part left, and is skipped when that raised. -/
def andThen (files : Files C) (first : Trail C) (next : Files C → Trail C) : Trail C :=
  if first.finished then
    let later := next (written files first.writes)
    { writes := first.writes ++ later.writes, finished := later.finished }
  else first

end Trail

/-- The trail says what the method writes and whether it returns. -/
structure Leaves (x : Effect (World C) Unit) (world : World C) (trail : Trail C) : Prop where
  after : (Effect.exec x world).2 = { world with files := written world.files trail.writes }
  finished : trail.finished = true ↔ (Effect.exec x world).1 = .ok ()

namespace Leaves

theorem of_ok {x : Effect (World C) Unit} {world : World C} {writes : Writes C}
    (h : Effect.exec x world = (.ok (), { world with files := written world.files writes })) :
    Leaves x world { writes := writes, finished := true } where
  after := by rw [h]
  finished := by
    rw [h]
    exact iff_of_true rfl rfl

theorem of_error {x : Effect (World C) Unit} {world : World C} {writes : Writes C} {e : PyErr}
    (h : Effect.exec x world = (.error e, { world with files := written world.files writes })) :
    Leaves x world { writes := writes, finished := false } where
  after := by rw [h]
  finished := by
    rw [h]
    exact iff_of_false Bool.false_ne_true (by simp)

theorem of_get {f : World C → Effect (World C) Unit} {world : World C} {trail : Trail C}
    (h : Leaves (f world) world trail) : Leaves (get >>= f) world trail := by
  have hexec := Effect.exec_bind_ok (f := f) (Effect.exec_get world)
  exact ⟨by rw [hexec, h.after], by rw [hexec, h.finished]⟩

theorem bind {x y : Effect (World C) Unit} {world : World C} {first : Trail C}
    {next : Files C → Trail C} (hx : Leaves x world first)
    (hy : ∀ after, Leaves y after (next after.files)) :
    Leaves (x >>= fun _ => y) world (first.andThen world.files next) := by
  have hafter := hx.after
  have hfinished := hx.finished
  cases hexec : Effect.exec x world with
  | mk answer after =>
    rw [hexec] at hafter hfinished
    simp only at hafter hfinished
    cases answer with
    | ok _ =>
      have hdone : first.finished = true := hfinished.mpr rfl
      have hlater := hy after
      rw [Trail.andThen, if_pos hdone]
      refine ⟨?_, ?_⟩
      · rw [Effect.exec_bind_ok hexec, hlater.after, hafter, written_append]
      · rw [Effect.exec_bind_ok hexec, ← hlater.finished, hafter]
    | error e =>
      have hraised : ¬ first.finished = true := by
        rw [hfinished]
        intro h
        cases h
      rw [Trail.andThen, if_neg hraised]
      refine ⟨?_, ?_⟩
      · rw [Effect.exec_bind_error hexec, hafter]
      · rw [Effect.exec_bind_error hexec]
        exact iff_of_false hraised (by simp)

end Leaves

section Promotion

variable (lib : PromotionLib C) (faults : Faults C) (call : PromoteCall)

def performTrail (op : PromoteOp) : Trail C :=
  match faults op with
  | none => .quiet true
  | some _ => .quiet false

def writeTrail (op : PromoteOp) (path : Path) (content : C) : Trail C :=
  match faults op with
  | none => { writes := [(path, some content)], finished := true }
  | some fault =>
    match fault.left with
    | none => .quiet false
    | some left => { writes := [(path, left)], finished := false }

def copyTrail (filename : String) (files : Files C) : Trail C :=
  (performTrail faults (.exists filename)).andThen files fun files =>
    match files (call.scratchFile filename) with
    | none => .quiet true
    | some content =>
      if call.scratchFile filename = call.latestFile filename then .quiet false
      else writeTrail faults (.copy filename) (call.latestFile filename) content

def copiesTrail : List String → Files C → Trail C
  | [], _ => .quiet true
  | filename :: rest, files =>
    (copyTrail faults call filename files).andThen files (copiesTrail rest)

def sidecarTrail (files : Files C) : Trail C :=
  (performTrail faults .readSidecar).andThen files fun files =>
    match files (call.latestFile "model.json") with
    | none => .quiet false
    | some text =>
      match rewritten lib call text with
      | .error _ => .quiet false
      | .ok content => writeTrail faults .writeSidecar (call.latestFile "model.json") content

def releaseTrail (files : Files C) : Trail C :=
  (performTrail faults .makeDir).andThen files fun files =>
    (copiesTrail faults call artifactNames files).andThen files (sidecarTrail lib faults call)

/-- The writes of a call. -/
def promoteWrites (world : World C) : Writes C :=
  match faults .readRegistry, world.registry.load with
  | none, .ok registry =>
    if Passes lib call registry then (releaseTrail lib faults call world.files).writes else []
  | _, _ => []

theorem leaves_perform (op : PromoteOp) (world : World C) :
    Leaves (perform faults op) world (performTrail faults op) := by
  unfold performTrail
  cases hop : faults op with
  | none => exact .of_ok (exec_perform_of_none hop)
  | some fault => exact .of_error (exec_perform_of_some hop)

theorem leaves_writeFile (op : PromoteOp) (path : Path) (content : C) (world : World C) :
    Leaves (writeFile faults op path content) world (writeTrail faults op path content) := by
  have hexec := exec_writeFile faults op path content world
  unfold writeTrail
  cases hop : faults op with
  | none =>
    rw [hop] at hexec
    exact .of_ok hexec
  | some fault =>
    rw [hop] at hexec
    unfold Fault.apply at hexec
    cases hleft : fault.left with
    | none =>
      simp only [hleft] at hexec ⊢
      exact .of_error hexec
    | some left =>
      simp only [hleft] at hexec ⊢
      exact .of_error hexec

theorem leaves_copyArtifact (filename : String) (world : World C) :
    Leaves (copyArtifact faults call filename) world
      (copyTrail faults call filename world.files) := by
  refine Leaves.bind (leaves_perform faults _ world) ?_
  intro after
  refine Leaves.of_get ?_
  cases after.files (call.scratchFile filename) with
  | none => exact .of_ok rfl
  | some content =>
    simp only
    split_ifs
    · exact .of_error rfl
    · exact leaves_writeFile faults _ _ _ after

theorem leaves_copyArtifacts (filenames : List String) (world : World C) :
    Leaves (copyArtifacts faults call filenames) world
      (copiesTrail faults call filenames world.files) := by
  induction filenames generalizing world with
  | nil => exact .of_ok rfl
  | cons filename rest ih => exact .bind (leaves_copyArtifact faults call filename world) ih

theorem leaves_rewriteSidecar (world : World C) :
    Leaves (rewriteSidecar lib faults call) world (sidecarTrail lib faults call world.files) := by
  refine Leaves.bind (leaves_perform faults _ world) ?_
  intro after
  refine Leaves.of_get ?_
  cases after.files (call.latestFile "model.json") with
  | none => exact .of_error rfl
  | some text =>
    simp only
    cases hcontent : rewritten lib call text with
    | error e => exact .of_error (Effect.exec_bind_error (Effect.exec_lift _ after))
    | ok content => exact leaves_writeFile faults .writeSidecar _ content after

theorem leaves_releaseFiles (world : World C) :
    Leaves (releaseFiles lib faults call) world (releaseTrail lib faults call world.files) := by
  refine Leaves.bind (leaves_perform faults _ world) ?_
  intro after
  exact .bind (leaves_copyArtifacts faults call _ after) (leaves_rewriteSidecar lib faults call)

/-- A call leaves the files as its trail says, whatever its answer is. -/
theorem PromoteCases.files_eq {lib : PromotionLib C} {faults : Faults C} {call : PromoteCall}
    {world after : World C} {answer : Py PromoteOutcome}
    (h : PromoteCases lib faults call world answer after) :
    after.files = written world.files (promoteWrites lib faults call world) := by
  have hreleased : ∀ registry, faults .readRegistry = none → world.registry.load = .ok registry →
      Passes lib call registry →
        (Effect.exec (releaseFiles lib faults call) world).2.files =
          written world.files (promoteWrites lib faults call world) := by
    intro registry hread hload hpasses
    rw [(leaves_releaseFiles lib faults call world).after, promoteWrites, hread, hload]
    simp only [if_pos hpasses]
  cases h with
  | stopped answer hstop hrejected =>
    have hnone : promoteWrites lib faults call world = [] := by
      unfold promoteWrites
      cases hread : faults .readRegistry with
      | some fault => rfl
      | none =>
        cases hload : world.registry.load with
        | error e => rfl
        | ok registry =>
          rcases hstop with h | h
          · exact absurd hread h
          · simp only [if_neg (h registry hload)]
    rw [hnone]
    rfl
  | broken hread registry hload hpasses e after hfiles =>
    rw [← hreleased registry hread hload hpasses, hfiles]
  | unregistered hread registry hload hpasses e after hfiles file hfile hfault =>
    rw [← hreleased registry hread hload hpasses, hfiles]
  | promoted hread registry hload hpasses outcome houtcome after hfiles =>
    rw [← hreleased registry hread hload hpasses, hfiles]

end Promotion

end VeriPay.ModelMonitor
