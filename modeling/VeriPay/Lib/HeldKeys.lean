import Mathlib.Data.List.Induction
import Mathlib.Logic.Function.Basic

/-!
A map under puts and takes. It holds a key exactly when the last move on the key was a put, and
then with the value that was put.
-/

namespace VeriPay.Lib.HeldKeys

variable {K V : Type*}

inductive Move (K V : Type*)
  | idle
  | put (key : K) (value : V)
  | take (key : K)

/-- The key a move is on. -/
def Move.key? : Move K V → Option K
  | .idle => none
  | .put key _ => some key
  | .take key => some key

/-- The last move on the key is a put of the value. -/
def LastPut (moves : List (Move K V)) (key : K) (value : V) : Prop :=
  ∃ before after, moves = before ++ .put key value :: after ∧
    ∀ move ∈ after, move.key? ≠ some key

/-- Either the last of the moves is that put, or it is on another key. -/
theorem lastPut_concat_iff {moves : List (Move K V)} {move : Move K V} {key : K} {value : V} :
    LastPut (moves ++ [move]) key value ↔
      move = .put key value ∨ move.key? ≠ some key ∧ LastPut moves key value := by
  constructor
  · rintro ⟨before, after, hmoves, hafter⟩
    cases after using List.reverseRecOn with
    | nil =>
      obtain ⟨-, hlast⟩ := List.append_inj' hmoves rfl
      exact Or.inl (List.cons.inj hlast).1
    | append_singleton after last =>
      rw [← List.cons_append, ← List.append_assoc] at hmoves
      obtain ⟨hinit, hlast⟩ := List.append_inj' hmoves rfl
      obtain rfl := (List.cons.inj hlast).1
      refine Or.inr ⟨hafter move (by simp), before, after, hinit, ?_⟩
      intro other hother
      exact hafter other (List.mem_append_left _ hother)
  · rintro (rfl | ⟨hother, before, after, rfl, hafter⟩)
    · exact ⟨moves, [], rfl, by simp⟩
    · refine ⟨before, after ++ [move], by simp, ?_⟩
      intro later hlater
      rcases List.mem_append.mp hlater with hmem | hmem
      · exact hafter later hmem
      · rwa [List.mem_singleton.mp hmem]

variable [DecidableEq K]

def apply (held : K → Option V) : Move K V → K → Option V
  | .idle => held
  | .put key value => Function.update held key (some value)
  | .take key => Function.update held key none

/-- The map after some moves, from the empty one. -/
def run (moves : List (Move K V)) : K → Option V := moves.foldl apply fun _ => none

theorem run_concat (moves : List (Move K V)) (move : Move K V) :
    run (moves ++ [move]) = apply (run moves) move := List.foldl_append

/-- A move leaves the other keys alone. -/
theorem apply_of_ne (held : K → Option V) {move : Move K V} {key : K} (h : move.key? ≠ some key) :
    apply held move key = held key := by
  cases move with
  | idle => rfl
  | put other value => exact Function.update_of_ne (fun heq => h (congrArg some heq.symm)) _ _
  | take other => exact Function.update_of_ne (fun heq => h (congrArg some heq.symm)) _ _

/-- A key is held exactly with the value of a last put. -/
theorem run_eq_some_iff (moves : List (Move K V)) (key : K) (value : V) :
    run moves key = some value ↔ LastPut moves key value := by
  induction moves using List.reverseRecOn with
  | nil => simp [run, LastPut]
  | append_singleton moves move ih =>
    rw [run_concat, lastPut_concat_iff, ← ih]
    by_cases hkey : move.key? = some key
    · cases move with
      | idle => cases hkey
      | put other stored =>
        cases hkey
        simp [apply, Move.key?]
      | take other =>
        cases hkey
        simp [apply, Move.key?]
    · have hput : move ≠ .put key value := by
        rintro rfl
        exact hkey rfl
      rw [apply_of_ne _ hkey, or_iff_right hput, and_iff_right hkey]

end VeriPay.Lib.HeldKeys
