import Mathlib.Data.List.Induction

/-!
Systems that answer one call at a time. A step returns the answer and the next
state, so a raising call is an answer like any other. `run` is the state after a
list of calls and `trace` records what every call saw and did; the induction on
runs is done here once.
-/

namespace VeriPay.Lib

/-- States `S`, calls `L`, answers `O`. -/
structure Machine (S L O : Type*) where
  step : S → L → O × S

namespace Machine

/-- One call of a run, with the states around it. -/
structure Event (S L O : Type*) where
  before : S
  call : L
  answer : O
  after : S

variable {S L O : Type*} (m : Machine S L O)

def next (s : S) (call : L) : S := (m.step s call).2

def event (s : S) (call : L) : Event S L O :=
  ⟨s, call, (m.step s call).1, m.next s call⟩

def run (s : S) (calls : List L) : S := calls.foldl m.next s

def trace : S → List L → List (Event S L O)
  | _, [] => []
  | s, call :: rest => m.event s call :: trace (m.next s call) rest

@[simp] theorem run_nil (s : S) : m.run s [] = s := rfl

@[simp] theorem run_cons (s : S) (call : L) (rest : List L) :
    m.run s (call :: rest) = m.run (m.next s call) rest := rfl

theorem run_append (s : S) (pre post : List L) :
    m.run s (pre ++ post) = m.run (m.run s pre) post := List.foldl_append

@[simp] theorem run_concat (s : S) (pre : List L) (call : L) :
    m.run s (pre ++ [call]) = m.next (m.run s pre) call := by
  rw [run_append]
  rfl

@[simp] theorem trace_nil (s : S) : m.trace s [] = [] := rfl

@[simp] theorem trace_cons (s : S) (call : L) (rest : List L) :
    m.trace s (call :: rest) = m.event s call :: m.trace (m.next s call) rest := rfl

theorem trace_append (s : S) (pre post : List L) :
    m.trace s (pre ++ post) = m.trace s pre ++ m.trace (m.run s pre) post := by
  induction pre generalizing s with
  | nil => rfl
  | cons call rest ih =>
    simp only [List.cons_append, trace_cons, run_cons, ih]

/-- The events of a run are its calls, each at the state its predecessors left. -/
theorem mem_trace_iff (s : S) (calls : List L) (e : Event S L O) :
    e ∈ m.trace s calls ↔
      ∃ pre call post, calls = pre ++ call :: post ∧ e = m.event (m.run s pre) call := by
  constructor
  · intro he
    induction calls generalizing s with
    | nil => simp at he
    | cons call rest ih =>
      rcases List.mem_cons.mp he with rfl | htail
      · exact ⟨[], call, rest, rfl, rfl⟩
      · obtain ⟨pre, later, post, rfl, rfl⟩ := ih (m.next s call) htail
        exact ⟨call :: pre, later, post, rfl, rfl⟩
  · intro h
    obtain ⟨pre, call, post, rfl, rfl⟩ := h
    rw [trace_append, trace_cons]
    exact List.mem_append_right _ List.mem_cons_self

/-- A predicate on the calls made so far and the state they lead to, preserved by
every call of the run, holds at its end. -/
theorem run_history_invariant {P : List L → S → Prop} {s : S} (hinit : P [] s)
    (calls : List L)
    (hstep : ∀ pre call post, calls = pre ++ call :: post →
      P pre (m.run s pre) → P (pre ++ [call]) (m.next (m.run s pre) call)) :
    P calls (m.run s calls) := by
  suffices hprefix : ∀ pre post, calls = pre ++ post → P pre (m.run s pre) from
    hprefix calls [] (List.append_nil calls).symm
  intro pre
  induction pre using List.reverseRecOn with
  | nil => exact fun _ _ => hinit
  | append_singleton pre call ih =>
    intro post hcalls
    rw [List.append_assoc] at hcalls
    rw [run_concat]
    exact hstep pre call post (by simpa using hcalls) (ih (call :: post) (by simpa using hcalls))

/-- Where each call keeps the invariant exactly under its guard, it holds throughout
a run exactly when every call of the run meets its guard. -/
theorem invariant_iff_guarded {P : S → Prop} {guard : S → L → Prop} {s : S} {calls : List L}
    (hinit : P s)
    (hstep : ∀ e ∈ m.trace s calls, P e.before → (P e.after ↔ guard e.before e.call)) :
    (∀ e ∈ m.trace s calls, P e.after) ↔ ∀ e ∈ m.trace s calls, guard e.before e.call := by
  induction calls generalizing s with
  | nil => simp
  | cons call rest ih =>
    have hfirst := hstep _ List.mem_cons_self hinit
    simp only [trace_cons, List.forall_mem_cons]
    constructor
    · intro h
      obtain ⟨hafter, hrest⟩ := h
      have hlater := fun e he => hstep e (List.mem_cons_of_mem _ he)
      exact ⟨hfirst.mp hafter, (ih hafter hlater).mp hrest⟩
    · intro h
      obtain ⟨hguard, hrest⟩ := h
      have hafter := hfirst.mpr hguard
      have hlater := fun e he => hstep e (List.mem_cons_of_mem _ he)
      exact ⟨hafter, (ih hafter hlater).mpr hrest⟩

end Machine

end VeriPay.Lib
