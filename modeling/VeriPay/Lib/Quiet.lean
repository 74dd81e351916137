import VeriPay.Lib.Machine

/-!
Quiet calls: a machine answers them alike in every state and does not change. They can be left
out of a run. What is left of it, with its answers and the states around it, is a run by itself.
-/

namespace VeriPay.Lib.Machine

variable {S L O : Type*} (m : Machine S L O)

/-- The call has one answer, wherever it is made, and changes nothing. -/
def Quiet (call : L) : Prop := ∃ answer, ∀ s, m.step s call = (answer, s)

variable {m}

theorem Quiet.next_eq {call : L} (h : m.Quiet call) (s : S) : m.next s call = s := by
  obtain ⟨answer, hstep⟩ := h
  rw [next, hstep]

/-- Whatever is kept and whatever happened before, the call is answered alike. -/
theorem Quiet.of_mem_trace {call : L} (h : m.Quiet call) :
    ∃ answer, ∀ s calls, ∀ e ∈ m.trace s calls,
      e.call = call → e.answer = answer ∧ e.after = e.before := by
  obtain ⟨answer, hstep⟩ := h
  refine ⟨answer, ?_⟩
  intro s calls e he hcall
  obtain ⟨pre, made, post, -, rfl⟩ := (mem_trace_iff m s calls e).mp he
  change made = call at hcall
  rw [hcall]
  simp only [event, next, hstep, and_self]

variable {visible : L → Bool}

/-- Without its quiet calls a run has the same other events. -/
theorem trace_filter (h : ∀ call, visible call = false → m.Quiet call) (s : S)
    (calls : List L) :
    (m.trace s calls).filter (fun e => visible e.call) = m.trace s (calls.filter visible) := by
  induction calls generalizing s with
  | nil => rfl
  | cons call rest ih =>
    cases hcall : visible call with
    | true =>
      rw [trace_cons, List.filter_cons_of_pos (by exact hcall), List.filter_cons_of_pos hcall,
        trace_cons, ih]
    | false =>
      have hquiet := h call hcall
      rw [trace_cons, List.filter_cons_of_neg (by simp [event, hcall]),
        List.filter_cons_of_neg (by simp [hcall]), ih, hquiet.next_eq]

/-- Without its quiet calls a run ends in the same state. -/
theorem run_filter (h : ∀ call, visible call = false → m.Quiet call) (s : S) (calls : List L) :
    m.run s (calls.filter visible) = m.run s calls := by
  induction calls generalizing s with
  | nil => rfl
  | cons call rest ih =>
    cases hcall : visible call with
    | true => rw [List.filter_cons_of_pos hcall, run_cons, run_cons, ih]
    | false =>
      rw [List.filter_cons_of_neg (by simp [hcall]), run_cons, (h call hcall).next_eq, ih]

end VeriPay.Lib.Machine
