import Mathlib.Data.List.DropRight
import VeriPay.Lib.PyText

/-!
The trimmed parts of a text. Trimming a text before it is taken apart at a separator that is not
trimmed leaves the trimmed parts as they are.
-/

namespace VeriPay.Lib

section Trim

variable {α β : Type*} (p : α → Bool)

/-- A list without what satisfies the predicate at its ends. -/
def trim (l : List α) : List α := (l.dropWhile p).rdropWhile p

variable {p}

theorem dropWhile_append_cons {sep : α} (hsep : p sep = false) (l r : List α) :
    (l ++ sep :: r).dropWhile p = l.dropWhile p ++ sep :: r := by
  induction l with
  | nil => simp [hsep]
  | cons c l ih =>
    by_cases hc : p c = true
    · simpa [hc] using ih
    · simp [hc]

theorem rdropWhile_append_cons {sep : α} (hsep : p sep = false) (l r : List α) :
    (l ++ sep :: r).rdropWhile p = l ++ sep :: r.rdropWhile p := by
  have hreverse := dropWhile_append_cons hsep r.reverse l.reverse
  simp only [List.rdropWhile, List.reverse_append, List.reverse_cons, List.append_assoc,
    List.singleton_append, hreverse, List.reverse_reverse]

/-- Trimming stops at a separator on both sides. -/
theorem trim_append_cons {sep : α} (hsep : p sep = false) (l r : List α) :
    trim p (l ++ sep :: r) = l.dropWhile p ++ sep :: r.rdropWhile p := by
  rw [trim, dropWhile_append_cons hsep, rdropWhile_append_cons hsep]

theorem trim_dropWhile (l : List α) : trim p (l.dropWhile p) = trim p l := by
  rw [trim, List.dropWhile_idempotent, trim]

theorem trim_concat {c : α} (hc : p c = true) (l : List α) : trim p (l ++ [c]) = trim p l := by
  unfold trim
  rw [List.dropWhile_append]
  split_ifs with hempty
  · rw [List.isEmpty_iff.mp hempty]
    simp [hc]
  · exact List.rdropWhile_concat_pos _ _ _ hc

theorem trim_append {spaces : List α} (hspaces : ∀ c ∈ spaces, p c = true) (l : List α) :
    trim p (l ++ spaces) = trim p l := by
  induction spaces using List.reverseRecOn with
  | nil => rw [List.append_nil]
  | append_singleton spaces c ih =>
    rw [← List.append_assoc, trim_concat (hspaces c (by simp)),
      ih fun d hd => hspaces d (List.mem_append_left _ hd)]

theorem mem_of_mem_trim {c : α} {l : List α} (h : c ∈ trim p l) : c ∈ l :=
  (List.dropWhile_suffix p).subset ((List.rdropWhile_prefix p _).subset h)

variable [DecidableEq α]

/-- What is appended without a separator only reaches the last part. -/
theorem map_splitOn_append {sep : α} {spaces : List α} (hsep : sep ∉ spaces) {f : List α → β}
    (hf : ∀ l, f (l ++ spaces) = f l) (l : List α) :
    ((l ++ spaces).splitOn sep).map f = (l.splitOn sep).map f := by
  by_cases hmem : sep ∈ l
  · obtain ⟨first, rest, rfl⟩ := List.append_of_mem hmem
    rw [List.append_assoc, List.cons_append, List.splitOn_append_cons_self,
      List.splitOn_append_cons_self, List.map_append, List.map_append,
      map_splitOn_append hsep hf rest]
  · have happend : sep ∉ l ++ spaces := by simp [hmem, hsep]
    rw [List.splitOn_eq_singleton happend, List.splitOn_eq_singleton hmem, List.map_singleton,
      List.map_singleton, hf]
termination_by l.length
decreasing_by simp [*]; omega

/-- The trimmed parts of a text are those of the text trimmed at its end. -/
theorem map_trim_splitOn_rdropWhile {sep : α} (hsep : p sep = false) (l : List α) :
    ((l.rdropWhile p).splitOn sep).map (trim p) = (l.splitOn sep).map (trim p) := by
  have hspaces : ∀ c ∈ l.rtakeWhile p, p c = true := fun c hc => List.mem_rtakeWhile_imp hc
  have hnot : sep ∉ l.rtakeWhile p := by
    intro hmem
    rw [hspaces sep hmem] at hsep
    cases hsep
  rw [← map_splitOn_append hnot (trim_append hspaces) (l.rdropWhile p),
    List.rdropWhile_append_rtakeWhile]

end Trim

end VeriPay.Lib
