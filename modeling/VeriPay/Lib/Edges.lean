import Mathlib.Data.List.Dedup
import Mathlib.Data.List.Pairwise
import VeriPay.Lib.Histogram
import VeriPay.Lib.StableSort

/-!
Bin edges picked from a growing sequence. Equal edges count once, so two neighbours among
the edges are two neighbours of the sequence that differ.
-/

namespace VeriPay.Lib

variable {V : Type*} [LinearOrder V]

/-- `np.unique`: the values in order, each once. -/
def unique (values : List V) : List V := (values.mergeSort (· ≤ ·)).dedup

@[simp] theorem mem_unique {v : V} {values : List V} : v ∈ unique values ↔ v ∈ values := by
  rw [unique, List.mem_dedup, List.mem_mergeSort]

theorem unique_pairwise (values : List V) : (unique values).Pairwise (· < ·) := by
  have hsorted : (values.mergeSort (· ≤ ·)).Pairwise (· ≤ ·) := pairwise_mergeSort_key values
  have hle : (unique values).Pairwise (· ≤ ·) := hsorted.sublist (List.dedup_sublist _)
  have hne : (unique values).Pairwise (· ≠ ·) := List.nodup_dedup _
  exact hle.imp₂ (fun _ _ h h' => lt_of_le_of_ne h h') hne

section Neighbours

variable {edges before after : List V} {low high : V}

/-- Nothing of a sorted list is between two neighbours. -/
theorem le_or_ge_of_neighbours (hsorted : (before ++ low :: high :: after).Pairwise (· < ·))
    {edge : V} (hedge : edge ∈ before ++ low :: high :: after) : edge ≤ low ∨ high ≤ edge := by
  obtain ⟨-, hlater, hcross⟩ := List.pairwise_append.mp hsorted
  obtain ⟨-, hhigh⟩ := List.pairwise_cons.mp hlater
  rcases List.mem_append.mp hedge with h | h
  · exact Or.inl (hcross edge h low List.mem_cons_self).le
  · rcases List.mem_cons.mp h with rfl | h
    · exact Or.inl le_rfl
    · rcases List.mem_cons.mp h with rfl | h
      · exact Or.inr le_rfl
      · exact Or.inr (List.rel_of_pairwise_cons hhigh h).le

/-- The second of two neighbours is the last exactly when it is the greatest. -/
theorem last_iff_greatest (hsorted : (before ++ low :: high :: after).Pairwise (· < ·)) :
    after = [] ↔ ∀ edge ∈ before ++ low :: high :: after, edge ≤ high := by
  obtain ⟨-, hlater, hcross⟩ := List.pairwise_append.mp hsorted
  obtain ⟨hlow, hhigh⟩ := List.pairwise_cons.mp hlater
  constructor
  · rintro rfl edge hedge
    rcases List.mem_append.mp hedge with h | h
    · exact (hcross edge h high (by simp)).le
    · rcases List.mem_cons.mp h with rfl | h
      · exact (hlow high List.mem_cons_self).le
      · exact (List.mem_singleton.mp h).le
  · intro hgreatest
    rw [List.eq_nil_iff_forall_not_mem]
    intro edge hedge
    have hle := hgreatest edge (by simp [hedge])
    exact absurd (List.rel_of_pairwise_cons hhigh hedge) (not_lt.mpr hle)

/-- Two edges with none between them are neighbours. -/
theorem neighbours_of_sorted (hsorted : edges.Pairwise (· < ·)) (hlow : low ∈ edges)
    (hhigh : high ∈ edges) (hless : low < high)
    (hbetween : ∀ edge ∈ edges, edge ≤ low ∨ high ≤ edge) :
    ∃ before after, edges = before ++ low :: high :: after := by
  obtain ⟨before, rest, rfl⟩ := List.append_of_mem hlow
  obtain ⟨-, hlater, hcross⟩ := List.pairwise_append.mp hsorted
  have hrest : high ∈ rest := by
    rcases List.mem_append.mp hhigh with h | h
    · exact absurd (hcross high h low List.mem_cons_self) (not_lt.mpr hless.le)
    · rcases List.mem_cons.mp h with rfl | h
      · exact absurd hless (lt_irrefl _)
      · exact h
  cases rest with
  | nil => cases hrest
  | cons next after =>
    have hnext := List.rel_of_pairwise_cons hlater List.mem_cons_self
    have hge : high ≤ next :=
      (hbetween next (by simp)).resolve_left (not_le.mpr hnext)
    have hle : next ≤ high := by
      rcases List.mem_cons.mp hrest with h | h
      · rw [h]
      · exact (List.rel_of_pairwise_cons (List.pairwise_cons.mp hlater).2 h).le
    rw [le_antisymm hge hle]
    exact ⟨before, after, rfl⟩

end Neighbours

section Histogram

/-- No bin is empty exactly when each has one of the values in it. -/
theorem histogram_pos_iff {edges : List V} {values : List (Option V)} :
    (∀ count ∈ histogram edges values, 0 < count) ↔
      ∀ before low high after, edges = before ++ low :: high :: after →
        ∃ cell ∈ values, inBin after.isEmpty low high cell = true := by
  induction edges with
  | nil => simp [histogram]
  | cons low rest ih =>
    cases rest with
    | nil =>
      refine iff_of_true (fun count hcount => by cases hcount) ?_
      intro before low' high' after heq
      have hlength := congrArg List.length heq
      simp only [List.length_append, List.length_cons, List.length_nil] at hlength
      omega
    | cons high rest =>
      rw [histogram, List.forall_mem_cons, ih, List.countP_pos_iff]
      constructor
      · rintro ⟨hfirst, hlater⟩ before low' high' after heq
        cases before with
        | nil =>
          cases heq
          exact hfirst
        | cons edge before =>
          obtain ⟨-, heq⟩ := List.cons.inj heq
          exact hlater before low' high' after heq
      · intro h
        refine ⟨h [] low high rest rfl, ?_⟩
        intro before low' high' after heq
        exact h (low :: before) low' high' after (by rw [heq]; rfl)

/-- Values that are all between two of the edges are all counted. -/
theorem sum_histogram_eq_length {edges values : List V} (hsorted : edges.Pairwise (· < ·))
    (hlong : 2 ≤ edges.length) {low high : V} (hlow : low ∈ edges) (hhigh : high ∈ edges)
    (hall : ∀ v ∈ values, low ≤ v ∧ v ≤ high) :
    (histogram edges (values.map some)).sum = values.length := by
  obtain ⟨first, rest, rfl⟩ := List.exists_cons_of_length_pos (show 0 < edges.length by omega)
  have hrest : rest ≠ [] := by
    rintro rfl
    simp only [List.length_singleton] at hlong
    omega
  have hlast := List.getLast?_eq_getLast_of_ne_nil hrest
  have hle : (first :: rest).Pairwise (· ≤ ·) := hsorted.imp le_of_lt
  have hfirst : first ≤ low := hle.rel_head hlow
  have hge : high ≤ rest.getLast hrest := by
    have h := hle.rel_getLast hhigh
    rwa [List.getLast_cons hrest] at h
  rw [sum_histogram hle hlast, List.countP_map]
  refine (List.countP_eq_length.mpr ?_).trans rfl
  intro v hv
  obtain ⟨hlowv, hhighv⟩ := hall v hv
  simp [inRange, hfirst.trans hlowv, hhighv.trans hge]

theorem length_histogram (edges : List V) (values : List (Option V)) :
    (histogram edges values).length = edges.length - 1 := by
  induction edges with
  | nil => rfl
  | cons low rest ih =>
    cases rest with
    | nil => rfl
    | cons high rest =>
      rw [histogram, List.length_cons, ih]
      simp

end Histogram

section Sequence

variable {Q : ℕ → V} {bins : ℕ} {edges before after : List V} {low high : V}

/-- Between a point where a property holds and one where it fails, it is lost in one step. -/
theorem exists_last_before {P : ℕ → Prop} {i j : ℕ} (hij : i ≤ j) (hi : P i) (hj : ¬ P j) :
    ∃ k, i ≤ k ∧ k < j ∧ P k ∧ ¬ P (k + 1) := by
  induction j, hij using Nat.le_induction with
  | base => exact absurd hi hj
  | succ j hij ih =>
    by_cases hstill : P j
    · exact ⟨j, hij, Nat.lt_succ_self j, hstill, hj⟩
    · obtain ⟨k, hik, hkj, hk⟩ := ih hstill
      exact ⟨k, hik, Nat.lt_succ_of_lt hkj, hk⟩

variable (hmono : ∀ i j, i ≤ j → j ≤ bins → Q i ≤ Q j)
  (hmem : ∀ edge, edge ∈ edges ↔ ∃ k, k ≤ bins ∧ Q k = edge)
  (hsorted : edges.Pairwise (· < ·))

include hmono hmem hsorted

/-- Two terms in a row that differ are neighbours among the edges. -/
theorem neighbours_of_step {k : ℕ} (hk : k < bins) (hless : Q k < Q (k + 1)) :
    ∃ before after, edges = before ++ Q k :: Q (k + 1) :: after := by
  refine neighbours_of_sorted hsorted ((hmem _).mpr ⟨k, hk.le, rfl⟩)
    ((hmem _).mpr ⟨k + 1, hk, rfl⟩) hless ?_
  intro edge hedge
  obtain ⟨i, hi, rfl⟩ := (hmem edge).mp hedge
  rcases Nat.lt_or_ge k i with h | h
  · exact Or.inr (hmono (k + 1) i h hi)
  · exact Or.inl (hmono i k h hk.le)

/-- Neighbours among the edges are two terms in a row. -/
theorem step_of_neighbours (heq : edges = before ++ low :: high :: after) :
    ∃ k, k < bins ∧ Q k = low ∧ Q (k + 1) = high := by
  have hlow : low ∈ edges := by simp [heq]
  have hhigh : high ∈ edges := by simp [heq]
  have hless : low < high := by
    rw [heq] at hsorted
    exact List.rel_of_pairwise_cons (List.pairwise_append.mp hsorted).2.1 List.mem_cons_self
  obtain ⟨i, hi, rfl⟩ := (hmem low).mp hlow
  obtain ⟨j, hj, rfl⟩ := (hmem high).mp hhigh
  have hij : i ≤ j := by
    by_contra hafter
    exact absurd (hmono j i (by omega) hi) (not_le.mpr hless)
  obtain ⟨k, hik, hkj, hk, hnext⟩ :=
    exists_last_before (P := fun m => Q m ≤ Q i) hij le_rfl (not_le.mpr hless)
  refine ⟨k, by omega, le_antisymm hk (hmono i k hik (by omega)), ?_⟩
  have hle : Q (k + 1) ≤ Q j := hmono (k + 1) j hkj hj
  have hge : Q j ≤ Q (k + 1) := by
    rw [heq] at hsorted
    have hedge : Q (k + 1) ∈ before ++ Q i :: Q j :: after := by
      rw [← heq]
      exact (hmem _).mpr ⟨k + 1, by omega, rfl⟩
    exact (le_or_ge_of_neighbours hsorted hedge).resolve_left hnext
  exact le_antisymm hle hge

end Sequence

end VeriPay.Lib
