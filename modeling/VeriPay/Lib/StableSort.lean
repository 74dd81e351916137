import Mathlib.Data.List.Basic
import Mathlib.Order.Lattice

/-!
Stable sorting by a key. A sorted list is determined by the order of its ties, so an item
that arrives last is sorted behind everything that is not above it; and the pairs of
neighbours of a list that is put together from two.
-/

namespace VeriPay.Lib

section Sorting

variable {α κ : Type*} [LinearOrder κ] {key : α → κ}

theorem mem_iff_of_ties {first second : List α}
    (hties : ∀ k, first.filter (fun a => key a = k) = second.filter (fun a => key a = k)) (a : α) :
    a ∈ first ↔ a ∈ second := by
  have h := congrArg (fun items => a ∈ items) (hties (key a))
  simpa using h

/-- The first of a sorted list is not above any of the list. -/
theorem key_head_le {a b : α} {rest : List α}
    (hsorted : (a :: rest).Pairwise (fun a b => key a ≤ key b)) (hb : b ∈ a :: rest) :
    key a ≤ key b := by
  rcases List.mem_cons.mp hb with h | h
  · rw [h]
  · exact List.rel_of_pairwise_cons hsorted h

/-- Two sorted lists with the same items at each key, in the same order, are one. -/
theorem eq_of_sorted_of_ties {first second : List α}
    (hfirst : first.Pairwise (fun a b => key a ≤ key b))
    (hsecond : second.Pairwise (fun a b => key a ≤ key b))
    (hties : ∀ k, first.filter (fun a => key a = k) = second.filter (fun a => key a = k)) :
    first = second := by
  induction first generalizing second with
  | nil =>
    cases second with
    | nil => rfl
    | cons b rest =>
      exact absurd ((mem_iff_of_ties hties b).mpr List.mem_cons_self) List.not_mem_nil
  | cons a rest ih =>
    cases second with
    | nil => exact absurd ((mem_iff_of_ties hties a).mp List.mem_cons_self) List.not_mem_nil
    | cons b others =>
      have hle := key_head_le hfirst ((mem_iff_of_ties hties b).mpr List.mem_cons_self)
      have hge := key_head_le hsecond ((mem_iff_of_ties hties a).mp List.mem_cons_self)
      have hkey : key b = key a := le_antisymm hge hle
      have hhead := hties (key a)
      rw [List.filter_cons, List.filter_cons, if_pos (decide_eq_true rfl),
        if_pos (decide_eq_true hkey)] at hhead
      obtain ⟨rfl, -⟩ := List.cons.inj hhead
      have htail : ∀ k, rest.filter (fun a => key a = k) = others.filter (fun a => key a = k) := by
        intro k
        have h := hties k
        rw [List.filter_cons, List.filter_cons] at h
        split_ifs at h with hk
        · exact (List.cons.inj h).2
        · exact h
      rw [ih hfirst.of_cons hsecond.of_cons htail]

theorem key_trans (a b c : α) (hab : decide (key a ≤ key b) = true)
    (hbc : decide (key b ≤ key c) = true) : decide (key a ≤ key c) = true :=
  decide_eq_true ((of_decide_eq_true hab).trans (of_decide_eq_true hbc))

theorem key_total (a b : α) : (decide (key a ≤ key b) || decide (key b ≤ key a)) = true := by
  simpa using le_total (key a) (key b)

theorem pairwise_mergeSort_key (items : List α) :
    (items.mergeSort (fun a b => key a ≤ key b)).Pairwise (fun a b => key a ≤ key b) := by
  have hsorted : (items.mergeSort (fun a b => key a ≤ key b)).Pairwise
      (fun a b => decide (key a ≤ key b) = true) :=
    List.pairwise_mergeSort key_trans key_total items
  exact hsorted.imp of_decide_eq_true

/-- The sort keeps the order of ties. -/
theorem filter_mergeSort_key (items : List α) (k : κ) :
    (items.mergeSort (fun a b => key a ≤ key b)).filter (fun a => key a = k) =
      items.filter (fun a => key a = k) := by
  have hties : (items.filter (fun a => key a = k)).Pairwise
      (fun a b => decide (key a ≤ key b) = true) := by
    refine List.pairwise_of_forall_mem_list ?_
    intro a ha b hb
    have hka := of_decide_eq_true (List.mem_filter.mp ha).2
    have hkb := of_decide_eq_true (List.mem_filter.mp hb).2
    rw [hka, hkb]
    exact decide_eq_true le_rfl
  have hsub := List.sublist_mergeSort key_trans key_total hties List.filter_sublist
  have hsub' := hsub.filter (fun a => decide (key a = k))
  rw [List.filter_filter] at hsub'
  simp only [Bool.and_self] at hsub'
  refine (hsub'.eq_of_length ?_).symm
  exact ((List.mergeSort_perm items _).filter _).length_eq.symm

/-- A sorted list is what is not above a key, and then what is. -/
theorem filter_append_filter_of_sorted {items : List α}
    (hsorted : items.Pairwise (fun a b => key a ≤ key b)) (k : κ) :
    items.filter (fun a => key a ≤ k) ++ items.filter (fun a => k < key a) = items := by
  induction items with
  | nil => rfl
  | cons a rest ih =>
    obtain ⟨ha, hrest⟩ := List.pairwise_cons.mp hsorted
    by_cases hk : key a ≤ k
    · rw [List.filter_cons, List.filter_cons, if_pos (decide_eq_true hk),
        if_neg (by simpa using hk), List.cons_append, ih hrest]
    · have hnone : rest.filter (fun b => key b ≤ k) = [] := by
        rw [List.filter_eq_nil_iff]
        intro b hb hle
        exact hk ((ha b hb).trans (of_decide_eq_true hle))
      have hlater := ih hrest
      rw [hnone, List.nil_append] at hlater
      rw [List.filter_cons, List.filter_cons, if_neg (by simpa using hk), hnone, List.nil_append,
        if_pos (by simpa using hk), hlater]

/-- An item that arrives last goes behind everything that is not above it. -/
theorem mergeSort_concat (items : List α) (item : α) :
    (items ++ [item]).mergeSort (fun a b => key a ≤ key b) =
      (items.mergeSort (fun a b => key a ≤ key b)).filter (fun a => key a ≤ key item) ++
        item :: (items.mergeSort (fun a b => key a ≤ key b)).filter
          (fun a => key item < key a) := by
  have hsorted : (items.mergeSort (fun a b => key a ≤ key b)).Pairwise
      (fun a b => key a ≤ key b) := pairwise_mergeSort_key items
  refine eq_of_sorted_of_ties (pairwise_mergeSort_key _) ?_ ?_
  · refine List.pairwise_append.mpr
      ⟨hsorted.filter _, List.pairwise_cons.mpr ⟨?_, hsorted.filter _⟩, ?_⟩
    · intro b hb
      exact (of_decide_eq_true (List.mem_filter.mp hb).2).le
    · intro a ha b hb
      have hle := of_decide_eq_true (List.mem_filter.mp ha).2
      rcases List.mem_cons.mp hb with h | h
      · rw [h]
        exact hle
      · exact hle.trans (of_decide_eq_true (List.mem_filter.mp h).2).le
  · intro k
    have hsplit := congrArg (fun sorted => sorted.filter (fun a => key a = k))
      (filter_append_filter_of_sorted hsorted (key item))
    simp only [List.filter_append] at hsplit
    rw [filter_mergeSort_key] at hsplit
    rw [filter_mergeSort_key, List.filter_append, List.filter_append, ← hsplit]
    by_cases hk : key item = k
    · subst hk
      have hnone : ((items.mergeSort (fun a b => key a ≤ key b)).filter
          (fun a => key item < key a)).filter (fun a => key a = key item) = [] := by
        rw [List.filter_eq_nil_iff]
        intro a ha hkey
        have hlt := of_decide_eq_true (List.mem_filter.mp ha).2
        exact hlt.ne (of_decide_eq_true hkey).symm
      simp only [List.filter_cons, hnone, decide_true, if_true, List.filter_nil, List.append_nil]
    · rw [List.filter_cons, List.filter_cons, if_neg (by simpa using hk),
        if_neg (by simpa using hk), List.filter_nil, List.append_nil]

end Sorting

section Adjacent

variable {α : Type*}

/-- The pairs of neighbours of two lists put together. -/
theorem mem_zip_tail_append {pair : α × α} (front back : List α) :
    pair ∈ (front ++ back).zip (front ++ back).tail ↔
      pair ∈ front.zip front.tail ∨ pair ∈ back.zip back.tail ∨
        front.getLast? = some pair.1 ∧ back.head? = some pair.2 := by
  induction front with
  | nil => simp
  | cons a rest ih =>
    cases rest with
    | nil =>
      cases back with
      | nil => simp
      | cons b others =>
        obtain ⟨left, right⟩ := pair
        simp [or_comm, eq_comm]
    | cons b others =>
      simp only [List.cons_append, List.tail_cons, List.zip_cons_cons, List.mem_cons] at ih ⊢
      rw [ih, List.getLast?_cons_cons, or_assoc]

theorem rel_of_mem_zip_tail {R : α → α → Prop} {items : List α} (h : items.Pairwise R) :
    ∀ pair ∈ items.zip items.tail, R pair.1 pair.2 := by
  induction items with
  | nil =>
    intro pair hpair
    cases hpair
  | cons a rest ih =>
    obtain ⟨hfirst, hrest⟩ := List.pairwise_cons.mp h
    cases rest with
    | nil =>
      intro pair hpair
      cases hpair
    | cons b others =>
      rw [List.tail_cons, List.zip_cons_cons]
      exact List.forall_mem_cons.mpr ⟨hfirst b List.mem_cons_self, ih hrest⟩

/-- An item put in between makes no pair of its own and parts the two it comes between. -/
theorem exists_adjacent_insert_iff {P : α × α → Prop} {item : α} (hleft : ∀ b, ¬ P (item, b))
    (hright : ∀ a, ¬ P (a, item)) (front back : List α) :
    (∃ pair ∈ (front ++ item :: back).zip (front ++ item :: back).tail, P pair) ↔
      (∃ pair ∈ front.zip front.tail, P pair) ∨ ∃ pair ∈ back.zip back.tail, P pair := by
  have hback : ∀ pair, pair ∈ (item :: back).zip (item :: back).tail ↔
      pair ∈ back.zip back.tail ∨ item = pair.1 ∧ back.head? = some pair.2 := by
    intro pair
    simpa using (mem_zip_tail_append [item] back : pair ∈ _ ↔ _)
  constructor
  · rintro ⟨pair, hpair, hP⟩
    rcases (mem_zip_tail_append front _).mp hpair with h | h | ⟨-, h⟩
    · exact Or.inl ⟨pair, h, hP⟩
    · rcases (hback pair).mp h with h | ⟨rfl, -⟩
      · exact Or.inr ⟨pair, h, hP⟩
      · exact absurd hP (hleft pair.2)
    · cases h
      exact absurd hP (hright pair.1)
  · rintro (⟨pair, h, hP⟩ | ⟨pair, h, hP⟩)
    · exact ⟨pair, (mem_zip_tail_append front _).mpr (Or.inl h), hP⟩
    · exact ⟨pair, (mem_zip_tail_append front _).mpr
        (Or.inr (Or.inl ((hback pair).mpr (Or.inl h)))), hP⟩

/-- Pairs that a key does not come between are those of the part below or of the one above. -/
theorem exists_adjacent_apart_iff {κ : Type*} [LinearOrder κ] {key : α → κ} {k : κ}
    {P : α × α → Prop} {front back : List α} (hfront : ∀ a ∈ front, key a ≤ k)
    (hback : ∀ b ∈ back, k < key b) :
    (∃ pair ∈ (front ++ back).zip (front ++ back).tail,
        P pair ∧ ¬ (key pair.1 ≤ k ∧ k < key pair.2)) ↔
      (∃ pair ∈ front.zip front.tail, P pair) ∨ ∃ pair ∈ back.zip back.tail, P pair := by
  constructor
  · rintro ⟨pair, hpair, hP, hapart⟩
    rcases (mem_zip_tail_append front back).mp hpair with h | h | ⟨hlast, hfirst⟩
    · exact Or.inl ⟨pair, h, hP⟩
    · exact Or.inr ⟨pair, h, hP⟩
    · exact absurd ⟨hfront _ (List.mem_of_getLast? hlast), hback _ (List.mem_of_head? hfirst)⟩
        hapart
  · rintro (⟨pair, h, hP⟩ | ⟨pair, h, hP⟩)
    · refine ⟨pair, (mem_zip_tail_append front back).mpr (Or.inl h), hP, ?_⟩
      rintro ⟨-, hlt⟩
      exact absurd (hfront _ (List.mem_of_mem_tail (List.of_mem_zip h).2)) (not_le.mpr hlt)
    · refine ⟨pair, (mem_zip_tail_append front back).mpr (Or.inr (Or.inl h)), hP, ?_⟩
      rintro ⟨hle, -⟩
      exact absurd (hback _ (List.of_mem_zip h).1) (not_lt.mpr hle)

end Adjacent

end VeriPay.Lib
