import VeriPay.Lib.AnyOrder

/-!
The first items of a sorted set, by their rank: an item is among the first so many exactly
when fewer than that come before it.
-/

namespace VeriPay.Lib

variable {α : Type} [LinearOrder α]

theorem mem_take_iff {items : List α} (hsorted : items.Pairwise (· < ·)) (n : ℕ) (a : α) :
    a ∈ items.take n ↔ a ∈ items ∧ (items.filter (fun b => b < a)).length < n := by
  induction items generalizing n with
  | nil => simp
  | cons first rest ih =>
    obtain ⟨hfirst, hrest⟩ := List.pairwise_cons.mp hsorted
    cases n with
    | zero => simp
    | succ n =>
      rw [List.take_succ_cons, List.mem_cons, List.mem_cons]
      by_cases hsame : a = first
      · subst hsame
        have hnone : rest.filter (fun b => b < a) = [] := by
          rw [List.filter_eq_nil_iff]
          intro b hb hlt
          exact lt_asymm (hfirst b hb) (of_decide_eq_true hlt)
        simp [hnone]
      · by_cases hlt : first < a
        · have hhead : (first :: rest).filter (fun b => b < a) =
              first :: rest.filter (fun b => b < a) :=
            List.filter_cons_of_pos (decide_eq_true hlt)
          rw [hhead, List.length_cons, ih hrest, or_iff_right hsame, or_iff_right hsame,
            Nat.add_lt_add_iff_right]
        · have hout : a ∉ rest := fun ha => hlt (hfirst a ha)
          have hout' : a ∉ rest.take n := fun ha => hout (List.mem_of_mem_take ha)
          simp [hsame, hout, hout']

theorem length_filter_sort (s : Finset α) (p : α → Prop) [DecidablePred p] :
    (s.sort.filter (fun a => p a)).length = (s.filter p).card := by
  have hnodup : (s.sort.filter (fun a => p a)).Nodup := (Finset.sort_nodup s _).filter _
  have hset : (s.sort.filter (fun a => p a)).toFinset = s.filter p := by
    rw [List.toFinset_filter, Finset.sort_toFinset]
    exact Finset.filter_congr fun a _ => decide_eq_true_iff
  rw [← hset, List.toFinset_card_of_nodup hnodup]

/-- Among the first items of the set: fewer come before it. -/
theorem mem_take_sort_iff {s : Finset α} {n : ℕ} {a : α} :
    a ∈ s.sort.take n ↔ a ∈ s ∧ (s.filter (fun b => b < a)).card < n := by
  rw [mem_take_iff s.sortedLT_sort.pairwise, Finset.mem_sort, length_filter_sort]

/-- Not among the last items of the set: more come from it on. -/
theorem mem_take_sort_sub_iff {s : Finset α} {n : ℕ} {a : α} :
    a ∈ s.sort.take (s.sort.length - n) ↔ a ∈ s ∧ n < (s.filter (fun b => a ≤ b)).card := by
  have hsplit := Finset.card_filter_add_card_filter_not (s := s) (fun b => b < a)
  simp only [not_lt] at hsplit
  rw [mem_take_sort_iff, Finset.length_sort]
  refine and_congr_right fun _ => ?_
  omega

end VeriPay.Lib
