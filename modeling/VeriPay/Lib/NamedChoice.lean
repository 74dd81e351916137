import Mathlib.Logic.Equiv.Basic
import VeriPay.Lib.StableSort

/-!
Choosing among items by their names: the choice is the item with the greatest name, so a
renaming moves it, and swapping two names can move it to any item.
-/

namespace VeriPay.Lib

variable {α β κ : Type*} [LinearOrder κ]

/-- `sorted(items, key=key)[-1]`, where there is an item. -/
def lastBy (key : α → κ) (items : List α) : Option α :=
  (items.mergeSort (fun a b => key a ≤ key b)).getLast?

theorem lastBy_eq_none_iff (key : α → κ) (items : List α) :
    lastBy key items = none ↔ items = [] := by
  rw [lastBy, List.getLast?_eq_none_iff, ← List.length_eq_zero_iff, List.length_mergeSort,
    List.length_eq_zero_iff]

/-- No name is above the one chosen. -/
theorem le_of_lastBy {key : α → κ} {items : List α} {a : α} (h : lastBy key items = some a) :
    a ∈ items ∧ ∀ b ∈ items, key b ≤ key a := by
  obtain ⟨before, hsorted⟩ := List.getLast?_eq_some_iff.mp h
  have hperm := List.mergeSort_perm items (fun a b => key a ≤ key b)
  have hpairwise : (items.mergeSort (fun a b => key a ≤ key b)).Pairwise
      (fun a b => key a ≤ key b) := pairwise_mergeSort_key items
  rw [hsorted] at hperm hpairwise
  refine ⟨hperm.subset (by simp), ?_⟩
  intro b hb
  rcases List.mem_append.mp (hperm.symm.subset hb) with hbefore | hlast
  · exact (List.pairwise_append.mp hpairwise).2.2 b hbefore a (List.mem_singleton_self a)
  · rw [List.mem_singleton.mp hlast]

/-- Where no two items share a name, the greatest name determines the choice. -/
theorem lastBy_eq_some_iff {key : α → κ} {items : List α}
    (hnames : ∀ a ∈ items, ∀ b ∈ items, key a = key b → a = b) {a : α} :
    lastBy key items = some a ↔ a ∈ items ∧ ∀ b ∈ items, key b ≤ key a := by
  constructor
  · exact le_of_lastBy
  · rintro ⟨hmem, hgreatest⟩
    cases hchosen : lastBy key items with
    | none =>
      rw [(lastBy_eq_none_iff key items).mp hchosen] at hmem
      cases hmem
    | some chosen =>
      obtain ⟨hchosenMem, hchosenGreatest⟩ := le_of_lastBy hchosen
      rw [hnames chosen hchosenMem a hmem
        (le_antisymm (hgreatest chosen hchosenMem) (hchosenGreatest a hmem))]

theorem lastBy_map (key : β → κ) (f : α → β) (items : List α) :
    lastBy key (items.map f) = (lastBy (key ∘ f) items).map f := by
  have hsort : (items.mergeSort (fun a b => (key ∘ f) a ≤ (key ∘ f) b)).map f =
      (items.map f).mergeSort (fun a b => key a ≤ key b) :=
    List.map_mergeSort fun _ _ _ _ => rfl
  rw [lastBy, lastBy, ← hsort, List.getLast?_map]

/-- Swapping its name with the greatest one makes an item the choice. -/
theorem lastBy_swap {key : α → κ} {items : List α}
    (hnames : ∀ a ∈ items, ∀ b ∈ items, key a = key b → a = b) {chosen a : α}
    (hchosen : lastBy key items = some chosen) (ha : a ∈ items) :
    lastBy (fun b => Equiv.swap (key a) (key chosen) (key b)) items = some a := by
  obtain ⟨hmem, hgreatest⟩ := le_of_lastBy hchosen
  refine (lastBy_eq_some_iff ?_).mpr ⟨ha, ?_⟩
  · intro b hb c hc h
    exact hnames b hb c hc ((Equiv.swap (key a) (key chosen)).injective h)
  · intro b hb
    rw [Equiv.swap_apply_left]
    rcases eq_or_ne (key b) (key chosen) with hb' | hb'
    · rw [hb', Equiv.swap_apply_right]
      exact hgreatest a ha
    · rcases eq_or_ne (key b) (key a) with hb'' | hb''
      · rw [hb'', Equiv.swap_apply_left]
      · rw [Equiv.swap_apply_of_ne_of_ne hb'' hb']
        exact hgreatest b hb

end VeriPay.Lib
