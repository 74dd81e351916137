import Mathlib.Algebra.BigOperators.Group.Finset.Basic
import Mathlib.Algebra.BigOperators.Group.Finset.Piecewise
import Mathlib.Data.Finset.Sort
import VeriPay.Lib.PyError

/-!
Loops over sets. A set is visited in some order, each element once; what a loop collects
into sets and sums does not depend on it.
-/

namespace VeriPay.Lib

variable {α : Type}

/-- A loop whose rounds all return. -/
theorem foldlM_ok {β : Type} {items : List α} {round : β → α → Py β} (next : β → α → β)
    (state : β) (h : ∀ state, ∀ item ∈ items, round state item = .ok (next state item)) :
    items.foldlM round state = .ok (items.foldl next state) := by
  induction items generalizing state with
  | nil => rfl
  | cons item rest ih =>
    rw [List.foldlM_cons, h state item List.mem_cons_self, Py.ok_bind]
    exact ih _ (fun state other hother => h state other (List.mem_cons_of_mem item hother))

/-- A comprehension whose items all return. -/
theorem mapM_ok {β : Type} {items : List α} {f : α → Py β} (value : α → β)
    (h : ∀ item ∈ items, f item = .ok (value item)) :
    items.mapM f = .ok (items.map value) := by
  induction items with
  | nil => rfl
  | cons item rest ih =>
    rw [List.mapM_cons, h item List.mem_cons_self, Py.ok_bind,
      ih fun other hother => h other (List.mem_cons_of_mem item hother), Py.ok_bind]
    rfl

/-- A loop over two variables that do not meet is two loops. -/
theorem foldl_pair {β γ : Type} (f : β → α → β) (g : γ → α → γ) (items : List α)
    (state : β × γ) :
    items.foldl (fun state a => (f state.1 a, g state.2 a)) state =
      (items.foldl f state.1, items.foldl g state.2) := by
  induction items generalizing state with
  | nil => rfl
  | cons a rest ih => exact ih (f state.1 a, g state.2 a)

/-- A loop that appends. -/
theorem foldl_flatMap {β : Type} (f : α → List β) (items : List α) (collected : List β) :
    items.foldl (fun collected a => collected ++ f a) collected =
      collected ++ items.flatMap f := by
  rw [List.foldl_append_eq_append]
  rfl

/-- A loop that appends one item a round. -/
theorem foldl_concat {β : Type} (f : α → β) (items : List α) (collected : List β) :
    items.foldl (fun collected a => collected ++ [f a]) collected =
      collected ++ items.map f := by
  rw [foldl_flatMap, List.map_eq_flatMap]

variable [DecidableEq α]

/-- The list visits every element of the set once. -/
structure Visits (s : Finset α) (visited : List α) : Prop where
  nodup : visited.Nodup
  toFinset_eq : visited.toFinset = s

theorem visits_sort [LinearOrder α] (s : Finset α) : Visits s s.sort where
  nodup := Finset.sort_nodup s _
  toFinset_eq := Finset.sort_toFinset s _

namespace Visits

variable {s : Finset α} {visited : List α}

theorem mem_iff (h : Visits s visited) {a : α} : a ∈ visited ↔ a ∈ s := by
  rw [← h.toFinset_eq, List.mem_toFinset]

theorem perm (h : Visits s visited) {visited' : List α} (h' : Visits s visited') :
    visited.Perm visited' :=
  List.perm_of_nodup_nodup_toFinset_eq h.nodup h'.nodup (h.toFinset_eq.trans h'.toFinset_eq.symm)

theorem sum_map {M : Type} [AddCommMonoid M] (h : Visits s visited) (value : α → M) :
    (visited.map value).sum = ∑ a ∈ s, value a := by
  rw [← h.toFinset_eq, List.sum_toFinset value h.nodup]

end Visits

section Loops

variable {β M : Type} [DecidableEq β] [AddCommMonoid M] {s : Finset α} {visited : List α}

/-- A loop that collects a sum. -/
theorem Visits.foldl_add (h : Visits s visited) (value : α → M) (total : M) :
    visited.foldl (fun total a => total + value a) total = total + ∑ a ∈ s, value a := by
  rw [← h.sum_map]
  clear h
  induction visited generalizing total with
  | nil => simp
  | cons a rest ih => rw [List.foldl_cons, ih, List.map_cons, List.sum_cons, add_assoc]

/-- A loop that collects a set. -/
theorem Visits.foldl_union (h : Visits s visited) (found : α → Finset β) (collected : Finset β) :
    visited.foldl (fun collected a => collected ∪ found a) collected =
      collected ∪ s.biUnion found := by
  rw [← h.toFinset_eq]
  clear h
  induction visited generalizing collected with
  | nil => simp
  | cons a rest ih =>
    rw [List.foldl_cons, ih, List.toFinset_cons, Finset.biUnion_insert, Finset.union_assoc]

/-- A loop that collects both. -/
theorem Visits.foldl_union_add (h : Visits s visited) (found : α → Finset β) (value : α → M)
    (state : Finset β × M) :
    visited.foldl (fun state a => (state.1 ∪ found a, state.2 + value a)) state =
      (state.1 ∪ s.biUnion found, state.2 + ∑ a ∈ s, value a) := by
  rw [← h.foldl_union, ← h.foldl_add]
  exact foldl_pair (fun collected a => collected ∪ found a) (fun total a => total + value a) _ _

/-- A sum over the items whose key is in a set, key by key: no item counts twice. -/
theorem sum_filter_mem {α : Type} (items : List α) (key : α → β) (keys : Finset β)
    (value : α → M) :
    ((items.filter (fun a => key a ∈ keys)).map value).sum =
      ∑ b ∈ keys, ((items.filter (fun a => key a = b)).map value).sum := by
  induction items with
  | nil => simp
  | cons a rest ih =>
    have hsplit : ∀ b, (((a :: rest).filter (fun a => key a = b)).map value).sum =
        (if key a = b then value a else 0) +
          ((rest.filter (fun a => key a = b)).map value).sum := by
      intro b
      by_cases hb : key a = b
      · simp [hb]
      · simp [hb]
    rw [Finset.sum_congr rfl fun b _ => hsplit b, Finset.sum_add_distrib, Finset.sum_ite_eq, ← ih]
    by_cases hkey : key a ∈ keys
    · simp [hkey]
    · simp [hkey]

end Loops

end VeriPay.Lib
