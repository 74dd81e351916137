import Mathlib.Data.List.Nodup

/-!
The items of a list whose key did not come before. Nothing is left out exactly where no key
comes twice.
-/

namespace VeriPay.Lib

variable {α κ : Type} [DecidableEq κ] (key : α → κ)

def firstPerKey : List α → List α
  | [] => []
  | a :: rest => a :: (firstPerKey rest).filter (fun b => key b ≠ key a)

theorem firstPerKey_sublist (items : List α) : (firstPerKey key items).Sublist items := by
  induction items with
  | nil => exact List.Sublist.slnil
  | cons a rest ih => exact (List.filter_sublist.trans ih).cons_cons a

theorem nodup_firstPerKey (items : List α) : ((firstPerKey key items).map key).Nodup := by
  induction items with
  | nil => exact List.nodup_nil
  | cons a rest ih =>
    rw [firstPerKey, List.map_cons, List.nodup_cons]
    constructor
    · intro hagain
      obtain ⟨b, hb, heq⟩ := List.mem_map.mp hagain
      exact of_decide_eq_true (List.mem_filter.mp hb).2 heq
    · exact ih.sublist (List.filter_sublist.map key)

/-- A key that comes is there. -/
theorem mem_map_firstPerKey_iff (items : List α) (k : κ) :
    k ∈ (firstPerKey key items).map key ↔ k ∈ items.map key := by
  induction items with
  | nil => rfl
  | cons a rest ih =>
    rw [firstPerKey, List.map_cons, List.map_cons, List.mem_cons, List.mem_cons, ← ih]
    by_cases hk : k = key a
    · simp [hk]
    · refine or_congr_right ?_
      constructor
      · intro h
        obtain ⟨b, hb, rfl⟩ := List.mem_map.mp h
        exact List.mem_map_of_mem (List.mem_filter.mp hb).1
      · intro h
        obtain ⟨b, hb, rfl⟩ := List.mem_map.mp h
        exact List.mem_map_of_mem (List.mem_filter.mpr ⟨hb, decide_eq_true hk⟩)

/-- An item that comes last is left out where its key came before. -/
theorem firstPerKey_concat (items : List α) (a : α) :
    firstPerKey key (items ++ [a]) =
      if key a ∈ items.map key then firstPerKey key items else firstPerKey key items ++ [a] := by
  induction items with
  | nil => rfl
  | cons b rest ih =>
    rw [List.cons_append, firstPerKey, ih, firstPerKey, List.map_cons]
    by_cases hb : key a = key b
    · have hagain : key a ∈ key b :: rest.map key := by simp [hb]
      rw [if_pos hagain]
      split_ifs <;> simp [hb]
    · have hmem : key a ∈ key b :: rest.map key ↔ key a ∈ rest.map key := by simp [hb]
      simp only [hmem]
      split_ifs
      · rfl
      · simp [List.filter_append, hb]

/-- A list of keys has the same keys without its repetitions. -/
theorem mem_firstPerKey_id_iff (keys : List κ) (k : κ) : k ∈ firstPerKey id keys ↔ k ∈ keys := by
  have h := mem_map_firstPerKey_iff id keys k
  rwa [List.map_id, List.map_id] at h

variable {key} {items : List α}

theorem firstPerKey_eq_self (h : (items.map key).Nodup) : firstPerKey key items = items := by
  induction items with
  | nil => rfl
  | cons a rest ih =>
    rw [List.map_cons, List.nodup_cons] at h
    rw [firstPerKey, ih h.2, List.filter_eq_self.mpr]
    intro b hb
    apply decide_eq_true
    intro heq
    exact h.1 (heq ▸ List.mem_map_of_mem hb)

/-- A key that comes again is a lost item. -/
theorem length_firstPerKey_eq_iff :
    (firstPerKey key items).length = items.length ↔ (items.map key).Nodup := by
  constructor
  · intro hlength
    rw [← (firstPerKey_sublist key items).eq_of_length hlength]
    exact nodup_firstPerKey key items
  · intro h
    rw [firstPerKey_eq_self h]

end VeriPay.Lib
