import Mathlib.Algebra.BigOperators.Group.List.Basic
import Mathlib.Algebra.Field.Defs
import Mathlib.Algebra.Order.BigOperators.Group.List
import Mathlib.Data.List.Perm.Basic
import Mathlib.Order.WithBot
import Mathlib.Tactic.Ring

/-!
Histograms over given bin edges, as numpy computes them, and the population stability
index of two of them. A missing value is in no bin, nor is one outside the outer edges.
-/

namespace VeriPay.Lib

section Histogram

variable {V : Type*} [LinearOrder V]

/-- A bin holds its left edge, and its right one only if it is the last. -/
def inBin (last : Bool) (low high : V) : Option V → Bool
  | none => false
  | some value => low ≤ value && if last then value ≤ high else value < high

/-- `np.histogram(values, bins=edges)`. -/
def histogram : List V → List (Option V) → List ℕ
  | low :: high :: rest, values =>
    values.countP (inBin rest.isEmpty low high) :: histogram (high :: rest) values
  | _, _ => []

/-- The bins between the edges, as tests. -/
def binsOf : List V → List (Option V → Bool)
  | low :: high :: rest => inBin rest.isEmpty low high :: binsOf (high :: rest)
  | _ => []

theorem histogram_eq_map (edges : List V) (values : List (Option V)) :
    histogram edges values = (binsOf edges).map fun bin => values.countP bin := by
  induction edges with
  | nil => rfl
  | cons low rest ih =>
    cases rest with
    | nil => rfl
    | cons high rest => rw [histogram, ih, binsOf, List.map_cons]

/-- A value added several times counts in its bin that often. -/
theorem histogram_append_replicate (edges : List V) (values : List (Option V)) (count : ℕ)
    (cell : Option V) :
    histogram edges (values ++ List.replicate count cell) =
      (binsOf edges).map fun bin => values.countP bin + count * [cell].countP bin := by
  rw [histogram_eq_map]
  refine List.map_congr_left ?_
  intro bin _
  rw [List.countP_append, List.countP_replicate, List.countP_singleton]
  split_ifs <;> simp

/-- The order of the values does not matter. -/
theorem histogram_perm {values others : List (Option V)} (h : values.Perm others)
    (edges : List V) : histogram edges values = histogram edges others := by
  induction edges with
  | nil => rfl
  | cons low rest ih =>
    cases rest with
    | nil => rfl
    | cons high rest =>
      rw [histogram, histogram, h.countP_eq, ih]

/-- Missing values and values outside the outer edges are not counted. -/
theorem histogram_append_outside {edges : List V} {blank : Option V}
    (houtside : ∀ value, blank = some value →
      (∀ edge ∈ edges, value < edge) ∨ ∀ edge ∈ edges, edge < value)
    (values : List (Option V)) (count : ℕ) :
    histogram edges (values ++ List.replicate count blank) = histogram edges values := by
  induction edges with
  | nil => rfl
  | cons low rest ih =>
    cases rest with
    | nil => rfl
    | cons high rest =>
      have hrest : ∀ value, blank = some value →
          (∀ edge ∈ high :: rest, value < edge) ∨ ∀ edge ∈ high :: rest, edge < value := by
        intro value hvalue
        rcases houtside value hvalue with h | h
        · exact Or.inl fun edge hedge => h edge (List.mem_cons_of_mem low hedge)
        · exact Or.inr fun edge hedge => h edge (List.mem_cons_of_mem low hedge)
      have hbin : inBin rest.isEmpty low high blank = false := by
        cases blank with
        | none => rfl
        | some value =>
          rcases houtside value rfl with h | h
          · have hlow := h low List.mem_cons_self
            simp [inBin, not_le.mpr hlow]
          · have hhigh := h high (List.mem_cons_of_mem low List.mem_cons_self)
            cases rest <;> simp [inBin, not_le.mpr hhigh, not_lt.mpr hhigh.le]
      rw [histogram, histogram, ih hrest, List.countP_append, List.countP_replicate, hbin]
      rfl

/-- A number between two bounds, both inclusive. -/
def inRange (low high : V) : Option V → Bool
  | none => false
  | some value => low ≤ value && value ≤ high

theorem countP_split {α : Type*} {p q r : α → Bool} {items : List α}
    (h : ∀ a ∈ items, (if r a = true then 1 else 0) =
      (if p a = true then 1 else 0) + if q a = true then 1 else 0) :
    items.countP r = items.countP p + items.countP q := by
  induction items with
  | nil => rfl
  | cons a rest ih =>
    have ha := h a List.mem_cons_self
    rw [List.countP_cons, List.countP_cons, List.countP_cons,
      ih fun b hb => h b (List.mem_cons_of_mem a hb)]
    omega

/-- A value is in the first bin, or in the range of the others. -/
theorem inRange_split {low high last : V} (hlow : low ≤ high) (hhigh : high ≤ last)
    (cell : Option V) :
    (if inRange low last cell = true then 1 else 0) =
      (if inBin false low high cell = true then 1 else 0) +
        if inRange high last cell = true then 1 else 0 := by
  cases cell with
  | none => rfl
  | some value =>
    rcases lt_or_ge value high with hless | hmore
    · have hle : value ≤ last := hless.le.trans hhigh
      simp [inRange, inBin, hless, hle, not_le.mpr hless]
    · have hge : low ≤ value := hlow.trans hmore
      simp [inRange, inBin, hge, hmore, not_lt.mpr hmore]

/-- The bins hold together what is within the outer edges. -/
theorem sum_histogram {low last : V} {rest : List V} (hsorted : (low :: rest).Pairwise (· ≤ ·))
    (hlast : rest.getLast? = some last) (values : List (Option V)) :
    (histogram (low :: rest) values).sum = values.countP (inRange low last) := by
  induction rest generalizing low with
  | nil => cases hlast
  | cons high rest ih =>
    obtain ⟨hlow, hrest⟩ := List.pairwise_cons.mp hsorted
    rw [histogram, List.sum_cons]
    cases rest with
    | nil =>
      cases hlast
      have hbin : inBin true low high = inRange low high := by
        funext cell
        cases cell <;> rfl
      have hempty : histogram [high] values = [] := rfl
      rw [hempty, List.sum_nil, Nat.add_zero, List.isEmpty_nil, hbin]
      rfl
    | cons next rest =>
      rw [List.getLast?_cons_cons] at hlast
      have hhigh := (List.pairwise_cons.mp hrest).1 last (List.mem_of_getLast? hlast)
      rw [ih hrest hlast]
      refine (countP_split ?_).symm
      intro cell _
      exact inRange_split (hlow high List.mem_cons_self) hhigh cell

end Histogram

section Counting

variable {α β : Type*}

theorem sum_map_add_ite (columns : List β) (count : β → ℕ) (marked : β → Bool) :
    (columns.map fun column => count column + if marked column = true then 1 else 0).sum =
      (columns.map count).sum + columns.countP marked := by
  induction columns with
  | nil => rfl
  | cons column rest ih =>
    rw [List.map_cons, List.sum_cons, ih, List.map_cons, List.sum_cons, List.countP_cons]
    omega

/-- Cells are counted column by column or row by row. -/
theorem sum_countP_comm (rows : List α) (columns : List β) (marked : β → α → Bool) :
    (columns.map fun column => rows.countP (marked column)).sum =
      (rows.map fun row => columns.countP fun column => marked column row).sum := by
  induction rows with
  | nil => simp
  | cons row rest ih =>
    rw [List.map_cons, List.sum_cons, ← ih]
    simp only [List.countP_cons]
    rw [sum_map_add_ite, Nat.add_comm]

theorem sum_map_ite (rows : List α) (marked : α → Bool) (weight : ℕ) :
    (rows.map fun row => if marked row = true then weight else 0).sum =
      rows.countP marked * weight := by
  induction rows with
  | nil => simp
  | cons row rest ih =>
    rw [List.map_cons, List.sum_cons, ih, List.countP_cons]
    split_ifs <;> ring

/-- A sum that is bounded term by term reaches its bound only in every term. -/
theorem sum_map_eq_iff {rows : List α} {count bound : α → ℕ}
    (hle : ∀ row ∈ rows, count row ≤ bound row) :
    (rows.map count).sum = (rows.map bound).sum ↔ ∀ row ∈ rows, count row = bound row := by
  induction rows with
  | nil => simp
  | cons row rest ih =>
    obtain ⟨hrow, hrest⟩ := List.forall_mem_cons.mp hle
    have hsum : (rest.map count).sum ≤ (rest.map bound).sum := List.sum_le_sum hrest
    rw [List.forall_mem_cons, ← ih hrest, List.map_cons, List.sum_cons, List.map_cons,
      List.sum_cons]
    omega

end Counting

/-- The population stability index, every share raised by `epsilon`. -/
def stabilityIndex {F : Type*} [Field F] [LinearOrder F] (epsilon : F) (log : F → F)
    (reference current : List F) : WithTop F :=
  if reference.sum ≤ 0 ∨ current.sum ≤ 0 then ⊤
  else
    let shares := fun counts : List F => counts.map fun count => count / counts.sum + epsilon
    ((List.zipWith (fun p q => (q - p) * log (q / p)) (shares reference) (shares current)).sum : F)

end VeriPay.Lib
