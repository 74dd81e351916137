import Mathlib.Data.List.Basic
import Mathlib.Data.List.Nodup
import VeriPay.Lib.PyError

/-!
Python's `dict`: the items in insertion order, each key once. Setting a known key
keeps its place, setting a new one appends it.
-/

namespace VeriPay.Lib

structure PyDict (K V : Type*) where
  items : List (K × V)
  nodup : (items.map Prod.fst).Nodup

namespace PyDict

variable {K V : Type*}

def empty : PyDict K V := ⟨[], List.nodup_nil⟩

instance : EmptyCollection (PyDict K V) := ⟨empty⟩

def keys (dict : PyDict K V) : List K := dict.items.map Prod.fst

def values (dict : PyDict K V) : List V := dict.items.map Prod.snd

variable [DecidableEq K]

/-- `dict.get(key)`. -/
def get? (dict : PyDict K V) (key : K) : Option V :=
  (dict.items.find? (fun item => item.1 = key)).map Prod.snd

/-- The items with the value of a key replaced. -/
def replaced (key : K) (value : V) (items : List (K × V)) : List (K × V) :=
  items.map (fun item => if item.1 = key then (key, value) else item)

theorem map_fst_replaced (key : K) (value : V) (items : List (K × V)) :
    (replaced key value items).map Prod.fst = items.map Prod.fst := by
  rw [replaced, List.map_map]
  refine List.map_congr_left ?_
  intro item _
  by_cases h : item.1 = key
  · simp [h]
  · simp [h]

/-- The items after `dict[key] = value`. -/
def setItems (key : K) (value : V) (items : List (K × V)) : List (K × V) :=
  if key ∈ items.map Prod.fst then replaced key value items else items ++ [(key, value)]

theorem nodup_setItems (key : K) (value : V) {items : List (K × V)}
    (h : (items.map Prod.fst).Nodup) : ((setItems key value items).map Prod.fst).Nodup := by
  unfold setItems
  split_ifs with hknown
  · rwa [map_fst_replaced]
  · rw [List.map_append]
    refine h.append (List.nodup_singleton _) ?_
    intro other hother hnew
    rw [List.mem_singleton.mp hnew] at hother
    exact hknown hother

/-- `dict[key] = value`. -/
def set (dict : PyDict K V) (key : K) (value : V) : PyDict K V :=
  ⟨setItems key value dict.items, nodup_setItems key value dict.nodup⟩

@[simp] theorem get?_empty (key : K) : (∅ : PyDict K V).get? key = none := rfl

/-- A key is found with the one value it is listed with. -/
theorem get?_eq_some_iff (dict : PyDict K V) {key : K} {value : V} :
    dict.get? key = some value ↔ (key, value) ∈ dict.items := by
  unfold get?
  rw [Option.map_eq_some_iff]
  constructor
  · intro h
    obtain ⟨item, hfound, rfl⟩ := h
    have hkey := List.find?_some hfound
    rw [decide_eq_true_eq] at hkey
    rw [← hkey]
    exact List.mem_of_find?_eq_some hfound
  · intro hmem
    obtain ⟨item, hfound⟩ := Option.isSome_iff_exists.mp
      (List.find?_isSome.mpr
      (show ∃ item ∈ dict.items, decide (item.1 = key) = true from
        ⟨_, hmem, decide_eq_true rfl⟩))
    have hkey := List.find?_some hfound
    rw [decide_eq_true_eq] at hkey
    have hsame := List.inj_on_of_nodup_map dict.nodup (List.mem_of_find?_eq_some hfound) hmem hkey
    exact ⟨item, hfound, by rw [hsame]⟩

theorem mem_values_of_get? {dict : PyDict K V} {key : K} {value : V}
    (h : dict.get? key = some value) : value ∈ dict.values :=
  List.mem_map.mpr ⟨(key, value), (get?_eq_some_iff dict).mp h, rfl⟩

theorem get?_set_self (dict : PyDict K V) (key : K) (value : V) :
    (dict.set key value).get? key = some value := by
  rw [get?_eq_some_iff]
  show (key, value) ∈ setItems key value dict.items
  unfold setItems
  split_ifs with hknown
  · obtain ⟨item, hitem, hkey⟩ := List.mem_map.mp hknown
    exact List.mem_map.mpr ⟨item, hitem, if_pos hkey⟩
  · exact List.mem_append_right _ (List.mem_singleton_self _)

theorem mem_setItems_of_ne {key other : K} {value value' : V} (h : other ≠ key)
    {items : List (K × V)} :
    (other, value') ∈ setItems key value items ↔ (other, value') ∈ items := by
  unfold setItems
  split_ifs with hknown
  · constructor
    · intro hmem
      obtain ⟨item, hitem, heq⟩ := List.mem_map.mp hmem
      split_ifs at heq with hkey
      · exact absurd (congrArg Prod.fst heq).symm h
      · rwa [heq] at hitem
    · intro hmem
      exact List.mem_map.mpr ⟨_, hmem, if_neg h⟩
  · rw [List.mem_append, List.mem_singleton, Prod.mk.injEq]
    simp [h]

theorem get?_set_of_ne (dict : PyDict K V) {key other : K} (value : V) (h : other ≠ key) :
    (dict.set key value).get? other = dict.get? other := by
  refine Option.ext ?_
  intro value'
  rw [get?_eq_some_iff, get?_eq_some_iff]
  exact mem_setItems_of_ne h

theorem get?_set (dict : PyDict K V) (key other : K) (value : V) :
    (dict.set key value).get? other = if other = key then some value else dict.get? other := by
  by_cases h : other = key
  · rw [h, if_pos rfl, get?_set_self]
  · rw [if_neg h, get?_set_of_ne dict value h]

/-- A dict filled key by key, leaving out the keys without a value. -/
def collect (keys : List K) (value : K → Option V) : PyDict K V :=
  keys.foldl
    (fun dict key =>
      match value key with
      | none => dict
      | some value => dict.set key value)
    ∅

theorem get?_collect (keys : List K) (value : K → Option V) (key : K) :
    (collect keys value).get? key = if key ∈ keys then value key else none := by
  have hfold : ∀ dict : PyDict K V, (keys.foldl
      (fun dict key =>
        match value key with
        | none => dict
        | some value => dict.set key value) dict).get? key =
      if key ∈ keys then (value key).or (dict.get? key) else dict.get? key := by
    induction keys with
    | nil => simp
    | cons first rest ih =>
      intro dict
      rw [List.foldl_cons, ih]
      by_cases hkey : key = first
      · subst hkey
        cases hvalue : value key with
        | none => simp
        | some found => simp [get?_set_self]
      · cases hvalue : value first with
        | none => simp [hkey]
        | some found => simp [hkey, get?_set_of_ne dict found hkey]
  rw [collect, hfold]
  simp

/-- Two such dicts are the same exactly when their values are, at every key. -/
theorem collect_eq_iff (keys : List K) (value other : K → Option V) :
    collect keys value = collect keys other ↔ ∀ key ∈ keys, value key = other key := by
  constructor
  · intro h key hkey
    have hget := get?_collect keys value key
    rw [h, get?_collect, if_pos hkey, if_pos hkey] at hget
    exact hget.symm
  · intro h
    unfold collect
    refine List.foldl_ext _ _ ∅ ?_
    intro dict key hkey
    rw [h key hkey]

/-- `dict[key]`. -/
def item (dict : PyDict String V) (key : String) : Py V :=
  match dict.get? key with
  | some value => .ok value
  | none => .error (.keyError key)

theorem item_of_get? {dict : PyDict String V} {key : String} {value : V}
    (h : dict.get? key = some value) : dict.item key = .ok value := by
  rw [item, h]

end PyDict

end VeriPay.Lib
