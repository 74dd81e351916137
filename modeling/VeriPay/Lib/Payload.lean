import Mathlib.Data.List.Nodup
import Mathlib.Data.List.Basic

/-!
Nested maps, lists and tuples over scalars, as a decoded JSON document is. An address
leads from a payload to a part of it, and the outline of a part is what can be said of
it without entering its children.
-/

namespace VeriPay.Lib

/-- A `dict` is the list of its items in insertion order. -/
inductive Payload (S : Type)
  | leaf (value : S)
  | list (items : List (Payload S))
  | tuple (items : List (Payload S))
  | map (fields : List (String × Payload S))

inductive Step
  | key (name : String)
  | index (position : ℕ)
  deriving DecidableEq, Repr

abbrev Address := List Step

inductive Outline (S : Type)
  | leaf (value : S)
  | list (length : ℕ)
  | tuple (length : ℕ)
  | map (keys : List String)

/-- The same outline with a tuple read as a list. -/
def Outline.listed {S : Type} : Outline S → Outline S
  | tuple length => list length
  | outline => outline

/-- The steps to the children of a payload with this outline. -/
def Outline.steps {S : Type} : Outline S → List Step
  | leaf _ => []
  | list length => (List.range length).map .index
  | tuple length => (List.range length).map .index
  | map keys => keys.map .key

namespace Payload

variable {S : Type}

/-- An induction over the parts of a payload. -/
@[induction_eliminator]
theorem parts_induction {P : Payload S → Prop} (leaf : ∀ value, P (leaf value))
    (list : ∀ items, (∀ item ∈ items, P item) → P (list items))
    (tuple : ∀ items, (∀ item ∈ items, P item) → P (tuple items))
    (map : ∀ fields, (∀ field ∈ fields, P field.2) → P (map fields)) (payload : Payload S) :
    P payload := by
  refine @Payload.rec S P (fun items => ∀ item ∈ items, P item)
    (fun fields => ∀ field ∈ fields, P field.2) (fun field => P field.2)
    leaf list tuple map ?_ ?_ ?_ ?_ ?_ payload
  · intro item h
    cases h
  · intro item items hitem hitems
    exact List.forall_mem_cons.mpr ⟨hitem, hitems⟩
  · intro field h
    cases h
  · intro field fields hfield hfields
    exact List.forall_mem_cons.mpr ⟨hfield, hfields⟩
  · intro name value hvalue
    exact hvalue

/-- Every `dict` in the payload has distinct keys. -/
inductive WellKeyed : Payload S → Prop
  | leaf (value : S) : WellKeyed (leaf value)
  | list (items : List (Payload S)) (hitems : ∀ item ∈ items, WellKeyed item) :
      WellKeyed (list items)
  | tuple (items : List (Payload S)) (hitems : ∀ item ∈ items, WellKeyed item) :
      WellKeyed (tuple items)
  | map (fields : List (String × Payload S)) (hkeys : (fields.map Prod.fst).Nodup)
      (hfields : ∀ field ∈ fields, WellKeyed field.2) : WellKeyed (map fields)

def outline : Payload S → Outline S
  | leaf value => .leaf value
  | list items => .list items.length
  | tuple items => .tuple items.length
  | map fields => .map (fields.map Prod.fst)

def child? : Payload S → Step → Option (Payload S)
  | list items, .index position => items[position]?
  | tuple items, .index position => items[position]?
  | map fields, .key name => fields.lookup name
  | _, _ => none

/-- The part the address leads to. -/
def at? (payload : Payload S) : Address → Option (Payload S)
  | [] => some payload
  | step :: rest => (payload.child? step).bind fun child => child.at? rest

@[simp] theorem at?_nil (payload : Payload S) : payload.at? [] = some payload := rfl

@[simp] theorem at?_cons (payload : Payload S) (step : Step) (rest : Address) :
    payload.at? (step :: rest) = (payload.child? step).bind fun child => child.at? rest := rfl

mutual

/-- The addresses of the parts below the payload, each part before its own parts. -/
def addresses : Payload S → List Address
  | leaf _ => []
  | list items => itemAddresses 0 items
  | tuple items => itemAddresses 0 items
  | map fields => fieldAddresses fields

def itemAddresses (position : ℕ) : List (Payload S) → List Address
  | [] => []
  | item :: rest =>
    [.index position] :: (addresses item).map (.index position :: ·) ++
      itemAddresses (position + 1) rest

def fieldAddresses : List (String × Payload S) → List Address
  | [] => []
  | (name, value) :: rest =>
    [.key name] :: (addresses value).map (.key name :: ·) ++ fieldAddresses rest

end

/-- A key is looked up to the one value it is listed with. -/
theorem lookup_eq_some_iff {fields : List (String × Payload S)}
    (hkeys : (fields.map Prod.fst).Nodup) {name : String} {value : Payload S} :
    fields.lookup name = some value ↔ (name, value) ∈ fields := by
  induction fields with
  | nil => simp
  | cons head tail ih =>
    obtain ⟨hhead, htail⟩ := List.nodup_cons.mp hkeys
    rw [List.lookup_cons, List.mem_cons]
    by_cases hname : name = head.1
    · have hother : (name, value) ∉ tail := by
        intro hmem
        exact hhead (hname ▸ List.mem_map_of_mem hmem)
      rw [beq_iff_eq.mpr hname, or_iff_left hother, hname, Option.some.injEq]
      constructor
      · intro h
        rw [← h]
      · intro h
        rw [← h]
    · have hother : (name, value) ≠ head := fun h => hname (congrArg Prod.fst h)
      rw [beq_eq_false_iff_ne.mpr hname, or_iff_right hother]
      exact ih htail

/-- The addresses of a child reached by the step, and of its parts. -/
def addressesBelow (step : Step) (child : Payload S) : List Address :=
  [step] :: child.addresses.map (step :: ·)

theorem itemAddresses_cons (position : ℕ) (item : Payload S) (rest : List (Payload S)) :
    itemAddresses position (item :: rest) =
      addressesBelow (.index position) item ++ itemAddresses (position + 1) rest := rfl

theorem fieldAddresses_cons (name : String) (value : Payload S)
    (rest : List (String × Payload S)) :
    fieldAddresses ((name, value) :: rest) =
      addressesBelow (.key name) value ++ fieldAddresses rest := rfl

theorem itemAddresses_eq_flatMap (position : ℕ) (items : List (Payload S)) :
    itemAddresses position items = (List.range items.length).flatMap fun offset =>
      (items[offset]?).elim [] (addressesBelow (.index (position + offset))) := by
  induction items generalizing position with
  | nil => rfl
  | cons head tail ih =>
    rw [itemAddresses_cons, ih, List.length_cons, List.range_succ_eq_map, List.flatMap_cons,
      List.flatMap_map]
    refine congrArg (addressesBelow (.index position) head ++ ·) (List.flatMap_congr ?_)
    intro offset _
    rw [List.getElem?_cons_succ, Nat.succ_eq_add_one, Nat.add_assoc, Nat.add_comm 1]

theorem fieldAddresses_eq_flatMap {fields : List (String × Payload S)}
    (hkeys : (fields.map Prod.fst).Nodup) :
    fieldAddresses fields = (fields.map Prod.fst).flatMap fun name =>
      (fields.lookup name).elim [] (addressesBelow (.key name)) := by
  have hlisted : ∀ shown : List (String × Payload S), (∀ field ∈ shown, field ∈ fields) →
      fieldAddresses shown = (shown.map Prod.fst).flatMap fun name =>
        (fields.lookup name).elim [] (addressesBelow (.key name)) := by
    intro shown hshown
    induction shown with
    | nil => rfl
    | cons head tail ih =>
      obtain ⟨hhead, htail⟩ := List.forall_mem_cons.mp hshown
      rw [fieldAddresses_cons, ih htail, List.map_cons, List.flatMap_cons,
        (lookup_eq_some_iff hkeys).mpr hhead]
      rfl
  exact hlisted fields fun _ h => h

/-- A payload's addresses, child by child. -/
theorem WellKeyed.addresses_eq {payload : Payload S} (hpayload : payload.WellKeyed) :
    payload.addresses = payload.outline.steps.flatMap fun step =>
      (payload.child? step).elim [] (addressesBelow step) := by
  cases hpayload with
  | leaf value => rfl
  | list items hitems =>
    rw [addresses, itemAddresses_eq_flatMap, outline, Outline.steps, List.flatMap_map]
    simp only [child?, Nat.zero_add]
  | tuple items hitems =>
    rw [addresses, itemAddresses_eq_flatMap, outline, Outline.steps, List.flatMap_map]
    simp only [child?, Nat.zero_add]
  | map fields hkeys hfields =>
    rw [addresses, fieldAddresses_eq_flatMap hkeys, outline, Outline.steps,
      List.flatMap_map Step.key]
    rfl

theorem isSome_child? {payload : Payload S} {step : Step} :
    (payload.child? step).isSome = true ↔ step ∈ payload.outline.steps := by
  cases payload <;> cases step <;>
    simp [child?, outline, Outline.steps, List.lookup_isSome_iff]

/-- An induction over the children a step leads to. -/
theorem child_induction {P : Payload S → Prop}
    (hchild : ∀ payload, (∀ step child, payload.child? step = some child → P child) → P payload)
    (payload : Payload S) : P payload := by
  induction payload with
  | leaf value =>
    refine hchild _ ?_
    intro step child h
    cases step <;> cases h
  | list items ih =>
    refine hchild _ ?_
    intro step child h
    cases step with
    | key name => cases h
    | index position => exact ih child (List.mem_of_getElem? h)
  | tuple items ih =>
    refine hchild _ ?_
    intro step child h
    cases step with
    | key name => cases h
    | index position => exact ih child (List.mem_of_getElem? h)
  | map fields ih =>
    refine hchild _ ?_
    intro step child h
    cases step with
    | index position => cases h
    | key name =>
      obtain ⟨before, after, rfl, -⟩ := List.lookup_eq_some_iff.mp h
      exact ih (name, child) (List.mem_append_right before List.mem_cons_self)

theorem WellKeyed.child {payload child : Payload S} (hpayload : payload.WellKeyed) {step : Step}
    (hchild : payload.child? step = some child) : child.WellKeyed := by
  cases hpayload with
  | leaf value => cases step <;> cases hchild
  | list items hitems =>
    cases step with
    | key name => cases hchild
    | index position => exact hitems child (List.mem_of_getElem? hchild)
  | tuple items hitems =>
    cases step with
    | key name => cases hchild
    | index position => exact hitems child (List.mem_of_getElem? hchild)
  | map fields hkeys hfields =>
    cases step with
    | index position => cases hchild
    | key name => exact hfields _ ((lookup_eq_some_iff hkeys).mp hchild)

theorem WellKeyed.cons_mem_addresses {payload : Payload S} (hpayload : payload.WellKeyed)
    {step : Step} {rest : Address} :
    step :: rest ∈ payload.addresses ↔
      ∃ child, payload.child? step = some child ∧ (rest = [] ∨ rest ∈ child.addresses) := by
  rw [hpayload.addresses_eq, List.mem_flatMap]
  constructor
  · intro h
    obtain ⟨other, hother, hmem⟩ := h
    cases hchild : payload.child? other with
    | none => simp [hchild] at hmem
    | some child =>
      rw [hchild, Option.elim_some, addressesBelow, List.mem_cons, List.mem_map] at hmem
      rcases hmem with h | ⟨below, hbelow, h⟩
      · cases h
        exact ⟨child, hchild, Or.inl rfl⟩
      · cases h
        exact ⟨child, hchild, Or.inr hbelow⟩
  · intro h
    obtain ⟨child, hchild, hrest⟩ := h
    refine ⟨step, isSome_child?.mp (by rw [hchild]; rfl), ?_⟩
    rw [hchild, Option.elim_some, addressesBelow, List.mem_cons, List.mem_map]
    rcases hrest with rfl | hrest
    · exact Or.inl rfl
    · exact Or.inr ⟨rest, hrest, rfl⟩

theorem nil_notMem_addresses {payload : Payload S} (hpayload : payload.WellKeyed) :
    [] ∉ payload.addresses := by
  rw [hpayload.addresses_eq, List.mem_flatMap]
  intro h
  obtain ⟨step, -, hmem⟩ := h
  cases hchild : payload.child? step with
  | none => simp [hchild] at hmem
  | some child => simp [hchild, addressesBelow] at hmem

/-- The addresses are those that lead somewhere below the payload. -/
theorem WellKeyed.mem_addresses {payload : Payload S} (hpayload : payload.WellKeyed)
    {address : Address} :
    address ∈ payload.addresses ↔ address ≠ [] ∧ (payload.at? address).isSome = true := by
  induction address generalizing payload with
  | nil =>
    rw [iff_false_intro (nil_notMem_addresses hpayload), false_iff]
    intro h
    exact h.1 rfl
  | cons step rest ih =>
    rw [hpayload.cons_mem_addresses, at?_cons]
    constructor
    · intro h
      obtain ⟨child, hchild, hrest⟩ := h
      refine ⟨List.cons_ne_nil _ _, ?_⟩
      rw [hchild]
      rcases hrest with rfl | hrest
      · rfl
      · exact ((ih (hpayload.child hchild)).mp hrest).2
    · intro h
      obtain ⟨-, hsome⟩ := h
      cases hchild : payload.child? step with
      | none => simp [hchild] at hsome
      | some child =>
        rw [hchild] at hsome
        refine ⟨child, rfl, ?_⟩
        rcases eq_or_ne rest [] with rfl | hrest
        · exact Or.inl rfl
        · exact Or.inr ((ih (hpayload.child hchild)).mpr ⟨hrest, hsome⟩)

end Payload

/-- A `dict` that is not inside another payload. -/
structure Object (S : Type) where
  fields : List (String × Payload S)
  wellKeyed : (Payload.map fields).WellKeyed

namespace Object

variable {S : Type}

def payload (object : Object S) : Payload S := .map object.fields

/-- `object.get(name)`. -/
def get? (object : Object S) (name : String) : Option (Payload S) := object.fields.lookup name

end Object

end VeriPay.Lib
