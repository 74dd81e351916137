import VeriPay.Lib.Masking

/-!
PII minimization: the value under every sensitive key of a payload is replaced by a
surrogate token, and the paths of those keys are listed. Which keys are sensitive and
how a value is tokenized are parameters of the walk.
-/

namespace VeriPay.Common

open Lib Lib.Payload

section Walk

variable {S : Type} (sensitive : String → Bool) (tokenize : Payload S → S)

/-- `f"{path}.{key_text}" if path else key_text`. -/
def childPath (path key : String) : String := if path = "" then key else path ++ "." ++ key

/-- `f"{path}[{index}]"`. -/
def itemPath (path : String) (index : ℕ) : String := path ++ "[" ++ toString index ++ "]"

mutual

/-- `_walk`, returning `redacted` after the call beside its value. The keys of a `dict`
are distinct, so each assignment to `result` appends. -/
def walk : Payload S → String → List String → Payload S × List String
  | .map fields, path, redacted =>
    let (result, redacted) := walkFields fields path redacted
    (.map result, redacted)
  | .list items, path, redacted =>
    let (result, redacted) := walkItems items 0 path redacted
    (.list result, redacted)
  | .tuple items, path, redacted =>
    let (result, redacted) := walkItems items 0 path redacted
    (.list result, redacted)
  | .leaf value, _, redacted => (.leaf value, redacted)

def walkFields : List (String × Payload S) → String → List String →
    List (String × Payload S) × List String
  | [], _, redacted => ([], redacted)
  | (key, child) :: rest, path, redacted =>
    if sensitive key then
      let (result, redacted) := walkFields rest path (redacted ++ [childPath path key])
      ((key, .leaf (tokenize child)) :: result, redacted)
    else
      let (value, redacted) := walk child (childPath path key) redacted
      let (result, redacted) := walkFields rest path redacted
      ((key, value) :: result, redacted)

def walkItems : List (Payload S) → ℕ → String → List String → List (Payload S) × List String
  | [], _, _, redacted => ([], redacted)
  | child :: rest, index, path, redacted =>
    let (value, redacted) := walk child (itemPath path index) redacted
    let (result, redacted) := walkItems rest (index + 1) path redacted
    (value :: result, redacted)

end

/-- The path a step leads to. -/
def stepPath (path : String) : Step → String
  | .key name => childPath path name
  | .index position => itemPath path position

/-- How `redacted_fields` writes an address. -/
def renderPath (path : String) (address : Address) : String := address.foldl stepPath path

/-- The walk masks the payload and lists its masked addresses. -/
def WalkMasks (payload : Payload S) : Prop :=
  ∀ path redacted, walk sensitive tokenize payload path redacted =
    (mask sensitive tokenize payload,
      redacted ++ (maskedAddresses sensitive payload).map (renderPath path))

variable {sensitive tokenize}

theorem map_renderPath_filter_below {step : Step} {child : Payload S} (hchild : child.WellKeyed)
    (path : String) : ((addressesBelow step child).filter (Address.masked sensitive)).map
        (renderPath path) =
      if step.stops sensitive then [stepPath path step]
      else (maskedAddresses sensitive child).map (renderPath (stepPath path step)) := by
  rw [filter_addressesBelow hchild]
  split_ifs
  · rfl
  · rw [List.map_map]
    rfl

theorem walkItems_eq {items : List (Payload S)} (hkeyed : ∀ item ∈ items, item.WellKeyed)
    (hitems : ∀ item ∈ items, WalkMasks sensitive tokenize item) (index : ℕ) (path : String)
    (redacted : List String) : walkItems sensitive tokenize items index path redacted =
      (maskItems sensitive tokenize items, redacted ++
        ((itemAddresses index items).filter (Address.masked sensitive)).map
          (renderPath path)) := by
  induction items generalizing index redacted with
  | nil => simp [walkItems, maskItems, itemAddresses]
  | cons item rest ih =>
    obtain ⟨hkeyed, hkeyedRest⟩ := List.forall_mem_cons.mp hkeyed
    obtain ⟨hitem, hrest⟩ := List.forall_mem_cons.mp hitems
    rw [walkItems, hitem]
    simp only [ih hkeyedRest hrest]
    rw [itemAddresses_cons, List.filter_append, List.map_append,
      map_renderPath_filter_below hkeyed, if_neg (by simp [Step.stops]), List.append_assoc]
    rfl

theorem walkFields_eq {fields : List (String × Payload S)}
    (hkeyed : ∀ field ∈ fields, field.2.WellKeyed)
    (hfields : ∀ field ∈ fields, WalkMasks sensitive tokenize field.2) (path : String)
    (redacted : List String) : walkFields sensitive tokenize fields path redacted =
      (maskFields sensitive tokenize fields, redacted ++
        ((fieldAddresses fields).filter (Address.masked sensitive)).map (renderPath path)) := by
  induction fields generalizing redacted with
  | nil => simp [walkFields, maskFields, fieldAddresses]
  | cons field rest ih =>
    obtain ⟨name, value⟩ := field
    obtain ⟨hkeyed, hkeyedRest⟩ := List.forall_mem_cons.mp hkeyed
    obtain ⟨hvalue, hrest⟩ := List.forall_mem_cons.mp hfields
    rw [walkFields, maskFields, fieldAddresses_cons, List.filter_append, List.map_append,
      map_renderPath_filter_below hkeyed, Step.stops]
    by_cases hname : sensitive name = true
    · rw [if_pos hname, if_pos hname, if_pos hname]
      simp only [ih hkeyedRest hrest]
      rw [List.append_assoc]
      rfl
    · rw [if_neg hname, if_neg hname, if_neg hname, hvalue]
      simp only [ih hkeyedRest hrest]
      rw [List.append_assoc]
      rfl

theorem walkMasks {payload : Payload S} (hpayload : payload.WellKeyed) :
    WalkMasks sensitive tokenize payload := by
  induction hpayload with
  | leaf value => simp [WalkMasks, walk, mask, maskedAddresses, addresses]
  | list items hitems ih =>
    intro path redacted
    rw [walk, walkItems_eq hitems ih]
    rfl
  | tuple items hitems ih =>
    intro path redacted
    rw [walk, walkItems_eq hitems ih]
    rfl
  | map fields hkeys hfields ih =>
    intro path redacted
    rw [walk, walkFields_eq hfields ih]
    rfl

end Walk

/-- Sanitized payload and non-sensitive metadata about the transformation. -/
structure RedactionResult (S : Type) where
  payload : Object S
  redactedFields : List String := []
  tokenizationVersion : String := "deterministic-v1"

section Redact

variable {S : Type} (sensitive : String → Bool) (tokenize : Payload S → S)

/-- The walk of a `dict` is a `dict`. -/
theorem map_walkFields (payload : Object S) :
    Payload.map (walkFields sensitive tokenize payload.fields "" []).1 =
      mask sensitive tokenize payload.payload := by
  have hmasks : WalkMasks sensitive tokenize payload.payload := walkMasks payload.wellKeyed
  exact congrArg Prod.fst (hmasks "" [])

/-- `redact`, for this choice of sensitive keys and this tokenization. -/
def redact (payload : Object S) : RedactionResult S where
  payload := ⟨(walkFields sensitive tokenize payload.fields "" []).1,
    map_walkFields sensitive tokenize payload ▸
      wellKeyed_mask sensitive tokenize payload.wellKeyed⟩
  redactedFields := (walkFields sensitive tokenize payload.fields "" []).2

theorem redact_payload (payload : Object S) :
    (redact sensitive tokenize payload).payload.payload =
      mask sensitive tokenize payload.payload :=
  map_walkFields sensitive tokenize payload

theorem redact_redactedFields (payload : Object S) :
    (redact sensitive tokenize payload).redactedFields =
      (maskedAddresses sensitive payload.payload).map (renderPath "") := by
  have hmasks : WalkMasks sensitive tokenize payload.payload := walkMasks payload.wellKeyed
  exact congrArg Prod.snd (hmasks "" [])

/-- What a redaction keeps, replaces and reports. -/
structure Redacts (payload : Object S) (result : RedactionResult S) : Prop where
  token_at : ∀ address, Address.masked sensitive address = true →
    result.payload.payload.at? address =
      (payload.payload.at? address).map fun value => leaf (tokenize value)
  nothing_below : ∀ address, Address.hidden sensitive address = true →
    result.payload.payload.at? address = none
  rest_kept : ∀ address, Address.clear sensitive address = true →
    (result.payload.payload.at? address).map outline =
      (payload.payload.at? address).map fun part => part.outline.listed
  fields_listed : result.redactedFields =
    (payload.payload.addresses.filter (Address.masked sensitive)).map (renderPath "")
  all_listed : ∀ address, address ∈ payload.payload.addresses ↔
    address ≠ [] ∧ (payload.payload.at? address).isSome = true

/-- Two redactions that differ in tokens only. -/
structure DifferInTokens (first second : Object S) : Prop where
  fields_eq : (redact sensitive tokenize first).redactedFields =
    (redact sensitive tokenize second).redactedFields
  tokens_at : ∀ address, Address.masked sensitive address = true →
    ((redact sensitive tokenize first).payload.payload.at? address = none ∧
      (redact sensitive tokenize second).payload.payload.at? address = none) ∨
    ∃ firstValue secondValue,
      first.payload.at? address = some firstValue ∧
      second.payload.at? address = some secondValue ∧
      (redact sensitive tokenize first).payload.payload.at? address =
        some (leaf (tokenize firstValue)) ∧
      (redact sensitive tokenize second).payload.payload.at? address =
        some (leaf (tokenize secondValue))
  rest_eq : ∀ address, Address.masked sensitive address = false →
    ((redact sensitive tokenize first).payload.payload.at? address).map outline =
      ((redact sensitive tokenize second).payload.payload.at? address).map outline

theorem redacts (payload : Object S) :
    Redacts sensitive tokenize payload (redact sensitive tokenize payload) where
  token_at := by
    intro address h
    rw [redact_payload, at?_mask_of_masked tokenize _ h]
  nothing_below := by
    intro address h
    rw [redact_payload, at?_mask_of_hidden tokenize _ h]
  rest_kept := by
    intro address h
    rw [redact_payload, at?_mask_of_clear tokenize _ h, Option.map_map]
    exact congrArg (fun f => Option.map f _)
      (funext fun part => outline_mask sensitive tokenize part)
  fields_listed := redact_redactedFields sensitive tokenize payload
  all_listed := fun _ => payload.wellKeyed.mem_addresses

theorem differInTokens {first second : Object S}
    (h : AgreeOutside sensitive first.payload second.payload) :
    DifferInTokens sensitive tokenize first second where
  fields_eq := by
    rw [redact_redactedFields, redact_redactedFields,
      h.maskedAddresses_eq first.wellKeyed second.wellKeyed]
  tokens_at := by
    intro address haddress
    have hfirst := (redacts sensitive tokenize first).token_at address haddress
    have hsecond := (redacts sensitive tokenize second).token_at address haddress
    have hsome := h.isSome_at? haddress
    cases hvalue : first.payload.at? address with
    | none =>
      rw [hvalue] at hfirst hsome
      have hother : second.payload.at? address = none := by
        refine Option.not_isSome_iff_eq_none.mp ?_
        rw [← hsome]
        exact Bool.false_ne_true
      rw [hother] at hsecond
      exact Or.inl ⟨hfirst, hsecond⟩
    | some firstValue =>
      rw [hvalue] at hfirst hsome
      obtain ⟨secondValue, hother⟩ := Option.isSome_iff_exists.mp hsome.symm
      rw [hother] at hsecond
      exact Or.inr ⟨firstValue, secondValue, rfl, hother, hfirst, hsecond⟩
  rest_eq := by
    intro address haddress
    have hfirst := redacts sensitive tokenize first
    have hsecond := redacts sensitive tokenize second
    rcases Address.clear_or_masked_or_hidden sensitive address with
      hclear | hmasked | hhidden
    · have hagree := congrArg (Option.map Outline.listed) (h address hclear)
      rw [Option.map_map, Option.map_map] at hagree
      rw [hfirst.rest_kept address hclear, hsecond.rest_kept address hclear]
      exact hagree
    · rw [haddress] at hmasked
      cases hmasked
    · rw [hfirst.nothing_below address hhidden, hsecond.nothing_below address hhidden]

/-- Redaction replaces the value under each sensitive key and nothing else, lists those
keys' paths, and shows of two payloads that agree elsewhere only their tokens apart. -/
theorem redact_complete :
    (∀ payload : Object S, Redacts sensitive tokenize payload (redact sensitive tokenize payload)) ∧
      ∀ first second : Object S, AgreeOutside sensitive first.payload second.payload →
        DifferInTokens sensitive tokenize first second :=
  ⟨redacts sensitive tokenize, fun _ _ => differInTokens sensitive tokenize⟩

/-- One account number, sent to the redactor under the key `pan`. -/
def panPayload (pan : ℕ) : Object ℕ where
  fields := [("amount", leaf 50), ("pan", leaf pan)]
  wellKeyed := .map _ (by simp) (by simp [WellKeyed.leaf])

theorem panPayload_agree :
    AgreeOutside (fun key => key = "pan") (panPayload 4111).payload (panPayload 4222).payload := by
  intro address h
  cases address with
  | nil => rfl
  | cons step rest =>
    cases step with
    | index position => rfl
    | key name =>
      have hname : name ≠ "pan" := by
        intro heq
        simp [Address.clear_cons, Step.stops, heq] at h
      have hsame : (panPayload 4111).payload.child? (.key name) =
          (panPayload 4222).payload.child? (.key name) := by
        simp [panPayload, Object.payload, child?, List.lookup_cons, beq_false_of_ne hname]
      rw [at?_cons, at?_cons, hsame]

def lastDigits : Payload ℕ → ℕ
  | .leaf value => value % 100
  | _ => 0

theorem redact_complete_panPayload :
    Redacts (fun key => key = "pan") lastDigits (panPayload 4111)
        (redact (fun key => key = "pan") lastDigits (panPayload 4111)) ∧
      DifferInTokens (fun key => key = "pan") lastDigits (panPayload 4111) (panPayload 4222) :=
  ⟨(redact_complete (fun key => key = "pan") lastDigits).1 _,
    (redact_complete (fun key => key = "pan") lastDigits).2 _ _ panPayload_agree⟩

end Redact

end VeriPay.Common
