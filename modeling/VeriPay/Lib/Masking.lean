import VeriPay.Lib.Payload

/-!
Replacing the values under chosen keys of a payload, whatever they hold. Of an address
of the payload either no key stops the descent, or its last step is the first key that
does, or it lies below such a key.
-/

namespace VeriPay.Lib

def Step.stops (stop : String → Bool) : Step → Bool
  | .key name => stop name
  | .index _ => false

namespace Address

variable (stop : String → Bool)

/-- No key on the way stops. -/
def clear (address : Address) : Bool := address.all fun step => !step.stops stop

/-- The last key stops, and none before it. -/
def masked (address : Address) : Bool :=
  clear stop address.dropLast && address.getLast?.any fun step => step.stops stop

/-- A key before the last step stops. -/
def hidden (address : Address) : Bool := address.dropLast.any fun step => step.stops stop

variable {stop : String → Bool}

theorem clear_cons (step : Step) (rest : Address) :
    clear stop (step :: rest) = (!step.stops stop && clear stop rest) := rfl

theorem masked_singleton (step : Step) : masked stop [step] = step.stops stop := by
  simp [masked, clear]

theorem masked_cons (step : Step) {rest : Address} (hrest : rest ≠ []) :
    masked stop (step :: rest) = (!step.stops stop && masked stop rest) := by
  obtain ⟨next, rest, rfl⟩ := List.exists_cons_of_ne_nil hrest
  simp [masked, clear, Bool.and_assoc]

theorem hidden_cons (step : Step) {rest : Address} (hrest : rest ≠ []) :
    hidden stop (step :: rest) = (step.stops stop || hidden stop rest) := by
  obtain ⟨next, rest, rfl⟩ := List.exists_cons_of_ne_nil hrest
  simp [hidden]

variable (stop) in
theorem clear_or_masked_or_hidden (address : Address) :
    clear stop address = true ∨ masked stop address = true ∨ hidden stop address = true := by
  induction address with
  | nil => exact Or.inl rfl
  | cons step rest ih =>
    cases hstep : step.stops stop with
    | true =>
      rcases eq_or_ne rest [] with rfl | hrest
      · exact Or.inr (Or.inl (by rw [masked_singleton, hstep]))
      · exact Or.inr (Or.inr (by rw [hidden_cons step hrest, hstep, Bool.true_or]))
    | false =>
      rcases eq_or_ne rest [] with rfl | hrest
      · exact Or.inl (by simp [clear, hstep])
      · rw [clear_cons, masked_cons step hrest, hidden_cons step hrest, hstep]
        simpa using ih

end Address

namespace Payload

open Address

variable {S : Type}

section Mask

variable (stop : String → Bool) (token : Payload S → S)

mutual

/-- The payload with a token under every stopping key, and tuples turned into lists. -/
def mask : Payload S → Payload S
  | leaf value => leaf value
  | list items => list (maskItems items)
  | tuple items => list (maskItems items)
  | map fields => map (maskFields fields)

def maskItems : List (Payload S) → List (Payload S)
  | [] => []
  | item :: rest => mask item :: maskItems rest

def maskFields : List (String × Payload S) → List (String × Payload S)
  | [] => []
  | (name, value) :: rest =>
    (name, if stop name then leaf (token value) else mask value) :: maskFields rest

end

/-- What the child reached by the step becomes. -/
def maskChild (step : Step) : Payload S → Payload S :=
  if step.stops stop then fun value => leaf (token value) else mask stop token

theorem maskItems_eq_map (items : List (Payload S)) :
    maskItems stop token items = items.map (mask stop token) := by
  induction items with
  | nil => rfl
  | cons item rest ih => rw [maskItems, ih, List.map_cons]

theorem maskFields_eq_map (fields : List (String × Payload S)) :
    maskFields stop token fields =
      fields.map fun field => (field.1, maskChild stop token (.key field.1) field.2) := by
  induction fields with
  | nil => rfl
  | cons field rest ih =>
    rw [maskFields, ih, List.map_cons, maskChild, Step.stops]
    split_ifs <;> rfl

theorem map_fst_maskFields (fields : List (String × Payload S)) :
    (maskFields stop token fields).map Prod.fst = fields.map Prod.fst := by
  rw [maskFields_eq_map, List.map_map]
  rfl

theorem lookup_maskFields (fields : List (String × Payload S)) (name : String) :
    (maskFields stop token fields).lookup name =
      (fields.lookup name).map (maskChild stop token (.key name)) := by
  rw [maskFields_eq_map]
  induction fields with
  | nil => rfl
  | cons field rest ih =>
    rw [List.map_cons, List.lookup_cons, List.lookup_cons, ih]
    cases hname : name == field.1 with
    | false => rfl
    | true => rw [beq_iff_eq.mp hname]; rfl

theorem outline_mask (payload : Payload S) :
    (mask stop token payload).outline = payload.outline.listed := by
  cases payload with
  | leaf value => rfl
  | list items => simp [mask, outline, maskItems_eq_map, Outline.listed]
  | tuple items => simp [mask, outline, maskItems_eq_map, Outline.listed]
  | map fields => simp [mask, outline, map_fst_maskFields, Outline.listed]

theorem wellKeyed_mask {payload : Payload S} (hpayload : payload.WellKeyed) :
    (mask stop token payload).WellKeyed := by
  have hmap : ∀ items : List (Payload S), (∀ item ∈ items, (mask stop token item).WellKeyed) →
      (list (maskItems stop token items)).WellKeyed := by
    intro items hitems
    rw [maskItems_eq_map]
    refine .list _ ?_
    intro masked hmasked
    obtain ⟨item, hitem, rfl⟩ := List.mem_map.mp hmasked
    exact hitems item hitem
  induction hpayload with
  | leaf value => exact .leaf value
  | list items hitems ih => exact hmap items ih
  | tuple items hitems ih => exact hmap items ih
  | map fields hkeys hfields ih =>
    refine .map _ (by rwa [map_fst_maskFields]) ?_
    rw [maskFields_eq_map]
    intro masked hmasked
    obtain ⟨field, hfield, rfl⟩ := List.mem_map.mp hmasked
    show (maskChild stop token (.key field.1) field.2).WellKeyed
    rw [maskChild]
    split_ifs
    · exact .leaf _
    · exact ih field hfield

/-- One step into the masked payload. -/
theorem child?_mask (payload : Payload S) (step : Step) :
    (mask stop token payload).child? step =
      (payload.child? step).map (maskChild stop token step) := by
  cases payload with
  | leaf value => cases step <;> rfl
  | list items =>
    cases step with
    | key name => rfl
    | index position =>
      rw [mask, maskItems_eq_map]
      exact List.getElem?_map
  | tuple items =>
    cases step with
    | key name => rfl
    | index position =>
      rw [mask, maskItems_eq_map]
      exact List.getElem?_map
  | map fields =>
    cases step with
    | index position => rfl
    | key name => exact lookup_maskFields stop token fields name

variable {stop}

theorem at?_mask_of_clear {address : Address} (payload : Payload S)
    (h : clear stop address = true) :
    (mask stop token payload).at? address = (payload.at? address).map (mask stop token) := by
  induction address generalizing payload with
  | nil => rfl
  | cons step rest ih =>
    rw [clear_cons, Bool.and_eq_true, Bool.not_eq_true'] at h
    rw [at?_cons, at?_cons, child?_mask, maskChild, h.1]
    cases payload.child? step with
    | none => rfl
    | some child => exact ih child h.2

theorem at?_mask_of_masked {address : Address} (payload : Payload S)
    (h : masked stop address = true) :
    (mask stop token payload).at? address =
      (payload.at? address).map fun value => leaf (token value) := by
  induction address generalizing payload with
  | nil => cases h
  | cons step rest ih =>
    rw [at?_cons, at?_cons, child?_mask, maskChild]
    rcases eq_or_ne rest [] with rfl | hrest
    · rw [masked_singleton] at h
      rw [h]
      cases payload.child? step <;> rfl
    · rw [masked_cons step hrest, Bool.and_eq_true, Bool.not_eq_true'] at h
      rw [h.1]
      cases payload.child? step with
      | none => rfl
      | some child => exact ih child h.2

theorem at?_mask_of_hidden {address : Address} (payload : Payload S)
    (h : hidden stop address = true) : (mask stop token payload).at? address = none := by
  induction address generalizing payload with
  | nil => cases h
  | cons step rest ih =>
    rw [at?_cons, child?_mask, maskChild]
    rcases eq_or_ne rest [] with rfl | hrest
    · cases h
    · obtain ⟨next, after, rfl⟩ := List.exists_cons_of_ne_nil hrest
      rw [hidden_cons step hrest, Bool.or_eq_true] at h
      cases hstep : step.stops stop with
      | true => cases payload.child? step <;> rfl
      | false =>
        have hbelow := h.resolve_left (by rw [hstep]; exact Bool.false_ne_true)
        cases payload.child? step with
        | none => rfl
        | some child => exact ih child hbelow

end Mask

section Agreement

/-- The addresses a mask puts a token at, in traversal order. -/
def maskedAddresses (stop : String → Bool) (payload : Payload S) : List Address :=
  payload.addresses.filter (masked stop)

/-- The payloads look the same wherever no key on the way stops. -/
def AgreeOutside (stop : String → Bool) (first second : Payload S) : Prop :=
  ∀ address, clear stop address = true →
    (first.at? address).map outline = (second.at? address).map outline

variable {stop : String → Bool}

theorem filter_addressesBelow {step : Step} {child : Payload S} (hchild : child.WellKeyed) :
    (addressesBelow step child).filter (masked stop) =
      if step.stops stop then [[step]]
      else (maskedAddresses stop child).map (step :: ·) := by
  have hcongr : child.addresses.filter (masked stop ∘ (step :: ·)) =
      child.addresses.filter fun address => !step.stops stop && masked stop address := by
    refine List.filter_congr ?_
    intro address haddress
    exact masked_cons step fun h => nil_notMem_addresses hchild (h ▸ haddress)
  rw [addressesBelow, List.filter_cons, List.filter_map, hcongr, masked_singleton,
    maskedAddresses]
  cases step.stops stop <;> simp

/-- A payload's masked addresses, child by child. -/
theorem WellKeyed.maskedAddresses_eq {payload : Payload S} (hpayload : payload.WellKeyed) :
    maskedAddresses stop payload = payload.outline.steps.flatMap fun step =>
      (payload.child? step).elim [] fun child =>
        if step.stops stop then [[step]]
        else (maskedAddresses stop child).map (step :: ·) := by
  rw [maskedAddresses, hpayload.addresses_eq, List.filter_flatMap]
  refine List.flatMap_congr ?_
  intro step _
  cases hchild : payload.child? step with
  | none => rfl
  | some child => exact filter_addressesBelow (hpayload.child hchild)

theorem AgreeOutside.outline_eq {first second : Payload S}
    (h : AgreeOutside stop first second) : first.outline = second.outline :=
  Option.some.inj (h [] rfl)

theorem AgreeOutside.child {first second firstChild secondChild : Payload S}
    (h : AgreeOutside stop first second) {step : Step} (hstep : step.stops stop = false)
    (hfirst : first.child? step = some firstChild)
    (hsecond : second.child? step = some secondChild) :
    AgreeOutside stop firstChild secondChild := by
  intro address haddress
  have hat := h (step :: address) (by rw [clear_cons, hstep, haddress]; rfl)
  rwa [at?_cons, at?_cons, hfirst, hsecond] at hat

/-- A token is due in one of the payloads where it is due in the other. -/
theorem AgreeOutside.isSome_at? {address : Address} {first second : Payload S}
    (h : AgreeOutside stop first second) (haddress : masked stop address = true) :
    (first.at? address).isSome = (second.at? address).isSome := by
  induction address generalizing first second with
  | nil => cases haddress
  | cons step rest ih =>
    have hstep : (first.child? step).isSome = (second.child? step).isSome := by
      rw [Bool.eq_iff_iff, isSome_child?, isSome_child?, h.outline_eq]
    rw [at?_cons, at?_cons]
    rcases eq_or_ne rest [] with rfl | hrest
    · simpa using hstep
    · rw [masked_cons step hrest, Bool.and_eq_true, Bool.not_eq_true'] at haddress
      cases hfirst : first.child? step with
      | none =>
        rw [hfirst] at hstep
        rw [Option.isSome_eq_false_iff.mp hstep.symm |> Option.isNone_iff_eq_none.mp]
      | some firstChild =>
        rw [hfirst] at hstep
        obtain ⟨secondChild, hsecond⟩ := Option.isSome_iff_exists.mp hstep.symm
        rw [hsecond]
        exact ih (h.child haddress.1 hfirst hsecond) haddress.2

/-- Where two payloads agree outside the stopping keys, the same addresses are masked. -/
theorem AgreeOutside.maskedAddresses_eq {first second : Payload S}
    (h : AgreeOutside stop first second) (hfirst : first.WellKeyed)
    (hsecond : second.WellKeyed) :
    maskedAddresses stop first = maskedAddresses stop second := by
  induction first using child_induction generalizing second with
  | hchild first ih =>
    rw [hfirst.maskedAddresses_eq, hsecond.maskedAddresses_eq, h.outline_eq]
    refine List.flatMap_congr ?_
    intro step hstep
    obtain ⟨secondChild, hsecondChild⟩ := Option.isSome_iff_exists.mp (isSome_child?.mpr hstep)
    rw [← h.outline_eq] at hstep
    obtain ⟨firstChild, hfirstChild⟩ := Option.isSome_iff_exists.mp (isSome_child?.mpr hstep)
    rw [hfirstChild, hsecondChild, Option.elim_some, Option.elim_some]
    cases hstops : step.stops stop with
    | true => rfl
    | false =>
      rw [ih step firstChild hfirstChild (h.child hstops hfirstChild hsecondChild)
        (hfirst.child hfirstChild) (hsecond.child hsecondChild)]

end Agreement

end Payload

end VeriPay.Lib
