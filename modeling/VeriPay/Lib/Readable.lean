import Mathlib.Data.List.TakeWhile

/-!
Texts a value can be read back from. A text is readable when nothing else written in
its place, before a text that ends it, gives the same characters; texts joined by
commas are readable when each of them is, before a delimiter.
-/

namespace VeriPay.Lib

section Readable

variable {α : Type}

/-- The value can be told from its text, and where that ends, before a text in `ends`. -/
def ReadableAt (ends : List Char → Prop) (text : α → List Char) (value : α) : Prop :=
  ∀ other rest otherRest, ends rest → ends otherRest →
    text value ++ rest = text other ++ otherRest → value = other ∧ rest = otherRest

def Readable (ends : List Char → Prop) (text : α → List Char) : Prop :=
  ∀ value, ReadableAt ends text value

/-- A text is read up to the first character it cannot contain. -/
theorem readable_of_chars {ends : List Char → Prop} {text : α → List Char} (allowed : Char → Bool)
    (hinjective : Function.Injective text) (hchars : ∀ value, ∀ c ∈ text value, allowed c = true)
    (hends : ∀ c rest, ends (c :: rest) → allowed c = false) : Readable ends text := by
  have htake : ∀ value rest, ends rest → (text value ++ rest).takeWhile allowed = text value := by
    intro value rest hrest
    rw [List.takeWhile_append_of_pos (hchars value)]
    cases rest with
    | nil => simp
    | cons c rest => simp [hends c rest hrest]
  intro first second firstRest secondRest hfirst hsecond h
  have hsame := htake first firstRest hfirst
  rw [h, htake second secondRest hsecond] at hsame
  refine ⟨hinjective hsame.symm, ?_⟩
  rw [hsame] at h
  exact List.append_cancel_left h

theorem readable_of_read {text : α → List Char} (read : List Char → Option (α × List Char))
    (hread : ∀ value rest, read (text value ++ rest) = some (value, rest)) :
    Readable (fun _ => True) text := by
  intro first second firstRest secondRest _ _ h
  have hsame := hread first firstRest
  rw [h, hread] at hsame
  cases hsame
  exact ⟨rfl, rfl⟩

end Readable

def isDelimiter (c : Char) : Bool := c ∈ [',', ']', '}', ')', ':']

/-- Nothing follows, or a delimiter does. -/
def Ended (rest : List Char) : Prop := ∀ c tail, rest = c :: tail → isDelimiter c = true

section Joined

variable {α : Type} (text : α → List Char)

/-- The texts of the items after the first. -/
def joinTail (items : List α) : List Char := items.flatMap fun item => ',' :: ' ' :: text item

/-- `", ".join(...)`. -/
def joined : List α → List Char
  | [] => []
  | item :: rest => text item ++ joinTail text rest

/-- What may follow the last item. -/
structure Closing (rest : List Char) : Prop where
  ended : Ended rest
  no_item : ∀ tail, rest ≠ ',' :: ' ' :: tail

variable {text}

theorem ended_joinTail (items : List α) {rest : List Char} (hrest : Ended rest) :
    Ended (joinTail text items ++ rest) := by
  cases items with
  | nil => exact hrest
  | cons item items =>
    intro c tail h
    cases h
    rfl

theorem joinTail_cons_append (item : α) (items : List α) (rest : List Char) :
    joinTail text (item :: items) ++ rest =
      ',' :: ' ' :: (text item ++ (joinTail text items ++ rest)) := by
  simp [joinTail]

theorem joinTail_inj {items others : List α} (hitems : ∀ item ∈ items, ReadableAt Ended text item)
    {rest otherRest : List Char} (hrest : Closing rest) (hotherRest : Closing otherRest)
    (h : joinTail text items ++ rest = joinTail text others ++ otherRest) :
    items = others ∧ rest = otherRest := by
  induction items generalizing others with
  | nil =>
    cases others with
    | nil => exact ⟨rfl, h⟩
    | cons other others =>
      rw [joinTail_cons_append] at h
      exact absurd h (hrest.no_item _)
  | cons item items ih =>
    obtain ⟨hitem, hitems⟩ := List.forall_mem_cons.mp hitems
    cases others with
    | nil =>
      rw [joinTail_cons_append] at h
      exact absurd h.symm (hotherRest.no_item _)
    | cons other others =>
      rw [joinTail_cons_append, joinTail_cons_append, List.cons.injEq, List.cons.injEq] at h
      obtain ⟨rfl, htail⟩ := hitem other _ _ (ended_joinTail items hrest.ended)
        (ended_joinTail others hotherRest.ended) h.2.2
      obtain ⟨rfl, hsame⟩ := ih hitems htail
      exact ⟨rfl, hsame⟩

/-- Joined texts that do not start with a delimiter are read item by item. -/
theorem joined_inj {items others : List α} (hitems : ∀ item ∈ items, ReadableAt Ended text item)
    (hhead : ∀ item, ∃ head tail, text item = head :: tail ∧ isDelimiter head = false)
    {rest otherRest : List Char} (hrest : Closing rest) (hotherRest : Closing otherRest)
    (h : joined text items ++ rest = joined text others ++ otherRest) :
    items = others ∧ rest = otherRest := by
  have hopen : ∀ item more after closing, Ended closing →
      closing ≠ joined text (item :: more) ++ after := by
    intro item more after closing hclosing heq
    obtain ⟨head, tail, htext, hdelimiter⟩ := hhead item
    rw [joined, htext] at heq
    have hends := hclosing head _ heq
    rw [hdelimiter] at hends
    cases hends
  cases items with
  | nil =>
    cases others with
    | nil => exact ⟨rfl, h⟩
    | cons other others => exact absurd h (hopen other others _ rest hrest.ended)
  | cons item items =>
    obtain ⟨hitem, hitems⟩ := List.forall_mem_cons.mp hitems
    cases others with
    | nil => exact absurd h.symm (hopen item items _ otherRest hotherRest.ended)
    | cons other others =>
      rw [joined, joined, List.append_assoc, List.append_assoc] at h
      obtain ⟨rfl, htail⟩ := hitem other _ _ (ended_joinTail items hrest.ended)
        (ended_joinTail others hotherRest.ended) h
      obtain ⟨rfl, hsame⟩ := joinTail_inj hitems hrest hotherRest htail
      exact ⟨rfl, hsame⟩

end Joined

end VeriPay.Lib
