import Mathlib.Data.Bool.AllAny
import VeriPay.Lib.DateTime
import VeriPay.Lib.DecimalText
import VeriPay.Lib.Payload
import VeriPay.Lib.StrRepr

/-!
Python's `repr` and `str` of nested values. The `repr` of a value is readable before a
delimiter, so that equal texts come from equal values.
-/

namespace VeriPay.Lib

/-- Scalars of a payload. Floating-point numbers are left to the caller. -/
inductive Scalar (F : Type)
  | none
  | bool (value : Bool)
  | int (value : ℤ)
  | float (value : F)
  | str (value : String)
  | datetime (value : DateTime)
  deriving DecidableEq

/-- What Python prints of values the model does not look into, which characters it
prints as they are, and which numbers count as true. -/
structure Texts (F : Type) where
  floatRepr : F → List Char
  datetimeRepr : DateTime → List Char
  datetimeStr : DateTime → List Char
  printable : Char → Bool
  floatTruthy : F → Bool

section Scalars

/-- The digits a number's text may have besides its point, exponent and name. -/
def isDigitOrMinus (c : Char) : Bool := c.isDigit || c = '-'

/-- The characters of a word: not a delimiter, and not one another kind of value starts
with. -/
def isWord (c : Char) : Bool := c ∉ [',', ']', '}', ')', ':', '[', '{', '(', '\'', '"', 'd']

/-- A number's text names it, and a `datetime`'s text is a constructor call. -/
structure Texts.Faithful {F : Type} (texts : Texts F) : Prop where
  float_injective : Function.Injective texts.floatRepr
  float_chars : ∀ x, ∀ c ∈ texts.floatRepr x, isDigitOrMinus c = true ∨ c ∈ ".+einaf".toList
  float_marked : ∀ x, ∃ c ∈ texts.floatRepr x, c ∈ ".einf".toList
  datetime_readable : Readable (fun _ => True) texts.datetimeRepr
  datetime_call : ∀ d, ∃ rest, texts.datetimeRepr d = 'd' :: rest

variable {F : Type} (texts : Texts F)

/-- `repr(value)` of an `int`. -/
def intRepr (value : ℤ) : List Char :=
  if value < 0 then '-' :: Nat.toDigits 10 value.natAbs else Nat.toDigits 10 value.natAbs

def scalarRepr : Scalar F → List Char
  | .none => "None".toList
  | .bool true => "True".toList
  | .bool false => "False".toList
  | .int value => intRepr value
  | .float value => texts.floatRepr value
  | .str value => strRepr texts.printable value
  | .datetime value => texts.datetimeRepr value

theorem toDigits_injective : Function.Injective (Nat.toDigits 10) := by
  intro m n h
  rw [← Nat.ofDigitChars_ten_toDigits (n := m), h, Nat.ofDigitChars_ten_toDigits]

theorem intRepr_chars (value : ℤ) : ∀ c ∈ intRepr value, isDigitOrMinus c = true := by
  have hdigits : ∀ c ∈ Nat.toDigits 10 value.natAbs, isDigitOrMinus c = true := by
    intro c hc
    rw [isDigitOrMinus, isDigit_of_mem_toDigits _ c hc]
    rfl
  unfold intRepr
  split_ifs
  · exact List.forall_mem_cons.mpr ⟨rfl, hdigits⟩
  · exact hdigits

theorem intRepr_injective : Function.Injective intRepr := by
  have hminus : ∀ n rest, Nat.toDigits 10 n ≠ '-' :: rest := by
    intro n rest h
    have hdigit := isDigit_of_mem_toDigits n '-' (h ▸ List.mem_cons_self)
    cases hdigit
  intro first second h
  unfold intRepr at h
  split_ifs at h with hfirst hsecond hsecond
  · have habs := toDigits_injective (List.cons.inj h).2
    omega
  · exact absurd h.symm (hminus _ _)
  · exact absurd h (hminus _ _)
  · have habs := toDigits_injective h
    omega

/-- The scalars printed as one word. -/
def Scalar.word : Scalar F → Bool
  | .str _ => false
  | .datetime _ => false
  | _ => true

def Scalar.kind : Scalar F → ℕ
  | .none => 0
  | .bool true => 1
  | .bool false => 2
  | .float _ => 3
  | .int _ => 4
  | .str _ => 5
  | .datetime _ => 6

/-- Which kind of word a text is. -/
def wordKind (text : List Char) : ℕ :=
  if 'N' ∈ text then 0
  else if 'T' ∈ text then 1
  else if 'F' ∈ text then 2
  else if text.any (· ∈ ".einf".toList) then 3
  else 4

variable {texts}

theorem wordKind_float (htexts : texts.Faithful) (x : F) :
    wordKind (texts.floatRepr x) = 3 := by
  have habsent : ∀ c, isDigitOrMinus c = false → c ∉ ".+einaf".toList →
      c ∉ texts.floatRepr x := by
    intro c hdigit hother hmem
    rcases htexts.float_chars x c hmem with h | h
    · rw [hdigit] at h
      cases h
    · exact hother h
  have hmark : (texts.floatRepr x).any (· ∈ ".einf".toList) = true := by
    obtain ⟨c, hc, hmarked⟩ := htexts.float_marked x
    exact List.any_eq_true.mpr ⟨c, hc, decide_eq_true hmarked⟩
  rw [wordKind, if_neg (habsent 'N' rfl (by decide)), if_neg (habsent 'T' rfl (by decide)),
    if_neg (habsent 'F' rfl (by decide)), if_pos hmark]

theorem wordKind_int (value : ℤ) : wordKind (intRepr value) = 4 := by
  have habsent : ∀ c, isDigitOrMinus c = false → c ∉ intRepr value := by
    intro c hdigit hmem
    rw [intRepr_chars value c hmem] at hdigit
    cases hdigit
  have hmark : ¬ (intRepr value).any (· ∈ ".einf".toList) = true := by
    intro h
    obtain ⟨c, hc, hmarked⟩ := List.any_eq_true.mp h
    have hnot : ∀ d ∈ ".einf".toList, isDigitOrMinus d = false :=
      List.all_iff_forall_prop.mp (by decide)
    exact habsent c (hnot c (of_decide_eq_true hmarked)) hc
  rw [wordKind, if_neg (habsent 'N' rfl), if_neg (habsent 'T' rfl), if_neg (habsent 'F' rfl),
    if_neg hmark]

theorem wordKind_scalarRepr (htexts : texts.Faithful) {value : Scalar F}
    (hword : value.word = true) : wordKind (scalarRepr texts value) = value.kind := by
  rcases value with _ | (_ | _) | value | value | value | value
  · show wordKind "None".toList = 0
    decide
  · show wordKind "False".toList = 2
    decide
  · show wordKind "True".toList = 1
    decide
  · exact wordKind_int value
  · exact wordKind_float htexts value
  · cases hword
  · cases hword

theorem scalarRepr_word_inj (htexts : texts.Faithful) {first second : Scalar F}
    (hfirst : first.word = true) (hsecond : second.word = true)
    (h : scalarRepr texts first = scalarRepr texts second) : first = second := by
  have hkind : first.kind = second.kind := by
    rw [← wordKind_scalarRepr htexts hfirst, h, wordKind_scalarRepr htexts hsecond]
  rcases first with _ | (_ | _) | m | x | s | d <;>
    rcases second with _ | (_ | _) | n | y | t | e
  all_goals first
    | rfl
    | exact congrArg Scalar.int (intRepr_injective h)
    | exact congrArg Scalar.float (htexts.float_injective h)
    | exact absurd hfirst Bool.false_ne_true
    | exact absurd hsecond Bool.false_ne_true
    | exact absurd hkind (by simp [Scalar.kind])

/-- A word's characters neither end it nor open another kind of value. -/
theorem scalarRepr_word_chars (htexts : texts.Faithful) {value : Scalar F}
    (hword : value.word = true) : ∀ c ∈ scalarRepr texts value, isWord c = true := by
  have hnumber : ∀ c, isDigitOrMinus c = true → isWord c = true := by
    intro c hc
    rw [isWord, decide_eq_true_eq]
    have hnot : ∀ d ∈ [',', ']', '}', ')', ':', '[', '{', '(', '\'', '"', 'd'],
        isDigitOrMinus d = false := List.all_iff_forall_prop.mp (by decide)
    intro hmem
    rw [hnot c hmem] at hc
    cases hc
  rcases value with _ | (_ | _) | value | value | value | value
  · show ∀ c ∈ "None".toList, isWord c = true
    exact List.all_iff_forall_prop.mp (by decide)
  · show ∀ c ∈ "False".toList, isWord c = true
    exact List.all_iff_forall_prop.mp (by decide)
  · show ∀ c ∈ "True".toList, isWord c = true
    exact List.all_iff_forall_prop.mp (by decide)
  · intro c hc
    exact hnumber c (intRepr_chars value c hc)
  · intro c hc
    have hmarks : ∀ d ∈ ".+einaf".toList, isWord d = true := List.all_iff_forall_prop.mp (by decide)
    rcases htexts.float_chars value c hc with h | h
    · exact hnumber c h
    · exact hmarks c h
  · cases hword
  · cases hword

theorem readableAt_word (htexts : texts.Faithful) {value : Scalar F} (hword : value.word = true)
    {other : Scalar F} (hother : other.word = true) {rest otherRest : List Char}
    (hrest : Ended rest) (hotherRest : Ended otherRest)
    (h : scalarRepr texts value ++ rest = scalarRepr texts other ++ otherRest) :
    value = other ∧ rest = otherRest := by
  have hreadable : Readable Ended fun word : {value : Scalar F // value.word = true} =>
      scalarRepr texts word := by
    refine readable_of_chars isWord ?_ (fun word => scalarRepr_word_chars htexts word.property) ?_
    · intro first second hsame
      exact Subtype.ext (scalarRepr_word_inj htexts first.property second.property hsame)
    · intro c tail hends
      have hdelimiter := hends c tail rfl
      have hnot : ∀ d ∈ [',', ']', '}', ')', ':'], isWord d = false :=
        List.all_iff_forall_prop.mp (by decide)
      exact hnot c (of_decide_eq_true hdelimiter)
  obtain ⟨hvalue, hsame⟩ := hreadable ⟨value, hword⟩ ⟨other, hother⟩ rest otherRest hrest
    hotherRest h
  exact ⟨congrArg Subtype.val hvalue, hsame⟩

end Scalars

section Payloads

variable {F : Type} (texts : Texts F)

/-- What follows the items of a tuple: one item alone keeps a comma. -/
def tupleEnd (length : ℕ) : List Char := if length = 1 then [',', ')'] else [')']

mutual

/-- `repr(value)`. -/
def pyRepr : Payload (Scalar F) → List Char
  | .leaf value => scalarRepr texts value
  | .list items => '[' :: (reprItems items ++ [']'])
  | .tuple items => '(' :: (reprItems items ++ tupleEnd items.length)
  | .map fields => '{' :: (reprFields fields ++ ['}'])

def reprItems : List (Payload (Scalar F)) → List Char
  | [] => []
  | item :: rest => pyRepr item ++ reprMoreItems rest

def reprMoreItems : List (Payload (Scalar F)) → List Char
  | [] => []
  | item :: rest => ',' :: ' ' :: (pyRepr item ++ reprMoreItems rest)

def reprFields : List (String × Payload (Scalar F)) → List Char
  | [] => []
  | (key, value) :: rest =>
    strRepr texts.printable key ++ ':' :: ' ' :: pyRepr value ++ reprMoreFields rest

def reprMoreFields : List (String × Payload (Scalar F)) → List Char
  | [] => []
  | (key, value) :: rest =>
    ',' :: ' ' :: (strRepr texts.printable key ++ ':' :: ' ' :: pyRepr value ++
      reprMoreFields rest)

end

/-- One item of a printed `dict`. -/
def fieldRepr (field : String × Payload (Scalar F)) : List Char :=
  strRepr texts.printable field.1 ++ ':' :: ' ' :: pyRepr texts field.2

/-- `str(value)`. -/
def pyStr : Payload (Scalar F) → String
  | .leaf (.str value) => value
  | .leaf (.datetime value) => String.ofList (texts.datetimeStr value)
  | value => String.ofList (pyRepr texts value)

/-- `bool(value)`. -/
def truthy : Payload (Scalar F) → Bool
  | .leaf .none => false
  | .leaf (.bool value) => value
  | .leaf (.int value) => value ≠ 0
  | .leaf (.float value) => texts.floatTruthy value
  | .leaf (.str value) => value ≠ ""
  | .leaf (.datetime _) => true
  | .list items => !items.isEmpty
  | .tuple items => !items.isEmpty
  | .map fields => !fields.isEmpty

theorem reprMoreItems_eq (items : List (Payload (Scalar F))) :
    reprMoreItems texts items = joinTail (pyRepr texts) items := by
  induction items with
  | nil => rfl
  | cons item rest ih => simp [reprMoreItems, joinTail, ih]

theorem reprItems_eq (items : List (Payload (Scalar F))) :
    reprItems texts items = joined (pyRepr texts) items := by
  cases items with
  | nil => rfl
  | cons item rest => rw [reprItems, reprMoreItems_eq, joined]

theorem reprMoreFields_eq (fields : List (String × Payload (Scalar F))) :
    reprMoreFields texts fields = joinTail (fieldRepr texts) fields := by
  induction fields with
  | nil => rfl
  | cons field rest ih => simp [reprMoreFields, joinTail, fieldRepr, ih]

theorem reprFields_eq (fields : List (String × Payload (Scalar F))) :
    reprFields texts fields = joined (fieldRepr texts) fields := by
  cases fields with
  | nil => rfl
  | cons field rest => rw [reprFields, reprMoreFields_eq, joined, fieldRepr]

/-- Which kind of value a text opens. -/
def openingOf (c : Char) : ℕ :=
  if c = '[' then 0
  else if c = '(' then 1
  else if c = '{' then 2
  else if c = '\'' ∨ c = '"' then 3
  else if c = 'd' then 4
  else if isDelimiter c then 5
  else 6

def opening : Payload (Scalar F) → ℕ
  | .list _ => 0
  | .tuple _ => 1
  | .map _ => 2
  | .leaf (.str _) => 3
  | .leaf (.datetime _) => 4
  | .leaf _ => 6

theorem openingOf_of_isWord {c : Char} (h : isWord c = true) : openingOf c = 6 := by
  have hmem := of_decide_eq_true h
  simp only [List.mem_cons, List.not_mem_nil, or_false, not_or] at hmem
  simp [openingOf, isDelimiter, hmem]

theorem isDelimiter_of_openingOf {c : Char} (h : openingOf c ≠ 5) : isDelimiter c = false := by
  rw [Bool.eq_false_iff]
  intro hdelimiter
  have hall : ∀ d ∈ [',', ']', '}', ')', ':'], openingOf d = 5 :=
    List.all_iff_forall_prop.mp (by decide)
  exact h (hall c (of_decide_eq_true hdelimiter))

variable {texts}

theorem scalarRepr_ne_nil (htexts : texts.Faithful) {value : Scalar F}
    (hword : value.word = true) : scalarRepr texts value ≠ [] := by
  rcases value with _ | (_ | _) | value | value | value | value
  · exact List.cons_ne_nil _ _
  · exact List.cons_ne_nil _ _
  · exact List.cons_ne_nil _ _
  · show intRepr value ≠ []
    unfold intRepr
    split_ifs
    · exact List.cons_ne_nil _ _
    · exact Nat.toDigits_ne_nil
  · obtain ⟨c, hc, -⟩ := htexts.float_marked value
    exact List.ne_nil_of_mem hc
  · cases hword
  · cases hword

/-- A text's first character tells the kind of its value. -/
theorem pyRepr_head (htexts : texts.Faithful) (value : Payload (Scalar F)) :
    ∃ head tail, pyRepr texts value = head :: tail ∧ openingOf head = opening value := by
  cases value with
  | list items => exact ⟨_, _, rfl, rfl⟩
  | tuple items => exact ⟨_, _, rfl, rfl⟩
  | map fields => exact ⟨_, _, rfl, rfl⟩
  | leaf value =>
    have hwordHead : value.word = true → opening (.leaf value) = 6 →
        ∃ head tail, pyRepr texts (.leaf value) = head :: tail ∧
          openingOf head = opening (.leaf value) := by
      intro hword hopening
      obtain ⟨head, tail, htext⟩ := List.exists_cons_of_ne_nil (scalarRepr_ne_nil htexts hword)
      have hchars := scalarRepr_word_chars htexts hword
      rw [htext] at hchars
      refine ⟨head, tail, htext, ?_⟩
      rw [hopening, openingOf_of_isWord (hchars head List.mem_cons_self)]
    cases value with
    | none => exact hwordHead rfl rfl
    | bool value => exact hwordHead rfl rfl
    | int value => exact hwordHead rfl rfl
    | float value => exact hwordHead rfl rfl
    | str value =>
      refine ⟨quoteOf value, _, rfl, ?_⟩
      rcases quoteOf_cases value with h | h
      · rw [h]
        rfl
      · rw [h]
        rfl
    | datetime value =>
      obtain ⟨rest, hrest⟩ := htexts.datetime_call value
      exact ⟨'d', rest, hrest, rfl⟩

theorem pyRepr_starts (htexts : texts.Faithful) (value : Payload (Scalar F)) :
    ∃ head tail, pyRepr texts value = head :: tail ∧ isDelimiter head = false := by
  obtain ⟨head, tail, htext, hopening⟩ := pyRepr_head htexts value
  refine ⟨head, tail, htext, isDelimiter_of_openingOf ?_⟩
  rw [hopening]
  rcases value with (_ | _ | _ | _ | _ | _) | _ | _ | _ <;> simp [opening]

theorem opening_eq_of_append (htexts : texts.Faithful) {first second : Payload (Scalar F)}
    {firstRest secondRest : List Char}
    (h : pyRepr texts first ++ firstRest = pyRepr texts second ++ secondRest) :
    opening first = opening second := by
  obtain ⟨head, tail, hfirst, hopening⟩ := pyRepr_head htexts first
  obtain ⟨otherHead, otherTail, hsecond, hotherOpening⟩ := pyRepr_head htexts second
  rw [hfirst, hsecond, List.cons_append, List.cons_append, List.cons.injEq] at h
  rw [← hopening, ← hotherOpening, h.1]

theorem closing_cons {c : Char} (hdelimiter : isDelimiter c = true) (hcomma : c ≠ ',')
    (rest : List Char) : Closing (c :: rest) where
  ended := by
    intro d tail h
    cases h
    exact hdelimiter
  no_item := by
    intro tail h
    exact hcomma (List.cons.inj h).1

theorem closing_tupleEnd (length : ℕ) (rest : List Char) : Closing (tupleEnd length ++ rest) := by
  unfold tupleEnd
  split_ifs
  · refine ⟨?_, ?_⟩
    · intro c tail h
      cases h
      rfl
    · intro tail h
      cases h
  · exact closing_cons rfl (by decide) rest

theorem readableAt_field {field : String × Payload (Scalar F)}
    (hvalue : ReadableAt Ended (pyRepr texts) field.2) :
    ReadableAt Ended (fieldRepr texts) field := by
  intro other rest otherRest hrest hotherRest h
  rw [fieldRepr, fieldRepr, List.append_assoc, List.append_assoc] at h
  obtain ⟨hkey, htail⟩ := readable_strRepr texts.printable field.1 other.1 _ _ trivial trivial h
  simp only [List.cons_append, List.cons.injEq, true_and] at htail
  obtain ⟨hsame, hend⟩ := hvalue other.2 rest otherRest hrest hotherRest htail
  exact ⟨Prod.ext hkey hsame, hend⟩

theorem fieldRepr_starts (field : String × Payload (Scalar F)) :
    ∃ head tail, fieldRepr texts field = head :: tail ∧ isDelimiter head = false := by
  refine ⟨quoteOf field.1, _, rfl, ?_⟩
  rcases quoteOf_cases field.1 with h | h
  · rw [h]
    rfl
  · rw [h]
    rfl

theorem word_of_opening {value : Scalar F} (h : opening (.leaf value) = 6) :
    value.word = true := by
  cases value with
  | str value => cases h
  | datetime value => cases h
  | _ => rfl

theorem readableAt_leaf (htexts : texts.Faithful) (value : Scalar F) :
    ReadableAt Ended (pyRepr texts) (.leaf value) := by
  intro other rest otherRest hrest hotherRest h
  have hopening := opening_eq_of_append htexts h
  have hword : value.word = true → opening (.leaf value) = 6 →
      .leaf value = other ∧ rest = otherRest := by
    intro hword hvalue
    rw [hvalue] at hopening
    cases other with
    | leaf other =>
      obtain ⟨rfl, hend⟩ := readableAt_word htexts hword (word_of_opening hopening.symm) hrest
        hotherRest h
      exact ⟨rfl, hend⟩
    | list others => cases hopening
    | tuple others => cases hopening
    | map fields => cases hopening
  cases value with
  | none => exact hword rfl rfl
  | bool value => exact hword rfl rfl
  | int value => exact hword rfl rfl
  | float value => exact hword rfl rfl
  | str value =>
    rcases other with (_ | _ | _ | _ | other | _) | _ | _ | _ <;> try cases hopening
    obtain ⟨rfl, hend⟩ := readable_strRepr texts.printable value other _ _ trivial trivial h
    exact ⟨rfl, hend⟩
  | datetime value =>
    rcases other with (_ | _ | _ | _ | _ | other) | _ | _ | _ <;> try cases hopening
    obtain ⟨rfl, hend⟩ := htexts.datetime_readable value other _ _ trivial trivial h
    exact ⟨rfl, hend⟩

/-- A printed value can be told from its text, wherever a delimiter ends it. -/
theorem readable_pyRepr (htexts : texts.Faithful) : Readable Ended (pyRepr texts) := by
  intro value
  induction value with
  | leaf value => exact readableAt_leaf htexts value
  | list items ih =>
    intro other rest otherRest hrest hotherRest h
    have hopening := opening_eq_of_append htexts h
    rcases other with (_ | _ | _ | _ | _ | _) | others | _ | _ <;> try cases hopening
    simp only [pyRepr, reprItems_eq, List.cons_append, List.append_assoc, List.cons.injEq,
      true_and] at h
    obtain ⟨rfl, hend⟩ := joined_inj ih (pyRepr_starts htexts) (closing_cons rfl (by decide) _)
      (closing_cons rfl (by decide) _) h
    exact ⟨rfl, (List.cons.inj hend).2⟩
  | tuple items ih =>
    intro other rest otherRest hrest hotherRest h
    have hopening := opening_eq_of_append htexts h
    rcases other with (_ | _ | _ | _ | _ | _) | _ | others | _ <;> try cases hopening
    simp only [pyRepr, reprItems_eq, List.cons_append, List.append_assoc, List.cons.injEq,
      true_and] at h
    obtain ⟨rfl, hend⟩ := joined_inj ih (pyRepr_starts htexts) (closing_tupleEnd _ _)
      (closing_tupleEnd _ _) h
    exact ⟨rfl, List.append_cancel_left hend⟩
  | map fields ih =>
    intro other rest otherRest hrest hotherRest h
    have hopening := opening_eq_of_append htexts h
    rcases other with (_ | _ | _ | _ | _ | _) | _ | _ | others <;> try cases hopening
    simp only [pyRepr, reprFields_eq, List.cons_append, List.append_assoc, List.cons.injEq,
      true_and] at h
    obtain ⟨rfl, hend⟩ := joined_inj (fun field hfield => readableAt_field (ih field hfield))
      fieldRepr_starts (closing_cons rfl (by decide) _) (closing_cons rfl (by decide) _) h
    exact ⟨rfl, (List.cons.inj hend).2⟩

theorem pyRepr_injective (htexts : texts.Faithful) : Function.Injective (pyRepr texts) := by
  intro first second h
  have hnil : Ended [] := fun _ _ h => by cases h
  exact (readable_pyRepr htexts first second [] [] hnil hnil (by rw [h])).1

end Payloads

end VeriPay.Lib
