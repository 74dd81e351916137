import Mathlib.Data.String.Basic
import VeriPay.Lib.Readable

/-!
Python's `repr` of a text: its characters between two quotes, with the quote, the
backslash and the unprintable characters escaped.
-/

namespace VeriPay.Lib

def hexDigit (n : ℕ) : Char := if n < 10 then Char.ofNat (48 + n) else Char.ofNat (87 + n)

def hexDigitValue (c : Char) : ℕ := if c.toNat < 58 then c.toNat - 48 else c.toNat - 87

theorem hexDigitValue_hexDigit : ∀ n, n < 16 → hexDigitValue (hexDigit n) = n := by decide

/-- The number in this many hexadecimal digits. -/
def hexText : ℕ → ℕ → List Char
  | 0, _ => []
  | width + 1, n => hexText width (n / 16) ++ [hexDigit (n % 16)]

def hexValue (digits : List Char) : ℕ :=
  digits.foldl (fun value c => value * 16 + hexDigitValue c) 0

@[simp] theorem length_hexText (width n : ℕ) : (hexText width n).length = width := by
  induction width generalizing n with
  | zero => rfl
  | succ width ih => rw [hexText, List.length_append, ih, List.length_singleton]

theorem hexValue_hexText {width n : ℕ} (h : n < 16 ^ width) : hexValue (hexText width n) = n := by
  induction width generalizing n with
  | zero =>
    have hzero : n = 0 := by simpa using h
    rw [hzero]
    rfl
  | succ width ih =>
    have hquotient : n / 16 < 16 ^ width := by
      rw [Nat.div_lt_iff_lt_mul (by omega)]
      rwa [Nat.pow_succ] at h
    have hprefix := ih hquotient
    rw [hexValue] at hprefix
    rw [hexText, hexValue, List.foldl_append, hprefix, List.foldl_cons, List.foldl_nil,
      hexDigitValue_hexDigit _ (Nat.mod_lt _ (by omega))]
    omega

variable (printable : Char → Bool)

/-- One character of a quoted text. -/
def escapeChar (quote c : Char) : List Char :=
  if c = quote ∨ c = '\\' then ['\\', c]
  else if c = '\t' then ['\\', 't']
  else if c = '\n' then ['\\', 'n']
  else if c = '\r' then ['\\', 'r']
  else if c.toNat < 32 ∨ c.toNat = 127 then '\\' :: 'x' :: hexText 2 c.toNat
  else if c.toNat < 127 ∨ printable c = true then [c]
  else if c.toNat < 256 then '\\' :: 'x' :: hexText 2 c.toNat
  else if c.toNat < 65536 then '\\' :: 'u' :: hexText 4 c.toNat
  else '\\' :: 'U' :: hexText 8 c.toNat

def readHex (width : ℕ) (text : List Char) : Option (Char × List Char) :=
  some (Char.ofNat (hexValue (text.take width)), text.drop width)

def readEscaped : List Char → Option (Char × List Char)
  | [] => none
  | c :: rest =>
    if c ≠ '\\' then some (c, rest)
    else match rest with
      | [] => none
      | mark :: rest =>
        if mark = 't' then some ('\t', rest)
        else if mark = 'n' then some ('\n', rest)
        else if mark = 'r' then some ('\r', rest)
        else if mark = 'x' then readHex 2 rest
        else if mark = 'u' then readHex 4 rest
        else if mark = 'U' then readHex 8 rest
        else some (mark, rest)

theorem readHex_hexText {width : ℕ} {c : Char} (h : c.toNat < 16 ^ width) (rest : List Char) :
    readHex width (hexText width c.toNat ++ rest) = some (c, rest) := by
  rw [readHex, List.take_left' (length_hexText _ _), List.drop_left' (length_hexText _ _),
    hexValue_hexText h, Char.ofNat_toNat]

theorem readEscaped_escapeChar {quote : Char} (hquote : quote = '\'' ∨ quote = '"') (c : Char)
    (rest : List Char) : readEscaped (escapeChar printable quote c ++ rest) = some (c, rest) := by
  unfold escapeChar
  split_ifs with hspecial htab hline hreturn hcontrol hshown hbyte hshort
  · rcases hspecial with rfl | rfl
    · rcases hquote with rfl | rfl <;> rfl
    · rfl
  · rw [htab]
    rfl
  · rw [hline]
    rfl
  · rw [hreturn]
    rfl
  · exact readHex_hexText (by omega) rest
  · have hslash : c ≠ '\\' := fun h => hspecial (Or.inr h)
    simp [readEscaped, hslash]
  · exact readHex_hexText (by omega) rest
  · exact readHex_hexText (by omega) rest
  · exact readHex_hexText (UInt32.toNat_lt c.val) rest

theorem escapeChar_head {quote : Char} (hquote : quote = '\'' ∨ quote = '"') (c : Char) :
    ∃ head tail, escapeChar printable quote c = head :: tail ∧ head ≠ quote := by
  have hslash : '\\' ≠ quote := by
    rcases hquote with rfl | rfl <;> decide
  unfold escapeChar
  by_cases hspecial : c = quote ∨ c = '\\'
  · rw [if_pos hspecial]
    exact ⟨'\\', _, rfl, hslash⟩
  · rw [if_neg hspecial]
    split_ifs
    all_goals first
      | exact ⟨'\\', _, rfl, hslash⟩
      | exact ⟨c, [], rfl, fun h => hspecial (Or.inl h)⟩

/-- The inside of a quoted text, and the quote that ends it. -/
def quotedTail (quote : Char) (text : List Char) : List Char :=
  text.flatMap (escapeChar printable quote) ++ [quote]

theorem readable_quotedTail {quote : Char} (hquote : quote = '\'' ∨ quote = '"') :
    Readable (fun _ => True) (quotedTail printable quote) := by
  have hquoted : ∀ c text rest, quotedTail printable quote (c :: text) ++ rest =
      escapeChar printable quote c ++ (quotedTail printable quote text ++ rest) := by
    intro c text rest
    simp [quotedTail]
  have hended : ∀ c text firstRest secondRest,
      quote :: firstRest ≠ quotedTail printable quote (c :: text) ++ secondRest := by
    intro c text firstRest secondRest h
    obtain ⟨head, tail, hescape, hhead⟩ := escapeChar_head printable hquote c
    rw [hquoted, hescape, List.cons_append] at h
    exact hhead (List.cons.inj h).1.symm
  intro first second firstRest secondRest _ _ h
  induction first generalizing second with
  | nil =>
    cases second with
    | nil => exact ⟨rfl, (List.cons.inj h).2⟩
    | cons c text => exact absurd h (hended c text firstRest secondRest)
  | cons c text ih =>
    cases second with
    | nil => exact absurd h.symm (hended c text secondRest firstRest)
    | cons d other =>
      rw [hquoted, hquoted] at h
      obtain ⟨rfl, hrest⟩ := readable_of_read _ (readEscaped_escapeChar printable hquote)
        c d _ _ trivial trivial h
      obtain ⟨rfl, hend⟩ := ih other hrest
      exact ⟨rfl, hend⟩

/-- The quote `repr` chooses for a text. -/
def quoteOf (text : String) : Char :=
  if '\'' ∈ text.toList ∧ '"' ∉ text.toList then '"' else '\''

/-- `repr(text)` of a `str`. -/
def strRepr (text : String) : List Char :=
  quoteOf text :: quotedTail printable (quoteOf text) text.toList

theorem quoteOf_cases (text : String) : quoteOf text = '\'' ∨ quoteOf text = '"' := by
  unfold quoteOf
  split_ifs
  · exact Or.inr rfl
  · exact Or.inl rfl

theorem readable_strRepr : Readable (fun _ => True) (strRepr printable) := by
  intro first second firstRest secondRest _ _ h
  rw [strRepr, strRepr, List.cons_append, List.cons_append, List.cons.injEq] at h
  obtain ⟨hquote, htail⟩ := h
  rw [hquote] at htail
  obtain ⟨htext, hrest⟩ := readable_quotedTail printable (quoteOf_cases second)
    _ _ _ _ trivial trivial htail
  exact ⟨String.toList_inj.mp htext, hrest⟩

end VeriPay.Lib
