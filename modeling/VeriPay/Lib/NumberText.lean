import Mathlib.Data.Rat.Defs
import Mathlib.Data.List.Basic

/-!
Numbers in texts: the matches of the regular expression `-?\d+(?:\.\d+)?`, from
left to right, and the number that one denotes.
-/

namespace VeriPay.Lib

/-- The zeros of the decimal digits that Python 3.11 knows, each followed by its nine
other digits. -/
def digitZeros : List ℕ :=
  [0x30, 0x660, 0x6f0, 0x7c0, 0x966, 0x9e6, 0xa66, 0xae6, 0xb66, 0xbe6, 0xc66, 0xce6, 0xd66,
    0xde6, 0xe50, 0xed0, 0xf20, 0x1040, 0x1090, 0x17e0, 0x1810, 0x1946, 0x19d0, 0x1a80, 0x1a90,
    0x1b50, 0x1bb0, 0x1c40, 0x1c50, 0xa620, 0xa8d0, 0xa900, 0xa9d0, 0xa9f0, 0xaa50, 0xabf0,
    0xff10, 0x104a0, 0x10d30, 0x11066, 0x110f0, 0x11136, 0x111d0, 0x112f0, 0x11450, 0x114d0,
    0x11650, 0x116c0, 0x11730, 0x118e0, 0x11950, 0x11c50, 0x11d50, 0x11da0, 0x16a60, 0x16ac0,
    0x16b50, 0x1d7ce, 0x1d7d8, 0x1d7e2, 0x1d7ec, 0x1d7f6, 0x1e140, 0x1e2f0, 0x1e950, 0x1fbf0]

def digitValue? (c : Char) : Option ℕ :=
  (digitZeros.find? (fun first => first ≤ c.toNat ∧ c.toNat < first + 10)).map (c.toNat - ·)

/-- `\d`. -/
def isDecimal (c : Char) : Bool := (digitValue? c).isSome

/-- `\d+(?:\.\d+)?` at the start of the text, and what follows the match. -/
def matchUnsigned (text : List Char) : Option (List Char × List Char) :=
  let digits := text.takeWhile isDecimal
  if digits = [] then none
  else
    match text.dropWhile isDecimal with
    | '.' :: after =>
      let fraction := after.takeWhile isDecimal
      if fraction = [] then some (digits, '.' :: after)
      else some (digits ++ '.' :: fraction, after.dropWhile isDecimal)
    | rest => some (digits, rest)

/-- `-?\d+(?:\.\d+)?` at the start of the text, and what follows the match. -/
def matchNumber (text : List Char) : Option (List Char × List Char) :=
  match text with
  | '-' :: rest => (matchUnsigned rest).map fun (token, after) => ('-' :: token, after)
  | _ => matchUnsigned text

/-- The matches of the expression, with fuel for one step per character. -/
def findNumbers : ℕ → List Char → List (List Char)
  | 0, _ => []
  | _, [] => []
  | fuel + 1, c :: rest =>
    match matchNumber (c :: rest) with
    | some (token, after) => token :: findNumbers fuel after
    | none => findNumbers fuel rest

/-- `re.findall(r"-?\d+(?:\.\d+)?", text)`. -/
def numberTokens (text : List Char) : List (List Char) := findNumbers text.length text

/-- The value of a row of digits. -/
def digitsValue (digits : List Char) : ℕ :=
  digits.foldl (fun value c => 10 * value + (digitValue? c).getD 0) 0

/-- The number that a match without a sign denotes. -/
def unsignedValue (token : List Char) : ℚ :=
  let whole := token.takeWhile isDecimal
  let fraction := (token.dropWhile isDecimal).drop 1
  digitsValue whole + (digitsValue fraction : ℚ) / 10 ^ fraction.length

/-- The number that a match denotes. -/
def tokenValue (token : List Char) : ℚ :=
  match token with
  | '-' :: rest => -unsignedValue rest
  | _ => unsignedValue token

section Tokens

theorem matchUnsigned_append {text token after : List Char}
    (h : matchUnsigned text = some (token, after)) : text = token ++ after ∧ token ≠ [] := by
  unfold matchUnsigned at h
  have hsplit := List.takeWhile_append_dropWhile (p := isDecimal) (l := text)
  dsimp only at h
  split_ifs at h with hdigits
  split at h
  · rename_i after' hrest
    rw [hrest] at hsplit
    split_ifs at h with hfraction
    · cases h
      exact ⟨hsplit.symm, hdigits⟩
    · cases h
      refine ⟨?_, by simp⟩
      rw [List.append_assoc, List.cons_append, List.takeWhile_append_dropWhile]
      exact hsplit.symm
  · cases h
    exact ⟨hsplit.symm, hdigits⟩

/-- A match is a part of the text, and not an empty one. -/
theorem matchNumber_append {text token after : List Char}
    (h : matchNumber text = some (token, after)) : text = token ++ after ∧ token ≠ [] := by
  unfold matchNumber at h
  split at h
  · obtain ⟨⟨token', after'⟩, hmatch, heq⟩ := Option.map_eq_some_iff.mp h
    cases heq
    obtain ⟨htext, -⟩ := matchUnsigned_append hmatch
    exact ⟨by rw [htext]; rfl, by simp⟩
  · exact matchUnsigned_append h

theorem length_lt_of_matchNumber {text token after : List Char}
    (h : matchNumber text = some (token, after)) : after.length < text.length := by
  obtain ⟨rfl, htoken⟩ := matchNumber_append h
  have hpos := List.length_pos_iff.mpr htoken
  rw [List.length_append]
  omega

/-- The fuel is enough when it covers the text. -/
theorem findNumbers_of_le {fuel fuel' : ℕ} {text : List Char} (h : text.length ≤ fuel)
    (h' : text.length ≤ fuel') : findNumbers fuel text = findNumbers fuel' text := by
  induction fuel generalizing fuel' text with
  | zero =>
    have hnil : text = [] := List.length_eq_zero_iff.mp (by omega)
    rw [hnil]
    cases fuel' <;> rfl
  | succ fuel ih =>
    cases text with
    | nil => cases fuel' <;> rfl
    | cons c rest =>
      cases fuel' with
      | zero => exact absurd h' (by simp)
      | succ fuel' =>
        rw [List.length_cons] at h h'
        unfold findNumbers
        cases hmatch : matchNumber (c :: rest) with
        | none => exact ih (by omega) (by omega)
        | some found =>
          have hshort := length_lt_of_matchNumber hmatch
          rw [List.length_cons] at hshort
          dsimp only
          rw [ih (show found.2.length ≤ fuel by omega) (show found.2.length ≤ fuel' by omega)]

@[simp] theorem numberTokens_nil : numberTokens [] = [] := rfl

theorem numberTokens_of_some {c : Char} {rest token after : List Char}
    (h : matchNumber (c :: rest) = some (token, after)) :
    numberTokens (c :: rest) = token :: numberTokens after := by
  have hshort := length_lt_of_matchNumber h
  rw [List.length_cons] at hshort
  rw [numberTokens, List.length_cons, findNumbers, h]
  dsimp only
  rw [findNumbers_of_le (show after.length ≤ rest.length by omega) le_rfl]
  rfl

theorem matchNumber_of_ne_minus {c : Char} (rest : List Char) (h : c ≠ '-') :
    matchNumber (c :: rest) = matchUnsigned (c :: rest) := by
  unfold matchNumber
  split
  · rename_i heq
    exact absurd (List.cons.inj heq).1 h
  · rfl

end Tokens

end VeriPay.Lib
