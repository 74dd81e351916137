import Mathlib.Data.List.TakeWhile
import VeriPay.Lib.NumberText
import VeriPay.Lib.Rounding

/-!
Numbers as texts: Python's fixed-point format, and `repr` of a number of few
decimals. Both write one numeral that reads back as the number written.
-/

namespace VeriPay.Lib

/-- The digits of the scaled number, its last ones behind the point. -/
def fixedDigits (digits n : ℕ) : List Char :=
  Nat.toDigits 10 (n / 10 ^ digits) ++
    if digits = 0 then [] else '.' :: List.leftpad digits '0' (Nat.toDigits 10 (n % 10 ^ digits))

/-- `f"{x:.nf}"`. -/
def fixedText (digits : ℕ) (x : ℚ) : String :=
  (if x < 0 then "-" else "") ++
    String.ofList (fixedDigits digits (roundEven (|x| * 10 ^ digits)).toNat)

/-- `repr(x)` of a number with at most four decimals and sixteen digits. -/
def shortText (x : ℚ) : String :=
  if roundTo 1 x = x then fixedText 1 x
  else if roundTo 2 x = x then fixedText 2 x
  else if roundTo 3 x = x then fixedText 3 x
  else fixedText 4 x

theorem digitValue?_of_isDigit {c : Char} (h : c.isDigit = true) :
    digitValue? c = some (c.toNat - '0'.toNat) := by
  have hbounds : 48 ≤ c.toNat ∧ c.toNat < 58 := by
    obtain ⟨hlow, hhigh⟩ := Char.isDigit_iff_toNat.mp h
    exact ⟨hlow, Nat.lt_succ_of_le hhigh⟩
  unfold digitValue? digitZeros
  rw [List.find?_cons_of_pos (by simpa using hbounds)]
  rfl

theorem isDecimal_of_isDigit {c : Char} (h : c.isDigit = true) : isDecimal c = true := by
  rw [isDecimal, digitValue?_of_isDigit h]
  rfl

theorem digitsValue_of_isDigit {digits : List Char} (h : ∀ c ∈ digits, c.isDigit = true) :
    digitsValue digits = Nat.ofDigitChars 10 digits 0 := by
  unfold digitsValue
  rw [Nat.ofDigitChars_eq_foldl]
  refine List.foldl_ext _ _ _ ?_
  intro value c hc
  rw [digitValue?_of_isDigit (h c hc)]
  rfl

theorem isDigit_of_mem_toDigits (n : ℕ) : ∀ c ∈ Nat.toDigits 10 n, c.isDigit = true :=
  fun _ hc => Nat.isDigit_of_mem_toDigits (by decide) le_rfl hc

theorem digitsValue_toDigits (n : ℕ) : digitsValue (Nat.toDigits 10 n) = n := by
  rw [digitsValue_of_isDigit (isDigit_of_mem_toDigits n), Nat.ofDigitChars_ten_toDigits]

theorem takeWhile_isDecimal {digits : List Char} (h : ∀ c ∈ digits, c.isDigit = true) :
    digits.takeWhile isDecimal = digits ∧ digits.dropWhile isDecimal = [] := by
  have hall : ∀ c ∈ digits, isDecimal c = true := fun c hc => isDecimal_of_isDigit (h c hc)
  exact ⟨List.takeWhile_eq_self_iff.mpr hall, List.dropWhile_eq_nil_iff.mpr hall⟩

/-- A text that is matched from its first digit to its end is its only number. -/
theorem numberTokens_of_matchUnsigned {text : List Char}
    (hdigit : ∀ c ∈ text.head?, c.isDigit = true)
    (h : matchUnsigned text = some (text, [])) : numberTokens text = [text] := by
  cases text with
  | nil => cases h
  | cons c rest =>
    have hminus : c ≠ '-' := by
      intro heq
      have hc := hdigit c rfl
      rw [heq] at hc
      exact absurd hc (by decide)
    have hmatch : matchNumber (c :: rest) = some (c :: rest, []) := by
      rw [matchNumber_of_ne_minus rest hminus, h]
    rw [numberTokens_of_some hmatch, numberTokens_nil]

theorem head_isDigit {digits : List Char} (after : List Char) (hne : digits ≠ [])
    (h : ∀ c ∈ digits, c.isDigit = true) : ∀ c ∈ (digits ++ after).head?, c.isDigit = true := by
  cases digits with
  | nil => exact absurd rfl hne
  | cons first rest =>
    intro c hc
    cases hc
    exact h first List.mem_cons_self

theorem matchUnsigned_digits {digits : List Char} (h : ∀ c ∈ digits, c.isDigit = true)
    (hne : digits ≠ []) : matchUnsigned digits = some (digits, []) := by
  obtain ⟨htake, hdrop⟩ := takeWhile_isDecimal h
  unfold matchUnsigned
  dsimp only
  rw [htake, hdrop, if_neg hne]

/-- A numeral without a point. -/
theorem numberTokens_digits {digits : List Char} (h : ∀ c ∈ digits, c.isDigit = true)
    (hne : digits ≠ []) : numberTokens digits = [digits] := by
  refine numberTokens_of_matchUnsigned ?_ ?_
  · have hhead := head_isDigit [] hne h
    rwa [List.append_nil] at hhead
  · exact matchUnsigned_digits h hne

/-- The value of an unsigned numeral. -/
theorem tokenValue_of_head {token : List Char} (h : ∀ c ∈ token.head?, c.isDigit = true) :
    tokenValue token = unsignedValue token := by
  unfold tokenValue
  split
  · exact absurd (h '-' rfl) (by decide)
  · rfl

theorem tokenValue_digits {digits : List Char} (h : ∀ c ∈ digits, c.isDigit = true)
    (hne : digits ≠ []) : tokenValue digits = digitsValue digits := by
  have hhead := head_isDigit [] hne h
  rw [List.append_nil] at hhead
  rw [tokenValue_of_head hhead, unsignedValue, (takeWhile_isDecimal h).1,
    (takeWhile_isDecimal h).2]
  simp [digitsValue]

/-- A whole number is one numeral, and reads back. -/
theorem numberTokens_toString (n : ℕ) :
    numberTokens (toString n).toList = [(toString n).toList] ∧
      tokenValue (toString n).toList = n := by
  rw [Nat.toString_eq_repr, Nat.toList_repr]
  refine ⟨numberTokens_digits (isDigit_of_mem_toDigits n) Nat.toDigits_ne_nil, ?_⟩
  rw [tokenValue_digits (isDigit_of_mem_toDigits n) Nat.toDigits_ne_nil, digitsValue_toDigits]

/-- So is an integer with its sign. -/
theorem numberTokens_toString_int (n : ℤ) :
    numberTokens (toString n).toList = [(toString n).toList] ∧
      tokenValue (toString n).toList = n := by
  cases n with
  | ofNat m => exact numberTokens_toString m
  | negSucc m =>
    have htext : (toString (Int.negSucc m)).toList = '-' :: Nat.toDigits 10 (m + 1) := by
      show ("-" ++ toString (m + 1)).toList = _
      rw [String.toList_append, Nat.toString_eq_repr, Nat.toList_repr]
      rfl
    have hdigit := isDigit_of_mem_toDigits (m + 1)
    have hne : Nat.toDigits 10 (m + 1) ≠ [] := Nat.toDigits_ne_nil
    have hmatch : matchNumber ('-' :: Nat.toDigits 10 (m + 1)) =
        some ('-' :: Nat.toDigits 10 (m + 1), []) := by
      rw [matchNumber, matchUnsigned_digits hdigit hne]
      rfl
    have hvalue : unsignedValue (Nat.toDigits 10 (m + 1)) = (m + 1 : ℕ) := by
      have hhead := head_isDigit [] hne hdigit
      rw [List.append_nil] at hhead
      rw [← tokenValue_of_head hhead, tokenValue_digits hdigit hne, digitsValue_toDigits]
    rw [htext]
    refine ⟨by rw [numberTokens_of_some hmatch, numberTokens_nil], ?_⟩
    rw [tokenValue, hvalue, Int.cast_negSucc]

theorem isDigit_of_mem_toString (n : ℕ) : ∀ c ∈ (toString n).toList, c.isDigit = true := by
  intro c hc
  have hdigits : (toString n).toList = Nat.toDigits 10 n := by
    rw [Nat.toString_eq_repr, Nat.repr_eq_ofList_toDigits, String.toList_ofList]
  rw [hdigits] at hc
  exact isDigit_of_mem_toDigits n c hc

theorem toString_nat_injective : Function.Injective (toString : ℕ → String) := by
  intro m n h
  rw [Nat.toString_eq_repr, Nat.toString_eq_repr, Nat.repr_eq_ofList_toDigits,
    Nat.repr_eq_ofList_toDigits] at h
  have hdigits := String.ofList_injective h
  rw [← @Nat.ofDigitChars_ten_toDigits m, hdigits, Nat.ofDigitChars_ten_toDigits]

/-- The sign tells the negative numbers apart. -/
theorem toString_int_injective : Function.Injective (toString : ℤ → String) := by
  have hsign : ∀ m n : ℕ, toString m ≠ "-" ++ toString n := by
    intro m n h
    have hminus : '-' ∈ (toString m).toList := by
      rw [h, String.toList_append]
      exact List.mem_append_left _ List.mem_cons_self
    exact absurd (isDigit_of_mem_toString m '-' hminus) (by decide)
  intro a b h
  cases a with
  | ofNat m =>
    cases b with
    | ofNat n => rw [toString_nat_injective h]
    | negSucc n => exact absurd h (hsign m (n + 1))
  | negSucc m =>
    cases b with
    | ofNat n => exact absurd h.symm (hsign n (m + 1))
    | negSucc n =>
      have hsame := toString_nat_injective ((String.append_right_inj _).mp h)
      rw [Nat.succ_injective hsame]
end VeriPay.Lib
