import VeriPay.AnalystApi.Citations
import VeriPay.AnalystApi.Scoring

/-!
What the check of a text's numbers lets through. A float outside the range of plain
notation is written with an exponent, and the search for numbers in that text finds two:
the mantissa and the exponent. Either may then be cited as if the payload had it. Numbers are
compared as floats, so one may also pass by its rounding.
-/

namespace VeriPay.AnalystApi

open Lib

/-- `repr` writes the float without an exponent. -/
def isPlain (x : ℚ) : Bool := x = 0 ∨ (1 / 10 ^ 4 ≤ |x| ∧ |x| < 10 ^ 16)

/-- What `repr` writes of a float: one numeral that reads back as the float, or the mantissa
and the exponent of one that does. -/
structure Platform.Writes (platform : Platform) (x : ℚ) : Prop where
  plain : isPlain x = true → ∃ token, extractNumbers (platform.formatFloat x) = [token] ∧
    floatOf token = .finite x
  scientific : isPlain x = false → ∃ (mantissa exponent : List Char) (e : ℤ),
    extractNumbers (platform.formatFloat x) = [mantissa, exponent] ∧ tokenValue exponent = e ∧
      FloatValue.ofRat (tokenValue mantissa * 10 ^ e) = .finite x

/-- An integer, a finite float or a truth value. -/
def IsFiniteNumber : Json → Prop
  | .bool _ => True
  | .int _ => True
  | .float x => FloatValue.ofRat x = .finite x
  | _ => False

def numbersOf : Json → List ℚ
  | .int n => [(n : ℚ)]
  | .float x => [x]
  | _ => []

/-- A number that is written as one numeral. -/
def plainOf : Json → List ℚ
  | .int n => [(n : ℚ)]
  | .float x => if isPlain x then [x] else []
  | _ => []

/-- The mantissa and the exponent of a float that is written with one. -/
def exponentPartsOf (platform : Platform) : Json → List (List Char)
  | .float x => if isPlain x then [] else extractNumbers (platform.formatFloat x)
  | _ => []

/-- The numbers of a payload, truth values apart. -/
def payloadNumbers (payload : JsonObj) : List ℚ := payload.flatMap fun entry => numbersOf entry.2

def plainNumbers (payload : JsonObj) : List ℚ := payload.flatMap fun entry => plainOf entry.2

def exponentParts (platform : Platform) (payload : JsonObj) : List (List Char) :=
  payload.flatMap fun entry => exponentPartsOf platform entry.2

/-- The number is at most five percent of the cited one away. -/
def IsNear (value : ℚ) (token : List Char) : Prop :=
  |value - tokenValue token| ≤ |tokenValue token| * (5 / 100)

/-- The two are so as floats. -/
def FloatsNear (value cited : FloatValue) : Prop := FloatValue.isWithin tolerance value cited = true

/-- A number of the payload is near the cited one. -/
def NearPayload (payload : JsonObj) (token : List Char) : Prop :=
  ∃ value ∈ payloadNumbers payload, IsNear value token

/-- A number with a fractional part, or not below the floor. -/
def IsConsidered (floor : ℤ) (token : List Char) : Prop :=
  '.' ∈ token ∨ floor ≤ |tokenValue token|

/-- Every number of the text that is considered is near one of the payload. -/
def NumbersHold (payload : JsonObj) (floor : ℤ) (text : String) : Prop :=
  ∀ token ∈ extractNumbers text, IsConsidered floor token → NearPayload payload token

/-- A number that comes below the floor or near one of the payload only by the rounding of floats,
or that is taken for a mantissa or an exponent. -/
inductive IsMistakable (platform : Platform) (payload : JsonObj) (floor : ℤ) (token : List Char) :
    Prop
  | floor (h : isChecked token floor = false)
  | rounding (value : ℚ) (hvalue : value ∈ plainNumbers payload)
    (hfloat : FloatsNear (.ofRat value) (floatOf token)) (hnumber : ¬ IsNear value token)
  | exponent (part : List Char) (hpart : part ∈ exponentParts platform payload)
    (h : part = token ∨ FloatsNear (floatOf part) (floatOf token))

/-- A number that is none of those in the payload's texts, and as a float not near any of them. -/
structure IsRefused (platform : Platform) (payload : JsonObj) (token : List Char) : Prop where
  unwritten : token ∉ allowedNumberStrings platform payload
  numbers : ∀ value ∈ plainNumbers payload, ¬ FloatsNear (.ofRat value) (floatOf token)
  parts : ∀ part ∈ exponentParts platform payload, ¬ FloatsNear (floatOf part) (floatOf token)

theorem mem_payloadNumbers_of_plain {payload : JsonObj} {value : ℚ}
    (h : value ∈ plainNumbers payload) : value ∈ payloadNumbers payload := by
  obtain ⟨⟨key, json⟩, hmem, hplain⟩ := List.mem_flatMap.mp h
  refine List.mem_flatMap.mpr ⟨_, hmem, ?_⟩
  cases json with
  | int n => exact hplain
  | float x =>
    simp only [plainOf] at hplain
    split_ifs at hplain
    · exact hplain
    · cases hplain
  | _ => cases hplain

section Values

variable {platform : Platform} {payload : JsonObj}

theorem allowedNumberStrings_int (key : String) (n : ℤ) :
    allowedNumberStrings platform [(key, .int n)] = [(toString n).toList] := by
  rw [allowedNumberStrings, List.flatMap_singleton]
  exact (numberTokens_toString_int n).1

theorem allowedNumberStrings_float (key : String) (x : ℚ) :
    allowedNumberStrings platform [(key, .float x)] = extractNumbers (platform.formatFloat x) := by
  rw [allowedNumberStrings, List.flatMap_singleton]
  rfl

/-- The numerals found in the text of a value: the one of its number, as a float this number, or
the mantissa and the exponent. -/
theorem allowed_cases {value : Json} (hvalue : IsFiniteNumber value)
    (hwrites : ∀ x, value = .float x → platform.Writes x) (key : String) {token : List Char}
    (h : token ∈ allowedNumberStrings platform [(key, value)]) :
    (∃ number ∈ plainOf value, floatOf token = .ofRat number ∧
        (tokenValue token = number ∨ floatOf token = .finite number)) ∨
      token ∈ exponentPartsOf platform value := by
  cases value with
  | bool flag => cases h
  | int n =>
    rw [allowedNumberStrings_int, List.mem_singleton] at h
    subst h
    have hread := (numberTokens_toString_int n).2
    exact Or.inl ⟨n, List.mem_singleton_self _, by rw [floatOf, hread], Or.inl hread⟩
  | float x =>
    rw [allowedNumberStrings_float] at h
    cases hx : isPlain x with
    | true =>
      obtain ⟨numeral, htokens, hread⟩ := (hwrites x rfl).plain hx
      rw [htokens, List.mem_singleton] at h
      subst h
      have hfinite : FloatValue.ofRat x = .finite x := hvalue
      exact Or.inl ⟨x, by simp [plainOf, hx], hread.trans hfinite.symm, Or.inr hread⟩
    | false => exact Or.inr (by simpa [exponentPartsOf, hx] using h)
  | null => exact hvalue.elim
  | str text => exact hvalue.elim
  | arr items => exact hvalue.elim
  | obj fields => exact hvalue.elim

/-- A number of a value has its numeral in the value's text. -/
theorem exists_allowed_of_plain {value : Json} (hvalue : IsFiniteNumber value)
    (hwrites : ∀ x, value = .float x → platform.Writes x) (key : String) {number : ℚ}
    (h : number ∈ plainOf value) :
    ∃ token ∈ allowedNumberStrings platform [(key, value)], floatOf token = .ofRat number := by
  cases value with
  | int n =>
    rw [List.mem_singleton.mp h, allowedNumberStrings_int]
    refine ⟨_, List.mem_singleton_self _, ?_⟩
    rw [floatOf, (numberTokens_toString_int n).2]
  | float x =>
    rw [allowedNumberStrings_float]
    cases hx : isPlain x with
    | true =>
      simp only [plainOf, hx, if_true, List.mem_singleton] at h
      subst h
      obtain ⟨numeral, htokens, hread⟩ := (hwrites number rfl).plain hx
      have hfinite : FloatValue.ofRat number = .finite number := hvalue
      refine ⟨numeral, ?_, hread.trans hfinite.symm⟩
      rw [htokens]
      exact List.mem_singleton_self _
    | false => simp [plainOf, hx] at h
  | _ => cases h

theorem exponentPartsOf_subset (key : String) (value : Json) {part : List Char}
    (h : part ∈ exponentPartsOf platform value) :
    part ∈ allowedNumberStrings platform [(key, value)] := by
  cases value with
  | float x =>
    rw [allowedNumberStrings_float]
    simp only [exponentPartsOf] at h
    split_ifs at h
    · cases h
    · exact h
  | _ => cases h

variable (hvalues : ∀ entry ∈ payload, IsFiniteNumber entry.2)
  (hwrites : ∀ key x, (key, Json.float x) ∈ payload → platform.Writes x)

theorem mem_allowedNumberStrings_iff {token : List Char} :
    token ∈ allowedNumberStrings platform payload ↔
      ∃ entry ∈ payload, token ∈ allowedNumberStrings platform [entry] := by
  simp only [allowedNumberStrings, List.mem_flatMap, List.mem_singleton, exists_eq_left]

include hvalues hwrites

theorem mem_allowed_cases {token : List Char}
    (h : token ∈ allowedNumberStrings platform payload) :
    (∃ number ∈ plainNumbers payload, floatOf token = .ofRat number ∧
        (tokenValue token = number ∨ floatOf token = .finite number)) ∨
      token ∈ exponentParts platform payload := by
  obtain ⟨⟨key, value⟩, hmem, hown⟩ := mem_allowedNumberStrings_iff.mp h
  have hwritten : ∀ x, value = .float x → platform.Writes x := by
    rintro x rfl
    exact hwrites key x hmem
  rcases allowed_cases (hvalues _ hmem) hwritten key hown with ⟨number, hnumber, hread⟩ | hpart
  · exact Or.inl ⟨number, List.mem_flatMap.mpr ⟨_, hmem, hnumber⟩, hread⟩
  · exact Or.inr (List.mem_flatMap.mpr ⟨_, hmem, hpart⟩)

theorem exists_allowed_of_plainNumbers {number : ℚ} (h : number ∈ plainNumbers payload) :
    ∃ token ∈ allowedNumberStrings platform payload, floatOf token = .ofRat number := by
  obtain ⟨⟨key, value⟩, hmem, hown⟩ := List.mem_flatMap.mp h
  have hwritten : ∀ x, value = .float x → platform.Writes x := by
    rintro x rfl
    exact hwrites key x hmem
  obtain ⟨token, htoken, hread⟩ := exists_allowed_of_plain (hvalues _ hmem) hwritten key hown
  exact ⟨token, mem_allowedNumberStrings_iff.mpr ⟨_, hmem, htoken⟩, hread⟩

omit hvalues hwrites in
theorem exponentParts_subset {part : List Char} (h : part ∈ exponentParts platform payload) :
    part ∈ allowedNumberStrings platform payload := by
  obtain ⟨⟨key, value⟩, hmem, hown⟩ := List.mem_flatMap.mp h
  exact mem_allowedNumberStrings_iff.mpr ⟨_, hmem, exponentPartsOf_subset key value hown⟩

/-- A number matches unless it is refused. -/
theorem matchesAllowed_iff (token : List Char) :
    matchesAllowed token (allowedNumberStrings platform payload) = true ↔
      ¬ IsRefused platform payload token := by
  rw [matchesAllowed, decide_eq_true_eq, List.any_eq_true]
  constructor
  · rintro (hwritten | ⟨candidate, hcandidate, hwithin⟩) hrefused
    · exact hrefused.unwritten hwritten
    · rcases mem_allowed_cases hvalues hwrites hcandidate with ⟨number, hnumber, hread, -⟩ | hpart
      · rw [hread] at hwithin
        exact hrefused.numbers number hnumber hwithin
      · exact hrefused.parts candidate hpart hwithin
  · intro hmatch
    by_contra hnone
    obtain ⟨hunwritten, hfar⟩ := not_or.mp hnone
    apply hmatch
    refine ⟨hunwritten, ?_, ?_⟩
    · intro number hnumber hnear
      obtain ⟨candidate, hcandidate, hread⟩ :=
        exists_allowed_of_plainNumbers hvalues hwrites hnumber
      rw [← hread] at hnear
      exact hfar ⟨candidate, hcandidate, hnear⟩
    · intro part hpart hnear
      exact hfar ⟨part, exponentParts_subset hpart, hnear⟩

/-- A number that is checked and matches without being mistakable is near one of the payload. -/
theorem near_of_matches {floor : ℤ} {token : List Char}
    (hmatch : matchesAllowed token (allowedNumberStrings platform payload) = true)
    (hclear : ¬ IsMistakable platform payload floor token) : NearPayload payload token := by
  have hsure : ∀ number ∈ plainNumbers payload, FloatsNear (.ofRat number) (floatOf token) →
      NearPayload payload token := by
    intro number hnumber hfloat
    by_contra hfar
    exact hclear (.rounding number hnumber hfloat fun hnear =>
      hfar ⟨number, mem_payloadNumbers_of_plain hnumber, hnear⟩)
  rcases of_decide_eq_true hmatch with hwritten | hany
  · rcases mem_allowed_cases hvalues hwrites hwritten with
      ⟨number, hnumber, hread, hexact | hfinite⟩ | hpart
    · refine ⟨number, mem_payloadNumbers_of_plain hnumber, ?_⟩
      rw [IsNear, hexact, sub_self, abs_zero]
      positivity
    · refine hsure number hnumber ?_
      rw [← hread, hfinite]
      exact FloatValue.isWithin_self tolerance_nonneg
    · exact absurd (.exponent token hpart (Or.inl rfl)) hclear
  · obtain ⟨candidate, hcandidate, hwithin⟩ := List.any_eq_true.mp hany
    rcases mem_allowed_cases hvalues hwrites hcandidate with ⟨number, hnumber, hread, -⟩ | hpart
    · rw [hread] at hwithin
      exact hsure number hnumber hwithin
    · exact absurd (.exponent candidate hpart (Or.inr hwithin)) hclear

omit hvalues in
theorem allowed_ne_nil (hsome : payloadNumbers payload ≠ []) :
    allowedNumberStrings platform payload ≠ [] := by
  obtain ⟨number, hnumber⟩ := List.exists_mem_of_ne_nil _ hsome
  obtain ⟨⟨key, value⟩, hmem, hown⟩ := List.mem_flatMap.mp hnumber
  have htoken : ∃ token, token ∈ allowedNumberStrings platform [(key, value)] := by
    cases value with
    | int n =>
      rw [allowedNumberStrings_int]
      exact ⟨_, List.mem_singleton_self _⟩
    | float x =>
      rw [allowedNumberStrings_float]
      cases hx : isPlain x with
      | true =>
        obtain ⟨token, htokens, -⟩ := (hwrites key x hmem).plain hx
        exact ⟨token, by rw [htokens]; exact List.mem_singleton_self _⟩
      | false =>
        obtain ⟨mantissa, exponent, e, htokens, -⟩ := (hwrites key x hmem).scientific hx
        exact ⟨mantissa, by rw [htokens]; exact List.mem_cons_self⟩
    | _ => cases hown
  obtain ⟨token, htoken⟩ := htoken
  exact List.ne_nil_of_mem (mem_allowedNumberStrings_iff.mpr ⟨_, hmem, htoken⟩)

/-- A text is flagged exactly when a number of it that is checked is refused. -/
theorem crosscheck_flags_iff (hsome : payloadNumbers payload ≠ []) (text : String) (floor : ℤ) :
    (crosscheckNumbers platform text payload floor).2 = true ↔
      ∃ token ∈ extractNumbers text, isChecked token floor = true ∧
        IsRefused platform payload token := by
  rw [← not_iff_not, Bool.not_eq_true,
    crosscheck_passes_iff (allowed_ne_nil hwrites hsome)]
  push Not
  simp only [matchesAllowed_iff hvalues hwrites]

end Values

/-- The check is sound for a text and a payload exactly when the mistakable numbers of the
text are near the payload all the same, or when another number is refused. -/
theorem crosscheck_sound_iff {platform : Platform} {payload : JsonObj}
    (hvalues : ∀ entry ∈ payload, IsFiniteNumber entry.2)
    (hwrites : ∀ key x, (key, Json.float x) ∈ payload → platform.Writes x)
    (hsome : payloadNumbers payload ≠ []) (text : String) (floor : ℤ) :
    ((crosscheckNumbers platform text payload floor).2 = false →
        NumbersHold payload floor text) ↔
      (∀ token ∈ extractNumbers text, IsConsidered floor token →
        IsMistakable platform payload floor token → NearPayload payload token) ∨
      ∃ token ∈ extractNumbers text, isChecked token floor = true ∧
        IsRefused platform payload token := by
  rw [← crosscheck_flags_iff hvalues hwrites hsome]
  constructor
  · intro hsound
    cases hflag : (crosscheckNumbers platform text payload floor).2 with
    | true => exact Or.inr rfl
    | false => exact Or.inl fun token htoken hconsidered _ => hsound hflag token htoken hconsidered
  · rintro (hharmless | hflagged) hflag token htoken hconsidered
    · by_cases hmistakable : IsMistakable platform payload floor token
      · exact hharmless token htoken hconsidered hmistakable
      · have hpasses := (crosscheck_passes_iff (allowed_ne_nil hwrites hsome)).mp hflag
        have hchecked : isChecked token floor = true := by
          by_contra hunchecked
          exact hmistakable (.floor (Bool.eq_false_of_not_eq_true hunchecked))
        exact near_of_matches hvalues hwrites (hpasses token htoken hchecked) hmistakable
    · rw [hflag] at hflagged
      cases hflagged

/-- Read as 20 the cited number is near 21. -/
example : FloatsNear (.ofRat 21) (floatOf "19.99999999999999999999".toList) ∧
    ¬ IsNear 21 "19.99999999999999999999".toList := by
  unfold FloatsNear IsNear
  decide +kernel

/-- The float `0.52`. -/
def figure : ℚ := 1170935903116329 / 2 ^ 51

/-- The float `0.00001`. -/
def tiny : ℚ := 5902958103587057 / 2 ^ 69

/-- A platform that writes these as Python does. -/
def Platform.scientific : Platform :=
  { Platform.atNoon with
    formatFloat := fun x => if x = tiny then "1e-05" else if x = figure then "0.52" else "0.0" }

theorem scientific_writes_tiny : Platform.scientific.Writes tiny where
  plain := fun h => absurd h (by decide +kernel)
  scientific := fun _ => ⟨"1".toList, "-05".toList, -5, by decide +kernel, by decide +kernel,
    by decide +kernel⟩

theorem scientific_writes_figure : Platform.scientific.Writes figure where
  plain := fun _ => ⟨"0.52".toList, by decide +kernel, by decide +kernel⟩
  scientific := fun h => absurd h (by decide +kernel)

theorem finite_figure : IsFiniteNumber (.float figure) := by
  show FloatValue.ofRat figure = .finite figure
  decide +kernel

theorem finite_tiny : IsFiniteNumber (.float tiny) := by
  show FloatValue.ofRat tiny = .finite tiny
  decide +kernel

/-- A likely fraud that is hardly an anomaly. -/
def likelyFraud : JsonObj := [("fraud_probability", .float figure), ("anomaly_score", .float tiny)]

/-- A probability that the payload has is cited soundly, beside one in exponent form. -/
theorem crosscheck_sound_likelyFraud :
    NumbersHold likelyFraud 200 "Risk score 47; fraud probability 0.52." := by
  have hvalues : ∀ entry ∈ likelyFraud, IsFiniteNumber entry.2 := by
    rw [likelyFraud, List.forall_mem_cons, List.forall_mem_singleton]
    exact ⟨finite_figure, finite_tiny⟩
  have hwrites : ∀ key x, (key, Json.float x) ∈ likelyFraud → Platform.scientific.Writes x := by
    intro key x hmem
    simp only [likelyFraud, List.mem_cons, Prod.mk.injEq, Json.float.injEq, List.not_mem_nil,
      or_false] at hmem
    rcases hmem with ⟨-, rfl⟩ | ⟨-, rfl⟩
    · exact scientific_writes_figure
    · exact scientific_writes_tiny
  have htokens : extractNumbers "Risk score 47; fraud probability 0.52." =
      ["47".toList, "0.52".toList] := by decide +kernel
  refine (crosscheck_sound_iff hvalues hwrites (by decide +kernel) _ 200).mpr (Or.inl ?_)
    (by decide +kernel)
  intro token htoken hconsidered _
  rw [htokens, List.mem_cons, List.mem_singleton] at htoken
  rcases htoken with rfl | rfl
  · have hcount : tokenValue "47".toList = 47 := by decide +kernel
    rw [IsConsidered, hcount] at hconsidered
    norm_num [abs_of_pos] at hconsidered
    exact absurd hconsidered (by decide)
  · have hcited : tokenValue "0.52".toList = 13 / 25 := by decide +kernel
    refine ⟨figure, List.mem_cons_self, ?_⟩
    rw [IsNear, hcited, figure]
    norm_num [abs_of_pos, abs_of_neg]

/-- A fraud probability of a hundred-thousandth. -/
def unlikelyFraud : JsonObj := [("fraud_probability", .float tiny)]

/-- It is cited as a probability of one, which is the mantissa of its text. -/
theorem mantissa_cited :
    (∀ entry ∈ unlikelyFraud, IsFiniteNumber entry.2) ∧
      (∀ key x, (key, Json.float x) ∈ unlikelyFraud → Platform.scientific.Writes x) ∧
      payloadNumbers unlikelyFraud ≠ [] ∧
      crosscheckNumbers .scientific "Fraud probability 1.0." unlikelyFraud = (true, false) ∧
      ¬ NumbersHold unlikelyFraud 200 "Fraud probability 1.0." := by
  refine ⟨?_, ?_, by decide +kernel, by decide +kernel, ?_⟩
  · rw [unlikelyFraud, List.forall_mem_singleton]
    exact finite_tiny
  · intro key x hmem
    simp only [unlikelyFraud, List.mem_singleton, Prod.mk.injEq, Json.float.injEq] at hmem
    rw [hmem.2]
    exact scientific_writes_tiny
  · intro h
    obtain ⟨value, hvalue, hnear⟩ := h "1.0".toList (by decide +kernel) (Or.inl (by decide))
    have hone : tokenValue "1.0".toList = 1 := by decide +kernel
    have hnumbers : payloadNumbers unlikelyFraud = [tiny] := rfl
    rw [hnumbers, List.mem_singleton] at hvalue
    rw [IsNear, hvalue, hone, tiny] at hnear
    norm_num [abs_of_neg] at hnear

end VeriPay.AnalystApi
