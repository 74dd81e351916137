import Mathlib.Data.List.Basic
import Mathlib.Data.Fin.Basic
import Mathlib.Tactic.IntervalCases
import VeriPay.Lib.PyError

/-!
URL-safe base64 as Python's `base64` and `binascii` compute it. The decoder is
the non-strict one: characters outside the alphabet are skipped, the standard
alphabet's `+` and `/` are still accepted, and the bits left over at the padding
are dropped.
-/

namespace VeriPay.Lib.Base64

abbrev Byte := Fin 256

instance byteNeZero : NeZero 256 := ⟨by decide⟩

/-- The alphabet of `urlsafe_b64encode`. -/
def encodeChar (n : ℕ) : Char :=
  if n < 26 then Char.ofNat (65 + n)
  else if n < 52 then Char.ofNat (71 + n)
  else if n < 62 then Char.ofNat (n - 4)
  else if n = 62 then '-'
  else '_'

/-- The decoder's table after `urlsafe_b64decode` has mapped `-_` to `+/`. -/
def decodeChar (c : Char) : Option ℕ :=
  if 65 ≤ c.toNat ∧ c.toNat ≤ 90 then some (c.toNat - 65)
  else if 97 ≤ c.toNat ∧ c.toNat ≤ 122 then some (c.toNat - 71)
  else if 48 ≤ c.toNat ∧ c.toNat ≤ 57 then some (c.toNat + 4)
  else if c = '-' ∨ c = '+' then some 62
  else if c = '_' ∨ c = '/' then some 63
  else none

/-- `urlsafe_b64encode`: three bytes at a time, the last group padded. -/
def urlsafeB64encode : List Byte → List Char
  | [] => []
  | [a] => [encodeChar (a / 4), encodeChar (a % 4 * 16), '=', '=']
  | [a, b] =>
    [encodeChar (a / 4), encodeChar (a % 4 * 16 + b / 16), encodeChar (b % 16 * 4), '=']
  | a :: b :: c :: rest =>
    encodeChar (a / 4) :: encodeChar (a % 4 * 16 + b / 16) ::
      encodeChar (b % 16 * 4 + c / 64) :: encodeChar (c % 64) :: urlsafeB64encode rest

/-- `a2b_base64` in its non-strict mode: `quad` counts the sextets of the open
group, `left` holds the bits not yet emitted, `pads` the padding seen. -/
def a2bFrom (quad left pads : ℕ) : List Char → Py (List Byte)
  | [] =>
    if quad = 0 then .ok []
    else if quad = 1 then
      -- the source's message also names the number of data characters
      .error (.valueError "Invalid base64-encoded string")
    else .error (.valueError "Incorrect padding")
  | c :: rest =>
    if c = '=' then
      if quad < 2 then a2bFrom quad left pads rest
      else if 4 ≤ quad + (pads + 1) then .ok []
      else a2bFrom quad left (pads + 1) rest
    else
      match decodeChar c with
      | none => a2bFrom quad left pads rest
      | some v =>
        match quad with
        | 0 => a2bFrom 1 v 0 rest
        | 1 => (a2bFrom 2 (v % 16) 0 rest).map (Fin.ofNat 256 (left * 4 + v / 16) :: ·)
        | 2 => (a2bFrom 3 (v % 4) 0 rest).map (Fin.ofNat 256 (left * 16 + v / 4) :: ·)
        | _ => (a2bFrom 0 0 0 rest).map (Fin.ofNat 256 (left * 64 + v) :: ·)

def urlsafeB64decode (text : List Char) : Py (List Byte) :=
  if text.all (fun c => c.toNat < 128) then a2bFrom 0 0 0 text
  else .error (.valueError "string argument should contain only ASCII characters")

/-- `text.rstrip("=")`. -/
def rstripPadding (text : List Char) : List Char :=
  (text.reverse.dropWhile (· = '=')).reverse

/-- `_b64encode`: the encoding without its padding. -/
def b64encode (value : List Byte) : List Char := rstripPadding (urlsafeB64encode value)

/-- `_b64decode`: the padding is recomputed from the length of the text. -/
def b64decode (text : List Char) : Py (List Byte) :=
  urlsafeB64decode (text ++ List.replicate ((4 - text.length % 4) % 4) '=')

theorem decodeChar_encodeChar {n : ℕ} (h : n < 64) : decodeChar (encodeChar n) = some n := by
  interval_cases n <;> rfl

theorem encodeChar_ne_padding {n : ℕ} (h : n < 64) : encodeChar n ≠ '=' := by
  interval_cases n <;> decide

theorem encodeChar_ne_dot {n : ℕ} (h : n < 64) : encodeChar n ≠ '.' := by
  interval_cases n <;> decide

theorem encodeChar_ascii {n : ℕ} (h : n < 64) : (encodeChar n).toNat < 128 := by
  interval_cases n <;> decide

/-- The encoding with the padding left off, group by group. -/
def stripped : List Byte → List Char
  | [] => []
  | [a] => [encodeChar (a / 4), encodeChar (a % 4 * 16)]
  | [a, b] => [encodeChar (a / 4), encodeChar (a % 4 * 16 + b / 16), encodeChar (b % 16 * 4)]
  | a :: b :: c :: rest =>
    encodeChar (a / 4) :: encodeChar (a % 4 * 16 + b / 16) ::
      encodeChar (b % 16 * 4 + c / 64) :: encodeChar (c % 64) :: stripped rest

/-- Every character of an encoding stands for a sextet. -/
theorem stripped_sextet (value : List Byte) :
    ∀ c ∈ stripped value, ∃ n, n < 64 ∧ c = encodeChar n := by
  induction value using stripped.induct with
  | case1 => simp [stripped]
  | case2 a =>
    intro c hc
    simp only [stripped, List.mem_cons, List.not_mem_nil, or_false] at hc
    rcases hc with rfl | rfl
    · exact ⟨_, by omega, rfl⟩
    · exact ⟨_, by omega, rfl⟩
  | case3 a b =>
    intro c hc
    simp only [stripped, List.mem_cons, List.not_mem_nil, or_false] at hc
    rcases hc with rfl | rfl | rfl
    · exact ⟨_, by omega, rfl⟩
    · exact ⟨_, by omega, rfl⟩
    · exact ⟨_, by omega, rfl⟩
  | case4 a b d rest ih =>
    intro c hc
    simp only [stripped, List.mem_cons] at hc
    rcases hc with rfl | rfl | rfl | rfl | hc
    · exact ⟨_, by omega, rfl⟩
    · exact ⟨_, by omega, rfl⟩
    · exact ⟨_, by omega, rfl⟩
    · exact ⟨_, by omega, rfl⟩
    · exact ih c hc

/-- The padding `urlsafe_b64encode` adds is the one `_b64decode` recomputes. -/
theorem urlsafeB64encode_eq (value : List Byte) :
    urlsafeB64encode value =
      stripped value ++ List.replicate ((4 - (stripped value).length % 4) % 4) '=' := by
  induction value using stripped.induct with
  | case1 => rfl
  | case2 a => rfl
  | case3 a b => rfl
  | case4 a b c rest ih =>
    simp only [urlsafeB64encode, stripped, List.length_cons, List.cons_append, ih]
    have hlength : ((stripped rest).length + 1 + 1 + 1 + 1) % 4 = (stripped rest).length % 4 := by
      omega
    rw [hlength]

theorem rstripPadding_append (text : List Char) (n : ℕ) (h : ∀ c ∈ text, c ≠ '=') :
    rstripPadding (text ++ List.replicate n '=') = text := by
  have hdrop : ((text ++ List.replicate n '=').reverse.dropWhile (· = '=')) = text.reverse := by
    rw [List.reverse_append, List.reverse_replicate,
      List.dropWhile_append_of_pos (by simp +contextual)]
    cases hreverse : text.reverse with
    | nil => rfl
    | cons last _ =>
      have hmem : last ∈ text := List.mem_reverse.mp (hreverse ▸ List.mem_cons_self)
      rw [List.dropWhile_cons_of_neg (by simpa using h last hmem)]
  rw [rstripPadding, hdrop, List.reverse_reverse]

theorem b64encode_eq_stripped (value : List Byte) : b64encode value = stripped value := by
  rw [b64encode, urlsafeB64encode_eq, rstripPadding_append]
  intro c hc
  obtain ⟨n, hn, rfl⟩ := stripped_sextet value c hc
  exact encodeChar_ne_padding hn

theorem dot_notMem_b64encode (value : List Byte) : '.' ∉ b64encode value := by
  rw [b64encode_eq_stripped]
  intro hdot
  obtain ⟨n, hn, heq⟩ := stripped_sextet value '.' hdot
  exact encodeChar_ne_dot hn heq.symm

theorem b64encode_ascii (value : List Byte) :
    (b64encode value).all (fun c => c.toNat < 128) = true := by
  rw [b64encode_eq_stripped, List.all_eq_true]
  intro c hc
  obtain ⟨n, hn, rfl⟩ := stripped_sextet value c hc
  exact decide_eq_true (encodeChar_ascii hn)

/-- One sextet through the decoder. -/
theorem a2bFrom_encodeChar (quad left pads n : ℕ) (rest : List Char) (h : n < 64) :
    a2bFrom quad left pads (encodeChar n :: rest) =
      match quad with
      | 0 => a2bFrom 1 n 0 rest
      | 1 => (a2bFrom 2 (n % 16) 0 rest).map (Fin.ofNat 256 (left * 4 + n / 16) :: ·)
      | 2 => (a2bFrom 3 (n % 4) 0 rest).map (Fin.ofNat 256 (left * 16 + n / 4) :: ·)
      | _ => (a2bFrom 0 0 0 rest).map (Fin.ofNat 256 (left * 64 + n) :: ·) := by
  rw [a2bFrom, if_neg (encodeChar_ne_padding h), decodeChar_encodeChar h]

/-- The byte that a sum of shifted bits comes to. -/
theorem ofNat_byte {n : ℕ} {byte : Byte} (h : n = byte) : Fin.ofNat 256 n = byte := by
  rw [h]
  exact Fin.ofNat_val_eq_self byte

/-- The decoder reads back what the encoder wrote, padding included. -/
theorem a2bFrom_urlsafeB64encode (value : List Byte) :
    a2bFrom 0 0 0 (urlsafeB64encode value) = .ok value := by
  induction value using urlsafeB64encode.induct with
  | case1 => rfl
  | case2 a =>
    rw [urlsafeB64encode, a2bFrom_encodeChar _ _ _ _ _ (by omega),
      a2bFrom_encodeChar _ _ _ _ _ (by omega)]
    have hbyte : Fin.ofNat 256 ((a : ℕ) / 4 * 4 + (a : ℕ) % 4 * 16 / 16) = a :=
      ofNat_byte (by omega)
    simp only [hbyte]
    rfl
  | case3 a b =>
    rw [urlsafeB64encode, a2bFrom_encodeChar _ _ _ _ _ (by omega),
      a2bFrom_encodeChar _ _ _ _ _ (by omega)]
    simp only []
    rw [a2bFrom_encodeChar _ _ _ _ _ (by omega)]
    have hfirst : Fin.ofNat 256 ((a : ℕ) / 4 * 4 + ((a : ℕ) % 4 * 16 + (b : ℕ) / 16) / 16) = a :=
      ofNat_byte (by omega)
    have hsecond : Fin.ofNat 256
        (((a : ℕ) % 4 * 16 + (b : ℕ) / 16) % 16 * 16 + (b : ℕ) % 16 * 4 / 4) = b :=
      ofNat_byte (by omega)
    simp only [hfirst, hsecond]
    rfl
  | case4 a b c rest ih =>
    rw [urlsafeB64encode, a2bFrom_encodeChar _ _ _ _ _ (by omega),
      a2bFrom_encodeChar _ _ _ _ _ (by omega)]
    simp only []
    rw [a2bFrom_encodeChar _ _ _ _ _ (by omega)]
    simp only []
    rw [a2bFrom_encodeChar _ _ _ _ _ (by omega)]
    simp only []
    have hfirst : Fin.ofNat 256 ((a : ℕ) / 4 * 4 + ((a : ℕ) % 4 * 16 + (b : ℕ) / 16) / 16) = a :=
      ofNat_byte (by omega)
    have hsecond : Fin.ofNat 256
        (((a : ℕ) % 4 * 16 + (b : ℕ) / 16) % 16 * 16 +
          ((b : ℕ) % 16 * 4 + (c : ℕ) / 64) / 4) = b :=
      ofNat_byte (by omega)
    have hthird : Fin.ofNat 256
        (((b : ℕ) % 16 * 4 + (c : ℕ) / 64) % 4 * 64 + (c : ℕ) % 64) = c :=
      ofNat_byte (by omega)
    rw [ih, hfirst, hsecond, hthird]
    rfl

theorem urlsafeB64encode_ascii (value : List Byte) :
    (urlsafeB64encode value).all (fun c => c.toNat < 128) = true := by
  rw [urlsafeB64encode_eq, List.all_append, Bool.and_eq_true]
  constructor
  · rw [← b64encode_eq_stripped]
    exact b64encode_ascii value
  · rw [List.all_eq_true]
    intro c hc
    rw [List.eq_of_mem_replicate hc]
    decide

/-- The stripped text decodes to the bytes it was made from. -/
theorem b64decode_b64encode (value : List Byte) : b64decode (b64encode value) = .ok value := by
  rw [b64encode_eq_stripped, b64decode, ← urlsafeB64encode_eq, urlsafeB64decode,
    if_pos (urlsafeB64encode_ascii value)]
  exact a2bFrom_urlsafeB64encode value

end VeriPay.Lib.Base64
