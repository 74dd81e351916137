import VeriPay.Lib.Base64

/-!
Canonical base64 texts. The non-strict decoder reads many texts as the same bytes; the one
among them that the encoder writes is in the url-safe alphabet and leaves no bit over.
-/

namespace VeriPay.Lib.Base64

/-- A letter, a digit, or one of the two characters of `urlsafe_b64encode`. -/
def InAlphabet (c : Char) : Prop :=
  (65 ≤ c.toNat ∧ c.toNat ≤ 90) ∨ (97 ≤ c.toNat ∧ c.toNat ≤ 122) ∨
    (48 ≤ c.toNat ∧ c.toNat ≤ 57) ∨ c = '-' ∨ c = '_'

instance : DecidablePred InAlphabet := fun _ => inferInstanceAs (Decidable (_ ∨ _))

/-- How many of its six bits the last character of a text leaves over. -/
def spareBits (length : ℕ) : ℕ :=
  if length % 4 = 2 then 4 else if length % 4 = 3 then 2 else 0

/-- A text of the alphabet alone, the bits its last character leaves over all zero. -/
structure Canonical (text : List Char) : Prop where
  alphabet : ∀ c ∈ text, InAlphabet c
  spare : ∀ c ∈ text.getLast?, ∀ n, decodeChar c = some n → n % 2 ^ spareBits text.length = 0

theorem spareBits_add_four (length : ℕ) : spareBits (length + 4) = spareBits length := by
  rw [spareBits, spareBits, Nat.add_mod_right]

theorem inAlphabet_encodeChar {n : ℕ} (h : n < 64) : InAlphabet (encodeChar n) := by
  interval_cases n <;> decide

/-- A character of the alphabet stands for a sextet. -/
theorem exists_sextet {c : Char} (h : InAlphabet c) : ∃ n, n < 64 ∧ c = encodeChar n := by
  have hchar : Char.ofNat c.toNat = c := Char.ofNat_toNat c
  rcases h with hupper | hlower | hdigit | rfl | rfl
  · refine ⟨c.toNat - 65, by omega, ?_⟩
    rw [encodeChar, if_pos (by omega), Nat.add_sub_cancel' hupper.1, hchar]
  · refine ⟨c.toNat - 71, by omega, ?_⟩
    rw [encodeChar, if_neg (by omega), if_pos (by omega), Nat.add_sub_cancel' (by omega), hchar]
  · refine ⟨c.toNat + 4, by omega, ?_⟩
    rw [encodeChar, if_neg (by omega), if_neg (by omega), if_pos (by omega), Nat.add_sub_cancel,
      hchar]
  · exact ⟨62, by decide, by decide⟩
  · exact ⟨63, by decide, by decide⟩

/-- What the encoder writes is canonical. -/
theorem canonical_stripped (value : List Byte) : Canonical (stripped value) := by
  refine ⟨?_, ?_⟩
  · intro c hc
    obtain ⟨n, hn, rfl⟩ := stripped_sextet value c hc
    exact inAlphabet_encodeChar hn
  · induction value using stripped.induct with
    | case1 => simp [stripped]
    | case2 a =>
      intro c hc n hn
      obtain rfl : encodeChar (a % 4 * 16) = c := Option.some.inj hc
      rw [decodeChar_encodeChar (by omega), Option.some.injEq] at hn
      rw [← hn]
      exact Nat.mul_mod_left _ 16
    | case3 a b =>
      intro c hc n hn
      obtain rfl : encodeChar (b % 16 * 4) = c := Option.some.inj hc
      rw [decodeChar_encodeChar (by omega), Option.some.injEq] at hn
      rw [← hn]
      exact Nat.mul_mod_left _ 4
    | case4 a b d rest ih =>
      intro c hc n hn
      have hlength : spareBits (stripped (a :: b :: d :: rest)).length =
          spareBits (stripped rest).length := spareBits_add_four _
      rw [hlength]
      cases hrest : stripped rest with
      | nil => exact Nat.mod_one n
      | cons first others =>
        rw [← hrest]
        refine ih c ?_ n hn
        rw [hrest]
        simpa [stripped, hrest] using hc

/-- Decoding reads a group of four sextets as three bytes. -/
theorem a2bFrom_group {u v w x : ℕ} (hu : u < 64) (hv : v < 64) (hw : w < 64) (hx : x < 64)
    (left pads : ℕ) (rest : List Char) :
    a2bFrom 0 left pads
        (encodeChar u :: encodeChar v :: encodeChar w :: encodeChar x :: rest) =
      (a2bFrom 0 0 0 rest).map fun bytes =>
        Fin.ofNat 256 (u * 4 + v / 16) :: Fin.ofNat 256 (v % 16 * 16 + w / 4) ::
          Fin.ofNat 256 (w % 4 * 64 + x) :: bytes := by
  rw [a2bFrom_encodeChar _ _ _ _ _ hu]
  simp only []
  rw [a2bFrom_encodeChar _ _ _ _ _ hv]
  simp only []
  rw [a2bFrom_encodeChar _ _ _ _ _ hw]
  simp only []
  rw [a2bFrom_encodeChar _ _ _ _ _ hx]
  simp only []
  cases a2bFrom 0 0 0 rest with
  | error e => rfl
  | ok bytes => rfl

/-- A canonical text that stands for whole bytes is their encoding. -/
theorem exists_bytes : ∀ {text : List Char}, Canonical text → text.length % 4 ≠ 1 →
    ∃ value, stripped value = text
  | [], _, _ => ⟨[], rfl⟩
  | [_], _, hlength => absurd rfl hlength
  | [first, second], h, _ => by
    obtain ⟨u, hu, rfl⟩ := exists_sextet (h.alphabet first (by simp))
    obtain ⟨v, hv, rfl⟩ := exists_sextet (h.alphabet second (by simp))
    have hspare : v % 16 = 0 := h.spare _ rfl v (decodeChar_encodeChar hv)
    refine ⟨[⟨u * 4 + v / 16, by omega⟩], ?_⟩
    have hfirst : (u * 4 + v / 16) / 4 = u := by omega
    have hsecond : (u * 4 + v / 16) % 4 * 16 = v := by omega
    simp only [stripped, hfirst, hsecond]
  | [first, second, third], h, _ => by
    obtain ⟨u, hu, rfl⟩ := exists_sextet (h.alphabet first (by simp))
    obtain ⟨v, hv, rfl⟩ := exists_sextet (h.alphabet second (by simp))
    obtain ⟨w, hw, rfl⟩ := exists_sextet (h.alphabet third (by simp))
    have hspare : w % 4 = 0 := h.spare _ rfl w (decodeChar_encodeChar hw)
    refine ⟨[⟨u * 4 + v / 16, by omega⟩, ⟨v % 16 * 16 + w / 4, by omega⟩], ?_⟩
    have hfirst : (u * 4 + v / 16) / 4 = u := by omega
    have hsecond : (u * 4 + v / 16) % 4 * 16 + (v % 16 * 16 + w / 4) / 16 = v := by omega
    have hthird : (v % 16 * 16 + w / 4) % 16 * 4 = w := by omega
    simp only [stripped, hfirst, hsecond, hthird]
  | first :: second :: third :: fourth :: rest, h, hlength => by
    have hrest : Canonical rest := by
      refine ⟨fun c hc => h.alphabet c (by simp [hc]), ?_⟩
      intro c hc n hn
      rw [← spareBits_add_four]
      refine h.spare c ?_ n hn
      cases rest with
      | nil => cases hc
      | cons other others => simpa using hc
    obtain ⟨value, rfl⟩ := exists_bytes hrest
      (by simp only [List.length_cons] at hlength; omega)
    obtain ⟨u, hu, rfl⟩ := exists_sextet (h.alphabet first (by simp))
    obtain ⟨v, hv, rfl⟩ := exists_sextet (h.alphabet second (by simp))
    obtain ⟨w, hw, rfl⟩ := exists_sextet (h.alphabet third (by simp))
    obtain ⟨x, hx, rfl⟩ := exists_sextet (h.alphabet fourth (by simp))
    refine ⟨⟨u * 4 + v / 16, by omega⟩ :: ⟨v % 16 * 16 + w / 4, by omega⟩ ::
      ⟨w % 4 * 64 + x, by omega⟩ :: value, ?_⟩
    have hfirst : (u * 4 + v / 16) / 4 = u := by omega
    have hsecond : (u * 4 + v / 16) % 4 * 16 + (v % 16 * 16 + w / 4) / 16 = v := by omega
    have hthird : (v % 16 * 16 + w / 4) % 16 * 4 + (w % 4 * 64 + x) / 64 = w := by omega
    have hfourth : (w % 4 * 64 + x) % 64 = x := by omega
    simp only [stripped, hfirst, hsecond, hthird, hfourth]

/-- One character after the last whole group is no byte, whatever the padding. -/
theorem a2bFrom_one_over : ∀ {text : List Char}, (∀ c ∈ text, InAlphabet c) →
    text.length % 4 = 1 → ∀ n, ∃ e, a2bFrom 0 0 0 (text ++ List.replicate n '=') = .error e
  | [], _, hlength, _ => by cases hlength
  | [only], h, _, n => by
    obtain ⟨u, hu, rfl⟩ := exists_sextet (h only List.mem_cons_self)
    have hpads : ∀ n, a2bFrom 1 u 0 (List.replicate n '=') =
        .error (.valueError "Invalid base64-encoded string") := by
      intro n
      induction n with
      | zero => rfl
      | succ n ih => exact ih
    rw [List.singleton_append, a2bFrom_encodeChar _ _ _ _ _ hu]
    exact ⟨_, hpads n⟩
  | [_, _], _, hlength, _ => by cases hlength
  | [_, _, _], _, hlength, _ => by cases hlength
  | first :: second :: third :: fourth :: rest, h, hlength, n => by
    have hall : ∀ c ∈ rest, InAlphabet c := fun c hc => h c (by simp [hc])
    obtain ⟨e, hrest⟩ := a2bFrom_one_over hall
      (by simp only [List.length_cons] at hlength; omega) n
    obtain ⟨u, hu, rfl⟩ := exists_sextet (h first (by simp))
    obtain ⟨v, hv, rfl⟩ := exists_sextet (h second (by simp))
    obtain ⟨w, hw, rfl⟩ := exists_sextet (h third (by simp))
    obtain ⟨x, hx, rfl⟩ := exists_sextet (h fourth (by simp))
    refine ⟨e, ?_⟩
    simp only [List.cons_append]
    rw [a2bFrom_group hu hv hw hx, hrest]
    rfl

theorem length_mod_four_of_decodes {text : List Char} {value : List Byte} (h : Canonical text)
    (hdecode : b64decode text = .ok value) : text.length % 4 ≠ 1 := by
  intro hlength
  obtain ⟨e, herror⟩ := a2bFrom_one_over h.alphabet hlength ((4 - text.length % 4) % 4)
  unfold b64decode urlsafeB64decode at hdecode
  split_ifs at hdecode
  rw [herror] at hdecode
  cases hdecode

/-- A text that decodes is the encoding of what it decodes to iff it is canonical. -/
theorem eq_b64encode_iff {text : List Char} {value : List Byte}
    (hdecode : b64decode text = .ok value) : text = b64encode value ↔ Canonical text := by
  rw [b64encode_eq_stripped]
  constructor
  · rintro rfl
    exact canonical_stripped value
  · intro h
    obtain ⟨encoded, rfl⟩ := exists_bytes h (length_mod_four_of_decodes h hdecode)
    rw [← b64encode_eq_stripped, b64decode_b64encode, Except.ok.injEq] at hdecode
    rw [hdecode]

/-- The decoder passes over what is not of its alphabet. -/
theorem a2bFrom_skip (quad left pads : ℕ) (rest : List Char) {junk : List Char}
    (hjunk : ∀ c ∈ junk, c ≠ '=' ∧ decodeChar c = none) :
    a2bFrom quad left pads (junk ++ rest) = a2bFrom quad left pads rest := by
  induction junk with
  | nil => rfl
  | cons c others ih =>
    obtain ⟨hpadding, hnone⟩ := hjunk c List.mem_cons_self
    rw [List.cons_append, a2bFrom, if_neg hpadding, hnone]
    exact ih fun other hother => hjunk other (List.mem_cons_of_mem c hother)

/-- Whole groups of such characters go unnoticed. -/
theorem b64decode_skip (text : List Char) {junk : List Char}
    (hjunk : ∀ c ∈ junk, c ≠ '=' ∧ decodeChar c = none) (hascii : ∀ c ∈ junk, c.toNat < 128)
    (hlength : junk.length % 4 = 0) : b64decode (junk ++ text) = b64decode text := by
  have hsame : (junk ++ text).length % 4 = text.length % 4 := by
    rw [List.length_append, Nat.add_mod, hlength, Nat.zero_add, Nat.mod_mod]
  have hall : junk.all (fun c => c.toNat < 128) = true := by
    rw [List.all_eq_true]
    exact fun c hc => decide_eq_true (hascii c hc)
  rw [b64decode, b64decode, hsame, urlsafeB64decode, urlsafeB64decode, List.append_assoc,
    List.all_append, hall, Bool.true_and, a2bFrom_skip _ _ _ _ hjunk]

end VeriPay.Lib.Base64
