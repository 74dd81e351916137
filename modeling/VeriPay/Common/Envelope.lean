import Mathlib.Data.Set.Insert
import VeriPay.Lib.Base64

/-!
Authenticated envelopes: a payload under an HMAC-derived key stream, and the tag of its
nonce and ciphertext put one after the other. HMAC-SHA256 comes from outside the
repository and is a parameter.
-/

namespace VeriPay.Common

open Lib Lib.Base64

abbrev NonEmptyText := {text : List Char // text ≠ []}

def NonEmptyText.validate (field : String) (text : List Char) : Py NonEmptyText :=
  if h : text ≠ [] then .ok ⟨text, h⟩ else .error (.validationError field)

/-- Opaque authenticated envelope used for telemetry and evidence references. -/
structure EncryptedEnvelope where
  keyId : NonEmptyStr
  nonce : NonEmptyText
  ciphertext : NonEmptyText
  authenticationTag : NonEmptyText

/-- `hmac.new(secret, message, hashlib.sha256).digest()`. -/
structure HmacSha256 where
  digest : List Byte → List Byte → List Byte
  digest_ne_nil : ∀ secret message, digest secret message ≠ []

/-- `counter.to_bytes(4, "big")`. -/
def counterBytes (counter : ℕ) : Py (List Byte) :=
  if counter < 2 ^ 32 then
    .ok [Fin.ofNat 256 (counter / 2 ^ 24), Fin.ofNat 256 (counter / 2 ^ 16),
      Fin.ofNat 256 (counter / 2 ^ 8), Fin.ofNat 256 counter]
  else .error (.overflowError "int too big to convert")

/-- `bytes(left ^ right for left, right in zip(a, b, strict=True))`. -/
def xorBytes (a b : List Byte) : Py (List Byte) :=
  if a.length = b.length then .ok (List.zipWith (· ^^^ ·) a b)
  else if b.length < a.length then
    .error (.valueError "zip() argument 2 is shorter than argument 1")
  else .error (.valueError "zip() argument 2 is longer than argument 1")

/-- Small authenticated envelope adapter for local development. -/
structure HmacEnvelopeEncryptor where
  hmac : HmacSha256
  secret : List Byte
  secret_length : 16 ≤ secret.length
  keyId : String := "local-test-key"

namespace HmacEnvelopeEncryptor

variable (encryptor : HmacEnvelopeEncryptor)

def mac (message : List Byte) : List Byte := encryptor.hmac.digest encryptor.secret message

/-- The loop of `_stream`, from a counter and the output so far. -/
def streamFrom (nonce : List Byte) (size counter : ℕ) (output : List Byte) : Py (List Byte) :=
  if output.length < size then
    match counterBytes counter with
    | .error e => .error e
    | .ok suffix =>
      streamFrom nonce size (counter + 1) (output ++ encryptor.mac (nonce ++ suffix))
  else .ok (output.take size)
termination_by size - output.length
decreasing_by
  have hdigest : 0 < (encryptor.mac (nonce ++ suffix)).length :=
    List.length_pos_iff.mpr (encryptor.hmac.digest_ne_nil _ _)
  simp only [List.length_append]
  omega

def stream (nonce : List Byte) (size : ℕ) : Py (List Byte) := encryptor.streamFrom nonce size 0 []

/-- `encrypt`, with the nonce `secrets.token_bytes(16)` draws. -/
def encrypt (nonce payload : List Byte) : Py EncryptedEnvelope := do
  let stream ← encryptor.stream nonce payload.length
  let ciphertext ← xorBytes payload stream
  let tag := encryptor.mac (nonce ++ ciphertext)
  let keyId ← NonEmptyStr.validate "key_id" encryptor.keyId
  let nonce ← NonEmptyText.validate "nonce" (b64encode nonce)
  let ciphertext ← NonEmptyText.validate "ciphertext" (b64encode ciphertext)
  let authenticationTag ← NonEmptyText.validate "authentication_tag" (b64encode tag)
  return { keyId, nonce, ciphertext, authenticationTag }

def decrypt (envelope : EncryptedEnvelope) : Py (List Byte) :=
  if envelope.keyId.val ≠ encryptor.keyId then .error (.valueError "Unknown envelope key")
  else do
    let nonce ← b64decode envelope.nonce
    let ciphertext ← b64decode envelope.ciphertext
    let expected := encryptor.mac (nonce ++ ciphertext)
    let tag ← b64decode envelope.authenticationTag
    if expected ≠ tag then throw (.valueError "Envelope authentication failed")
    else
      let stream ← encryptor.stream nonce ciphertext.length
      xorBytes ciphertext stream

end HmacEnvelopeEncryptor

theorem xor_xor_byte (a b : Byte) : a ^^^ b ^^^ b = a := by
  apply Fin.ext
  have hlt : ∀ x y : Byte, (x : ℕ) ^^^ (y : ℕ) < 256 := fun x y =>
    Nat.xor_lt_two_pow (n := 8) x.isLt y.isLt
  rw [Fin.xor_val, Fin.xor_val, Nat.mod_eq_of_lt (hlt a b), Nat.xor_assoc, Nat.xor_self,
    Nat.xor_zero, Nat.mod_eq_of_lt a.isLt]

theorem xorBytes_eq_ok {a b c : List Byte} (h : xorBytes a b = .ok c) :
    a.length = b.length ∧ c = List.zipWith (· ^^^ ·) a b := by
  unfold xorBytes at h
  split_ifs at h with hlength
  cases h
  exact ⟨hlength, rfl⟩

theorem length_xorBytes {a b c : List Byte} (h : xorBytes a b = .ok c) : c.length = a.length := by
  obtain ⟨hlength, rfl⟩ := xorBytes_eq_ok h
  rw [List.length_zipWith, ← hlength, Nat.min_self]

/-- Applying the same stream again gives the text back. -/
theorem xorBytes_xorBytes {a b c : List Byte} (h : xorBytes a b = .ok c) :
    xorBytes c b = .ok a := by
  have hlength := (xorBytes_eq_ok h).1
  rw [xorBytes, if_pos ((length_xorBytes h).trans hlength), (xorBytes_eq_ok h).2]
  congr 1
  apply List.ext_getElem
  · simp [hlength]
  · intro i hi _
    simp [xor_xor_byte]

theorem NonEmptyText.validate_eq_ok {field : String} {text : List Char} {value : NonEmptyText}
    (h : NonEmptyText.validate field text = .ok value) : value.val = text := by
  unfold NonEmptyText.validate at h
  split_ifs at h
  cases h
  rfl

namespace HmacEnvelopeEncryptor

variable (encryptor : HmacEnvelopeEncryptor)

/-- What an envelope made by `encrypt` holds. -/
theorem encrypt_eq_ok {nonce payload : List Byte} {envelope : EncryptedEnvelope}
    (h : encryptor.encrypt nonce payload = .ok envelope) :
    ∃ stream ciphertext, encryptor.stream nonce payload.length = .ok stream ∧
      xorBytes payload stream = .ok ciphertext ∧
      b64decode envelope.nonce = .ok nonce ∧ b64decode envelope.ciphertext = .ok ciphertext ∧
      b64decode envelope.authenticationTag = .ok (encryptor.mac (nonce ++ ciphertext)) := by
  obtain ⟨stream, hstream, h⟩ := Py.bind_eq_ok.mp h
  obtain ⟨ciphertext, hxor, h⟩ := Py.bind_eq_ok.mp h
  obtain ⟨keyId, hkey, h⟩ := Py.bind_eq_ok.mp h
  obtain ⟨nonceText, hnonce, h⟩ := Py.bind_eq_ok.mp h
  obtain ⟨ciphertextText, hciphertext, h⟩ := Py.bind_eq_ok.mp h
  obtain ⟨tagText, htag, h⟩ := Py.bind_eq_ok.mp h
  cases h
  refine ⟨stream, ciphertext, hstream, hxor, ?_, ?_, ?_⟩
  · rw [NonEmptyText.validate_eq_ok hnonce, b64decode_b64encode]
  · rw [NonEmptyText.validate_eq_ok hciphertext, b64decode_b64encode]
  · rw [NonEmptyText.validate_eq_ok htag, b64decode_b64encode]

/-- `decrypt` returns for a valid tag under its key, with the unmasked ciphertext. -/
theorem decrypt_eq_ok_iff {envelope : EncryptedEnvelope} {payload : List Byte} :
    encryptor.decrypt envelope = .ok payload ↔
      envelope.keyId.val = encryptor.keyId ∧ ∃ nonce ciphertext stream,
        b64decode envelope.nonce = .ok nonce ∧ b64decode envelope.ciphertext = .ok ciphertext ∧
        b64decode envelope.authenticationTag = .ok (encryptor.mac (nonce ++ ciphertext)) ∧
        encryptor.stream nonce ciphertext.length = .ok stream ∧
        xorBytes ciphertext stream = .ok payload := by
  unfold decrypt
  by_cases hkey : envelope.keyId.val = encryptor.keyId
  · rw [if_neg (not_not_intro hkey)]
    simp only [Py.bind_eq_ok]
    constructor
    · intro h
      obtain ⟨nonce, hnonce, ciphertext, hciphertext, tag, htag, h⟩ := h
      split_ifs at h with hsame
      obtain ⟨stream, hstream, hxor⟩ := Py.bind_eq_ok.mp h
      rw [← not_not.mp hsame] at htag
      exact ⟨hkey, nonce, ciphertext, stream, hnonce, hciphertext, htag, hstream, hxor⟩
    · intro h
      obtain ⟨-, nonce, ciphertext, stream, hnonce, hciphertext, htag, hstream, hxor⟩ := h
      refine ⟨nonce, hnonce, ciphertext, hciphertext, _, htag, ?_⟩
      rw [if_neg (not_not_intro rfl)]
      exact Py.bind_eq_ok.mpr ⟨stream, hstream, hxor⟩
  · rw [if_pos hkey]
    constructor
    · intro h
      cases h
    · intro h
      exact absurd h.1 hkey

/-- A stream no longer than one digest. -/
theorem stream_of_le {nonce : List Byte} {size : ℕ} (hpos : 0 < size)
    (hsize : size ≤ (encryptor.mac (nonce ++ [0, 0, 0, 0])).length) :
    encryptor.stream nonce size = .ok ((encryptor.mac (nonce ++ [0, 0, 0, 0])).take size) := by
  have hfirst : counterBytes 0 = .ok [0, 0, 0, 0] := by decide
  rw [stream, streamFrom, if_pos (by simpa using hpos), hfirst]
  simp only [List.nil_append]
  rw [streamFrom, if_neg (by omega)]

/-- One run of `encrypt`. -/
structure Made where
  nonce : List Byte
  nonce_length : nonce.length = 16
  payload : List Byte
  envelope : EncryptedEnvelope
  made : encryptor.encrypt nonce payload = .ok envelope

/-- What the caller gets is the payload of an envelope with this nonce and ciphertext. -/
def Genuine (made : Set encryptor.Made) (envelope : EncryptedEnvelope) (payload : List Byte) :
    Prop :=
  ∃ run ∈ made, b64decode envelope.nonce = b64decode run.envelope.nonce ∧
    b64decode envelope.ciphertext = b64decode run.envelope.ciphertext ∧ payload = run.payload

/-- Whoever presents a valid tag has it from an envelope made here. -/
def TagsFrom (made : Set encryptor.Made) (envelope : EncryptedEnvelope) : Prop :=
  ∀ message, b64decode envelope.authenticationTag = .ok (encryptor.mac message) →
    ∃ run ∈ made, b64decode run.envelope.authenticationTag = .ok (encryptor.mac message)

/-- An envelope that `decrypt` accepts is one that was made exactly when its nonce decodes
to sixteen bytes. -/
theorem genuine_iff_nonce_length (hinjective : Function.Injective encryptor.mac)
    (made : Set encryptor.Made) {envelope : EncryptedEnvelope}
    (htags : encryptor.TagsFrom made envelope) {payload : List Byte}
    (haccepted : encryptor.decrypt envelope = .ok payload) :
    encryptor.Genuine made envelope payload ↔
      ∃ nonce, b64decode envelope.nonce = .ok nonce ∧ nonce.length = 16 := by
  obtain ⟨-, nonce, ciphertext, stream, hnonce, hciphertext, htag, hstream, hxor⟩ :=
    encryptor.decrypt_eq_ok_iff.mp haccepted
  constructor
  · intro h
    obtain ⟨run, _, hsame, _, _⟩ := h
    obtain ⟨_, _, _, _, hrun, _, _⟩ := encryptor.encrypt_eq_ok run.made
    exact ⟨run.nonce, hsame.trans hrun, run.nonce_length⟩
  · intro h
    obtain ⟨found, hfound, hlength⟩ := h
    rw [hnonce] at hfound
    cases hfound
    obtain ⟨run, hrun, hruntag⟩ := htags _ htag
    obtain ⟨runStream, runCiphertext, hrunStream, hrunXor, hrunNonce, hrunCiphertext, hmac⟩ :=
      encryptor.encrypt_eq_ok run.made
    rw [hmac] at hruntag
    have hmessage := hinjective (Except.ok.inj hruntag)
    -- both nonces are sixteen bytes, so the message splits in one way only
    obtain ⟨hsameNonce, hsameCiphertext⟩ :=
      List.append_inj hmessage (run.nonce_length.trans hlength.symm)
    rw [← hsameCiphertext, ← hsameNonce, length_xorBytes hrunXor, hrunStream] at hstream
    cases hstream
    rw [← hsameCiphertext, xorBytes_xorBytes hrunXor] at hxor
    cases hxor
    refine ⟨run, hrun, ?_, ?_, rfl⟩
    · rw [hnonce, hrunNonce, hsameNonce]
    · rw [hciphertext, hrunCiphertext, hsameCiphertext]

section Runs

def cardNonce : List Byte := [0, 1, 2, 3, 4, 5, 6, 7, 8, 9, 10, 11, 12, 13, 14, 15]
def cardPayload : List Byte := [99, 97, 114, 100]
def cardCiphertext : List Byte := [91, 144, 168, 168]
def envelopeSecret : List Byte :=
  [101, 110, 118, 101, 108, 111, 112, 101, 45, 115, 101, 99, 114, 101, 116, 45, 49, 54, 98]

/-- The stream under the sixteen bytes, the tag, and the stream under seventeen. -/
def cardDigests : List (List Byte × List Byte) := [
  (cardNonce ++ [0, 0, 0, 0],
    [56, 241, 218, 204, 109, 83, 80, 215, 209, 15, 252, 184, 3, 118, 236, 196, 224, 120, 82, 217,
      5, 33, 105, 111, 148, 120, 132, 45, 26, 28, 33, 11]),
  (cardNonce ++ cardCiphertext,
    [74, 44, 100, 79, 214, 242, 22, 13, 203, 155, 238, 146, 234, 204, 80, 50, 158, 61, 134, 205,
      49, 31, 32, 23, 196, 117, 0, 211, 254, 49, 86, 210]),
  (cardNonce ++ [91, 0, 0, 0, 0],
    [83, 234, 60, 48, 152, 156, 95, 74, 6, 176, 101, 28, 242, 245, 156, 53, 15, 200, 198, 180,
      126, 106, 130, 149, 60, 197, 126, 160, 157, 240, 94, 229])]

/-- The digests of the messages below, and longer texts of all others. -/
def cardDigest (message : List Byte) : List Byte :=
  (cardDigests.lookup message).getD (List.replicate 33 0 ++ message)

theorem cardDigest_cases (message : List Byte) :
    (∃ entry ∈ cardDigests, message = entry.1 ∧ cardDigest message = entry.2) ∨
      cardDigest message = List.replicate 33 0 ++ message := by
  unfold cardDigest
  cases hlookup : cardDigests.lookup message with
  | none => exact Or.inr rfl
  | some digest =>
    obtain ⟨before, after, hentries, -⟩ := List.lookup_eq_some_iff.mp hlookup
    refine Or.inl ⟨(message, digest), ?_, rfl, rfl⟩
    rw [hentries]
    exact List.mem_append_right before List.mem_cons_self

theorem cardDigest_injective : Function.Injective cardDigest := by
  have hentries : ∀ first ∈ cardDigests, ∀ second ∈ cardDigests,
      first.2 = second.2 → first.1 = second.1 := by decide
  have hlengths : ∀ entry ∈ cardDigests, entry.2.length = 32 := by decide
  intro first second h
  rcases cardDigest_cases first with ⟨entry, hentry, rfl, hfirst⟩ | hfirst <;>
    rcases cardDigest_cases second with ⟨other, hother, rfl, hsecond⟩ | hsecond
  · exact hentries entry hentry other hother (by rw [← hfirst, ← hsecond, h])
  · have hlength := congrArg List.length (hfirst.symm.trans (h.trans hsecond))
    rw [hlengths entry hentry, List.length_append, List.length_replicate] at hlength
    omega
  · have hlength := congrArg List.length (hsecond.symm.trans (h.symm.trans hfirst))
    rw [hlengths other hother, List.length_append, List.length_replicate] at hlength
    omega
  · exact List.append_cancel_left (hfirst.symm.trans (h.trans hsecond))

def cardEncryptor : HmacEnvelopeEncryptor where
  hmac := {
    digest := fun _ => cardDigest
    digest_ne_nil := by
      intro _ message
      rcases cardDigest_cases message with ⟨entry, hentry, -, h⟩ | h
      · have hall : ∀ entry ∈ cardDigests, entry.2 ≠ [] := by decide
        rw [h]
        exact hall entry hentry
      · rw [h]
        exact List.cons_ne_nil _ _ }
  secret := envelopeSecret
  secret_length := by decide

def cardTag : NonEmptyText := ⟨b64encode (cardDigest (cardNonce ++ cardCiphertext)), by decide⟩

/-- The envelope of the payload `card`. -/
def cardEnvelope : EncryptedEnvelope where
  keyId := ⟨"local-test-key", by decide⟩
  nonce := ⟨b64encode cardNonce, by decide⟩
  ciphertext := ⟨b64encode cardCiphertext, by decide⟩
  authenticationTag := cardTag

/-- The same envelope with the first byte of the ciphertext moved to the nonce. -/
def shiftedEnvelope : EncryptedEnvelope where
  keyId := ⟨"local-test-key", by decide⟩
  nonce := ⟨b64encode (cardNonce ++ [91]), by decide⟩
  ciphertext := ⟨b64encode [144, 168, 168], by decide⟩
  authenticationTag := cardTag

theorem encrypt_card : cardEncryptor.encrypt cardNonce cardPayload = .ok cardEnvelope := by
  have hstream : cardEncryptor.stream cardNonce cardPayload.length = .ok [56, 241, 218, 204] := by
    rw [cardEncryptor.stream_of_le (by decide) (by decide)]
    decide
  rw [encrypt, hstream]
  rfl

def cardRun : cardEncryptor.Made where
  nonce := cardNonce
  nonce_length := by decide
  payload := cardPayload
  envelope := cardEnvelope
  made := encrypt_card

theorem tagsFrom_card : cardEncryptor.TagsFrom {cardRun} shiftedEnvelope :=
  fun _ htag => ⟨cardRun, rfl, htag⟩

theorem decrypt_shifted : cardEncryptor.decrypt shiftedEnvelope = .ok [195, 66, 148] := by
  have hstream : cardEncryptor.stream (cardNonce ++ [91]) 3 = .ok [83, 234, 60] := by
    rw [cardEncryptor.stream_of_le (by decide) (by decide)]
    decide
  refine cardEncryptor.decrypt_eq_ok_iff.mpr ⟨rfl, cardNonce ++ [91], [144, 168, 168],
    [83, 234, 60], ?_, ?_, ?_, hstream, ?_⟩
  · exact b64decode_b64encode _
  · exact b64decode_b64encode _
  · exact b64decode_b64encode _
  · decide

/-- An envelope nobody made is accepted. -/
theorem shifted_accepted :
    Function.Injective cardEncryptor.mac ∧ cardEncryptor.TagsFrom {cardRun} shiftedEnvelope ∧
      cardEncryptor.decrypt shiftedEnvelope = .ok [195, 66, 148] ∧
      ¬ cardEncryptor.Genuine {cardRun} shiftedEnvelope [195, 66, 148] := by
  refine ⟨cardDigest_injective, tagsFrom_card, decrypt_shifted, ?_⟩
  intro h
  obtain ⟨run, hrun, -, -, hpayload⟩ := h
  rw [Set.mem_singleton_iff.mp hrun] at hpayload
  revert hpayload
  decide

theorem genuine_iff_nonce_length_shifted :
    cardEncryptor.Genuine {cardRun} shiftedEnvelope [195, 66, 148] ↔
      ∃ nonce, b64decode shiftedEnvelope.nonce = .ok nonce ∧ nonce.length = 16 :=
  cardEncryptor.genuine_iff_nonce_length cardDigest_injective {cardRun} tagsFrom_card
    decrypt_shifted

end Runs

end HmacEnvelopeEncryptor

end VeriPay.Common
