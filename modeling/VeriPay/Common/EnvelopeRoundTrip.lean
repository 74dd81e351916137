import VeriPay.Common.Envelope

/-!
What is put into an envelope comes out of it. The counter of the key stream has four bytes,
which is enough for 2^37 bytes, and an envelope has no empty field: the empty payload has an
empty ciphertext and so no envelope.
-/

namespace VeriPay.Common

open Lib Lib.Base64

theorem b64encode_ne_nil {value : List Byte} (h : value ≠ []) : b64encode value ≠ [] := by
  intro hempty
  have hdecode := b64decode_b64encode value
  rw [hempty] at hdecode
  exact h (Except.ok.inj hdecode).symm

theorem NonEmptyText.validate_ok {field : String} {text : List Char} (h : text ≠ []) :
    NonEmptyText.validate field text = .ok ⟨text, h⟩ := dif_pos h

theorem xorBytes_ok {a b : List Byte} (h : a.length = b.length) :
    ∃ c, xorBytes a b = .ok c := ⟨_, if_pos h⟩

namespace HmacEnvelopeEncryptor

variable (encryptor : HmacEnvelopeEncryptor)

/-- SHA-256 digests have 32 bytes. -/
def Digests32 : Prop := ∀ message, (encryptor.mac message).length = 32

variable {encryptor}

/-- The loop ends with the stream as long as it has counters for the bytes still missing. -/
theorem streamFrom_ok (hdigest : encryptor.Digests32) (nonce : List Byte) (size counter : ℕ)
    (output : List Byte) (hroom : size ≤ output.length + 32 * (2 ^ 32 - counter)) :
    ∃ stream, encryptor.streamFrom nonce size counter output = .ok stream ∧
      stream.length = size := by
  fun_induction encryptor.streamFrom nonce size counter output with
  | case1 counter output hshort e hcounter =>
    unfold counterBytes at hcounter
    split_ifs at hcounter
    omega
  | case2 counter output hshort suffix hcounter ih =>
    apply ih
    rw [List.length_append, hdigest]
    unfold counterBytes at hcounter
    split_ifs at hcounter with hbound
    omega
  | case3 counter output hlong =>
    refine ⟨_, rfl, ?_⟩
    rw [List.length_take]
    omega

theorem stream_ok (hdigest : encryptor.Digests32) (nonce : List Byte) {size : ℕ}
    (hsize : size ≤ 2 ^ 37) :
    ∃ stream, encryptor.stream nonce size = .ok stream ∧ stream.length = size := by
  apply streamFrom_ok hdigest
  rw [List.length_nil]
  omega

/-- The ciphertext of a payload is computed before the fields of the envelope are checked. -/
theorem encrypt_of_ciphertext {nonce payload stream ciphertext : List Byte}
    (hstream : encryptor.stream nonce payload.length = .ok stream)
    (hxor : xorBytes payload stream = .ok ciphertext) :
    encryptor.encrypt nonce payload = (do
      let keyId ← NonEmptyStr.validate "key_id" encryptor.keyId
      let nonceText ← NonEmptyText.validate "nonce" (b64encode nonce)
      let ciphertextText ← NonEmptyText.validate "ciphertext" (b64encode ciphertext)
      let authenticationTag ← NonEmptyText.validate "authentication_tag"
        (b64encode (encryptor.mac (nonce ++ ciphertext)))
      return ⟨keyId, nonceText, ciphertextText, authenticationTag⟩) := by
  rw [encrypt, hstream, Py.ok_bind, hxor, Py.ok_bind]

/-- A payload and a key id that are not empty make an envelope. -/
theorem encrypt_ok (hdigest : encryptor.Digests32) {nonce payload : List Byte}
    (hnonce : nonce ≠ []) (hsize : payload.length ≤ 2 ^ 37) (hpayload : payload ≠ [])
    (hkey : encryptor.keyId ≠ "") : ∃ envelope, encryptor.encrypt nonce payload = .ok envelope := by
  obtain ⟨stream, hstream, hlength⟩ := stream_ok hdigest nonce hsize
  obtain ⟨ciphertext, hxor⟩ := xorBytes_ok hlength.symm
  have hciphertext : ciphertext ≠ [] := by
    rw [← List.length_pos_iff, length_xorBytes hxor]
    exact List.length_pos_iff.mpr hpayload
  have htag : encryptor.mac (nonce ++ ciphertext) ≠ [] := encryptor.hmac.digest_ne_nil _ _
  rw [encrypt_of_ciphertext hstream hxor, NonEmptyStr.validate, dif_pos hkey, Py.ok_bind,
    NonEmptyText.validate_ok (b64encode_ne_nil hnonce), Py.ok_bind,
    NonEmptyText.validate_ok (b64encode_ne_nil hciphertext), Py.ok_bind,
    NonEmptyText.validate_ok (b64encode_ne_nil htag)]
  exact ⟨_, rfl⟩

/-- An empty payload or key id makes an envelope with an empty field. -/
theorem encrypt_error (hdigest : encryptor.Digests32) {nonce payload : List Byte}
    (hnonce : nonce ≠ []) (hsize : payload.length ≤ 2 ^ 37)
    (hempty : payload = [] ∨ encryptor.keyId = "") :
    ∃ field, encryptor.encrypt nonce payload = .error (.validationError field) := by
  obtain ⟨stream, hstream, hlength⟩ := stream_ok hdigest nonce hsize
  obtain ⟨ciphertext, hxor⟩ := xorBytes_ok hlength.symm
  rw [encrypt_of_ciphertext hstream hxor]
  by_cases hkey : encryptor.keyId = ""
  · exact ⟨"key_id", by rw [NonEmptyStr.validate, dif_neg (not_not_intro hkey)]; rfl⟩
  · obtain rfl := hempty.resolve_right hkey
    have hciphertext : ciphertext = [] := List.length_eq_zero_iff.mp (length_xorBytes hxor)
    refine ⟨"ciphertext", ?_⟩
    rw [NonEmptyStr.validate, dif_pos hkey, Py.ok_bind,
      NonEmptyText.validate_ok (b64encode_ne_nil hnonce), Py.ok_bind, hciphertext]
    rfl

/-- The same secret and key id open what was encrypted. -/
theorem decrypt_of_encrypt {nonce payload : List Byte} {envelope : EncryptedEnvelope}
    (h : encryptor.encrypt nonce payload = .ok envelope) :
    encryptor.decrypt envelope = .ok payload := by
  have hkey : envelope.keyId.val = encryptor.keyId := by
    obtain ⟨_, -, h⟩ := Py.bind_eq_ok.mp h
    obtain ⟨_, -, h⟩ := Py.bind_eq_ok.mp h
    obtain ⟨keyId, hkeyId, h⟩ := Py.bind_eq_ok.mp h
    obtain ⟨_, -, h⟩ := Py.bind_eq_ok.mp h
    obtain ⟨_, -, h⟩ := Py.bind_eq_ok.mp h
    obtain ⟨_, -, h⟩ := Py.bind_eq_ok.mp h
    cases h
    exact NonEmptyStr.validate_ok hkeyId
  obtain ⟨stream, ciphertext, hstream, hxor, hnonce, hciphertext, htag⟩ :=
    encryptor.encrypt_eq_ok h
  refine encryptor.decrypt_eq_ok_iff.mpr
    ⟨hkey, nonce, ciphertext, stream, hnonce, hciphertext, htag, ?_, xorBytes_xorBytes hxor⟩
  rw [length_xorBytes hxor, hstream]

/-- Two encryptors with the same digest, secret and key id. -/
theorem eq_of_same {other : HmacEnvelopeEncryptor} (hhmac : other.hmac = encryptor.hmac)
    (hsecret : other.secret = encryptor.secret) (hkey : other.keyId = encryptor.keyId) :
    other = encryptor := by
  cases other
  cases encryptor
  cases hhmac
  cases hsecret
  cases hkey
  rfl

/-- `encrypt` returns an envelope exactly for a payload and a key id that are not empty, and
raises on its empty field otherwise. An encryptor with the same secret and key id then decrypts
the envelope to the payload. -/
theorem envelope_roundTrip (hdigest : encryptor.Digests32) {nonce payload : List Byte}
    (hnonce : nonce.length = 16) (hsize : payload.length < 2 ^ 37) :
    ((∃ envelope, encryptor.encrypt nonce payload = .ok envelope) ↔
        payload ≠ [] ∧ encryptor.keyId ≠ "") ∧
      (payload = [] ∨ encryptor.keyId = "" →
        ∃ field, encryptor.encrypt nonce payload = .error (.validationError field)) ∧
      ∀ envelope, encryptor.encrypt nonce payload = .ok envelope →
        ∀ other : HmacEnvelopeEncryptor, other.hmac = encryptor.hmac →
          other.secret = encryptor.secret → other.keyId = encryptor.keyId →
            other.decrypt envelope = .ok payload := by
  have hne : nonce ≠ [] := by
    rintro rfl
    cases hnonce
  have herror : payload = [] ∨ encryptor.keyId = "" →
      ∃ field, encryptor.encrypt nonce payload = .error (.validationError field) :=
    encrypt_error hdigest hne hsize.le
  refine ⟨⟨?_, ?_⟩, herror, ?_⟩
  · rintro ⟨envelope, henvelope⟩
    by_contra hempty
    obtain ⟨field, hfield⟩ := herror (by simpa only [not_and_or, not_not, ne_eq] using hempty)
    rw [henvelope] at hfield
    cases hfield
  · rintro ⟨hpayload, hkey⟩
    exact encrypt_ok hdigest hne hsize.le hpayload hkey
  · intro envelope henvelope other hhmac hsecret hkey
    rw [eq_of_same hhmac hsecret hkey]
    exact decrypt_of_encrypt henvelope

section Letter

/-- The digests of the card and of the nonce alone. -/
def letterDigests : List (List Byte × List Byte) := cardDigests ++ [
  (cardNonce,
    [138, 56, 219, 72, 0, 204, 210, 1, 32, 180, 25, 10, 180, 243, 129, 83, 198, 62, 174, 255, 12,
      203, 75, 232, 111, 249, 58, 47, 202, 195, 233, 98])]

def letterDigest (message : List Byte) : List Byte :=
  (letterDigests.lookup message).getD (List.replicate 32 0)

theorem letterDigest_length (message : List Byte) : (letterDigest message).length = 32 := by
  unfold letterDigest
  cases hlookup : letterDigests.lookup message with
  | none => rfl
  | some digest =>
    have hall : ∀ entry ∈ letterDigests, entry.2.length = 32 := by decide
    obtain ⟨before, after, hentries, -⟩ := List.lookup_eq_some_iff.mp hlookup
    refine hall (message, digest) ?_
    rw [hentries]
    exact List.mem_append_right before List.mem_cons_self

theorem envelopeSecret_length : 16 ≤ envelopeSecret.length := by decide

/-- An encryptor under the secret of the card. -/
def letterEncryptor (keyId : String) : HmacEnvelopeEncryptor where
  hmac := {
    digest := fun _ => letterDigest
    digest_ne_nil := by
      intro _ message
      rw [← List.length_pos_iff, letterDigest_length]
      decide }
  secret := envelopeSecret
  secret_length := envelopeSecret_length
  keyId := keyId

theorem letter_digests32 (keyId : String) : (letterEncryptor keyId).Digests32 :=
  letterDigest_length

/-- The payload of the card is sealed and opened. -/
theorem envelope_roundTrip_letter :
    ∃ envelope, (letterEncryptor "local-test-key").encrypt cardNonce cardPayload = .ok envelope ∧
      (letterEncryptor "local-test-key").decrypt envelope = .ok cardPayload := by
  have hnonce : cardNonce.length = 16 := by decide
  have hsize : cardPayload.length < 2 ^ 37 := by decide
  obtain ⟨hreturns, -, hopens⟩ :=
    envelope_roundTrip (letter_digests32 "local-test-key") hnonce hsize
  obtain ⟨envelope, henvelope⟩ := hreturns.mpr ⟨by decide, by decide⟩
  exact ⟨envelope, henvelope, hopens envelope henvelope _ rfl rfl rfl⟩

/-- The empty payload is not sealed, and nothing is under an empty key id. -/
theorem encrypt_empty :
    (letterEncryptor "local-test-key").encrypt cardNonce [] =
        .error (.validationError "ciphertext") ∧
      (letterEncryptor "").encrypt cardNonce cardPayload = .error (.validationError "key_id") := by
  constructor
  · have hstream : (letterEncryptor "local-test-key").stream cardNonce 0 = .ok [] := by
      rw [stream, streamFrom]
      rfl
    have hxor : xorBytes [] [] = .ok [] := rfl
    rw [encrypt_of_ciphertext hstream hxor]
    rfl
  · have hstream : (letterEncryptor "").stream cardNonce cardPayload.length =
        .ok [56, 241, 218, 204] := by
      rw [(letterEncryptor "").stream_of_le (by decide) (by decide)]
      decide
    have hxor : xorBytes cardPayload [56, 241, 218, 204] = .ok cardCiphertext := by decide
    rw [encrypt_of_ciphertext hstream hxor]
    rfl

end Letter

end HmacEnvelopeEncryptor

end VeriPay.Common
