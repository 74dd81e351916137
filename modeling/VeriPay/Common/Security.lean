import VeriPay.Lib.Base64
import VeriPay.Lib.DateTime
import VeriPay.Lib.PyText

/-!
Verification tokens: claims, their HMAC signature, and the checks a presented
token passes. A token is taken apart character by character, so it is a list of
characters here. HMAC-SHA256 and pydantic's JSON text of the claims come from
outside the repository and are parameters.
-/

namespace VeriPay.Common

open Lib Lib.Base64

/-- Bound claims carried by a one-use authorization verification token. -/
structure VerificationTokenClaims where
  sessionId : NonEmptyStr
  transactionId : NonEmptyStr
  deviceId : NonEmptyStr
  nonce : NonEmptyStr
  amountMinor : ℕ
  currency : Str3
  riskTier : NonEmptyStr
  issuedAt : DateTime
  expiresAt : DateTime
  tokenId : NonEmptyStr
  deriving DecidableEq

/-- What the signer calls outside the repository. `dumps` is the sorted JSON
text of the claims' model dump, `loads` the validation of that text. -/
structure TokenCodec where
  hmacSha256 : List Byte → List Byte → List Byte
  dumps : VerificationTokenClaims → List Byte
  loads : List Byte → Py VerificationTokenClaims

/-- Loading dumped claims gives them back, up to how the two timestamps are
written. -/
def TokenCodec.Faithful (codec : TokenCodec) : Prop :=
  ∀ claims loaded, codec.loads (codec.dumps claims) = .ok loaded →
    { loaded with issuedAt := claims.issuedAt, expiresAt := claims.expiresAt } = claims

abbrev Token := List Char

def verificationTokenMinTtlSec : ℕ := 10
def verificationTokenMaxTtlSec : ℕ := 30

/-- `version, encoded_body, signature = token.split(".", 2)`. -/
def splitToken (token : Token) : Py (List Char × List Char × List Char) :=
  match splitOnce '.' token with
  | none => .error (.valueError "not enough values to unpack (expected 3, got 1)")
  | some (version, rest) =>
    match splitOnce '.' rest with
    | none => .error (.valueError "not enough values to unpack (expected 3, got 2)")
    | some (body, signature) => .ok (version, body, signature)

/-- `hmac.compare_digest` on two texts. -/
def compareDigest (a b : List Char) : Py Bool :=
  if a.all (fun c => c.toNat < 128) ∧ b.all (fun c => c.toNat < 128) then .ok (a = b)
  else .error (.typeError "comparing strings with non-ASCII characters is not supported")

/-- Compact HMAC-SHA256 signer for local/test deployments. -/
structure HmacVerificationTokenSigner where
  codec : TokenCodec
  secret : List Byte
  secret_length : 16 ≤ secret.length

namespace HmacVerificationTokenSigner

/-- The constructor's check of the secret. -/
def make (codec : TokenCodec) (secret : List Byte) : Py HmacVerificationTokenSigner :=
  if h : 16 ≤ secret.length then .ok ⟨codec, secret, h⟩
  else .error (.valueError "Verification signing secret must contain at least 16 bytes")

variable (signer : HmacVerificationTokenSigner)

def sign (body : List Byte) : List Char := b64encode (signer.codec.hmacSha256 signer.secret body)

/-- `f"vpt1.{_b64encode(body)}.{self._sign(body)}"`. -/
def tokenOf (body : List Byte) : Token :=
  "vpt1".toList ++ '.' :: (b64encode body ++ '.' :: signer.sign body)

/-- The claims `issue` signs: aware timestamps, and the expiry of this token. -/
def bodyClaims (claims : VerificationTokenClaims) (ttlSeconds : ℤ) :
    Py VerificationTokenClaims := do
  let issuedAt := claims.issuedAt.orUtc
  let expiresAt ← issuedAt.addMicros (ttlSeconds * DateTime.microsPerSecond)
  return { claims with issuedAt, expiresAt }

def issue (claims : VerificationTokenClaims) (ttlSeconds : ℤ) : Py Token :=
  if ¬ (verificationTokenMinTtlSec ≤ ttlSeconds ∧ ttlSeconds ≤ verificationTokenMaxTtlSec) then
    .error (.valueError "Verification token TTL must be between 10 and 30 seconds")
  else do
    let body ← bodyClaims claims ttlSeconds
    return signer.tokenOf (signer.codec.dumps body)

/-- The `try` block of `verify`: the claims behind a well-signed token. -/
def parse (token : Token) : Py VerificationTokenClaims := do
  let (version, encodedBody, signature) ← splitToken token
  if version ≠ "vpt1".toList then
    throw (.valueError "Unsupported verification token version")
  else
    let body ← b64decode encodedBody
    let same ← compareDigest (signer.sign body) signature
    if same then signer.codec.loads body
    else throw (.valueError "Verification token signature is invalid")

def verify (token : Token) (now : DateTime) : Py VerificationTokenClaims :=
  match signer.parse token with
  | .error e =>
    if e.isValueError ∨ e.isTypeError then .error (.valueError "Verification token is invalid")
    else .error e
  | .ok claims => do
    let expired ← claims.expiresAt.le now.orUtc
    if expired then throw (.valueError "Verification token is expired") else return claims

end HmacVerificationTokenSigner

namespace HmacVerificationTokenSigner

variable (signer : HmacVerificationTokenSigner)

theorem sign_ascii (body : List Byte) :
    (signer.sign body).all (fun c => c.toNat < 128) = true :=
  b64encode_ascii _

/-- A body part without a dot, under the tag of a message. -/
def tokenText (encoded : List Char) (message : List Byte) : Token :=
  "vpt1".toList ++ '.' :: (encoded ++ '.' :: signer.sign message)

theorem splitToken_tokenText {encoded : List Char} (hdot : '.' ∉ encoded) (message : List Byte) :
    splitToken (signer.tokenText encoded message) =
      .ok ("vpt1".toList, encoded, signer.sign message) := by
  rw [splitToken, tokenText, splitOnce_append _ _ _ (by decide)]
  simp only
  rw [splitOnce_append _ _ _ hdot]

/-- A text of the message under the tag of the message parses. -/
theorem parse_tokenText {encoded : List Char} (hdot : '.' ∉ encoded) {message : List Byte}
    (hdecode : b64decode encoded = .ok message) :
    signer.parse (signer.tokenText encoded message) = signer.codec.loads message := by
  have hsame : compareDigest (signer.sign message) (signer.sign message) = .ok true := by
    simp [compareDigest, signer.sign_ascii message]
  simp only [parse, signer.splitToken_tokenText hdot, Py.ok_bind, hdecode, hsame, ne_eq,
    not_true_eq_false, if_false, if_true]

theorem splitToken_tokenOf (body : List Byte) :
    splitToken (signer.tokenOf body) = .ok ("vpt1".toList, b64encode body, signer.sign body) :=
  signer.splitToken_tokenText (dot_notMem_b64encode body) body

/-- A token the signer wrote parses to the claims its body loads to. -/
theorem parse_tokenOf (body : List Byte) :
    signer.parse (signer.tokenOf body) = signer.codec.loads body :=
  signer.parse_tokenText (dot_notMem_b64encode body) (b64decode_b64encode body)

theorem issue_eq_ok_iff (claims : VerificationTokenClaims) (ttlSeconds : ℤ) (token : Token) :
    signer.issue claims ttlSeconds = .ok token ↔
      (verificationTokenMinTtlSec ≤ ttlSeconds ∧ ttlSeconds ≤ verificationTokenMaxTtlSec) ∧
        ∃ body, bodyClaims claims ttlSeconds = .ok body ∧
          token = signer.tokenOf (signer.codec.dumps body) := by
  unfold issue
  by_cases httl :
      verificationTokenMinTtlSec ≤ ttlSeconds ∧ ttlSeconds ≤ verificationTokenMaxTtlSec
  · rw [if_neg (not_not_intro httl), Py.bind_eq_ok]
    constructor
    · intro h
      obtain ⟨body, hbody, htoken⟩ := h
      cases htoken
      exact ⟨httl, body, hbody, rfl⟩
    · intro h
      obtain ⟨_, body, hbody, rfl⟩ := h
      exact ⟨body, hbody, rfl⟩
  · rw [if_pos httl]
    constructor
    · intro h
      cases h
    · intro h
      obtain ⟨h, _⟩ := h
      exact absurd h httl

/-- `verify` returns the parsed claims of a token that has not expired. -/
theorem verify_eq_ok_iff (token : Token) (now : DateTime) (claims : VerificationTokenClaims) :
    signer.verify token now = .ok claims ↔
      signer.parse token = .ok claims ∧ claims.expiresAt.le now.orUtc = .ok false := by
  unfold verify
  cases hparse : signer.parse token with
  | error e =>
    simp only [reduceCtorEq, false_and, iff_false]
    split_ifs <;> simp
  | ok parsed =>
    simp only [Py.bind_eq_ok, Except.ok.injEq]
    constructor
    · intro h
      obtain ⟨expired, hle, hreturn⟩ := h
      cases expired with
      | true => cases hreturn
      | false =>
        cases hreturn
        exact ⟨rfl, hle⟩
    · intro h
      obtain ⟨rfl, hle⟩ := h
      exact ⟨false, hle, rfl⟩

/-- A token past its expiry is refused whoever presents it. -/
theorem verify_expired {token : Token} (now : DateTime) {claims : VerificationTokenClaims}
    (hparse : signer.parse token = .ok claims) (hle : claims.expiresAt.le now.orUtc = .ok true) :
    signer.verify token now = .error (.valueError "Verification token is expired") := by
  simp only [verify, hparse, hle, Py.ok_bind, if_true]
  rfl

/-- The claims of an issued token are the signed ones. -/
theorem parse_issue (hfaithful : signer.codec.Faithful) {claims parsed : VerificationTokenClaims}
    {ttlSeconds : ℤ} {token : Token} (hissue : signer.issue claims ttlSeconds = .ok token)
    (hparse : signer.parse token = .ok parsed) :
    { parsed with issuedAt := claims.issuedAt, expiresAt := claims.expiresAt } = claims := by
  obtain ⟨_, body, hbody, rfl⟩ := (signer.issue_eq_ok_iff claims ttlSeconds token).mp hissue
  rw [parse_tokenOf] at hparse
  have hloaded := hfaithful body parsed hparse
  obtain ⟨expiresAt, _, hreturn⟩ := Py.bind_eq_ok.mp hbody
  cases hreturn
  cases parsed
  cases claims
  simp_all

end HmacVerificationTokenSigner

end VeriPay.Common
