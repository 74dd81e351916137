import VeriPay.Common.Security

/-!
The lifetime of a verification token. What `verify` answers on a token of `issue` are the
claims it was issued for, until the time to live is over. That the signed text of these
claims can be read back is an assumption.
-/

namespace VeriPay.Common

open Lib Lib.Base64

/-- The same fields, and aware timestamps of the same instants. -/
structure VerificationTokenClaims.Denotes (loaded claims : VerificationTokenClaims) : Prop where
  fields : { loaded with issuedAt := claims.issuedAt, expiresAt := claims.expiresAt } = claims
  issuedAt_aware : loaded.issuedAt.isAware = true
  issuedAt_instant : loaded.issuedAt.instant = claims.issuedAt.instant
  expiresAt_aware : loaded.expiresAt.isAware = true
  expiresAt_instant : loaded.expiresAt.instant = claims.expiresAt.instant

/-- What is dumped for the claims is read back as these claims. -/
def TokenCodec.ReadsBack (codec : TokenCodec) (claims : VerificationTokenClaims) : Prop :=
  ∃ loaded, codec.loads (codec.dumps claims) = .ok loaded ∧ loaded.Denotes claims

/-- Only the instant of a naive time of issue matters. -/
theorem VerificationTokenClaims.Denotes.of_orUtc {loaded claims : VerificationTokenClaims}
    (h : loaded.Denotes { claims with issuedAt := claims.issuedAt.orUtc }) :
    loaded.Denotes claims where
  fields := congrArg (fun signed => { signed with issuedAt := claims.issuedAt }) h.fields
  issuedAt_aware := h.issuedAt_aware
  issuedAt_instant := h.issuedAt_instant
  expiresAt_aware := h.expiresAt_aware
  expiresAt_instant := h.expiresAt_instant

namespace HmacVerificationTokenSigner

variable (signer : HmacVerificationTokenSigner) {claims : VerificationTokenClaims}
  {ttlSeconds : ℤ} {expiresAt : DateTime}

theorem bodyClaims_ok
    (hexpires : claims.issuedAt.orUtc.addMicros (ttlSeconds * DateTime.microsPerSecond) =
      .ok expiresAt) :
    bodyClaims claims ttlSeconds =
      .ok { claims with issuedAt := claims.issuedAt.orUtc, expiresAt } := by
  unfold bodyClaims
  dsimp only
  rw [hexpires]
  rfl

/-- `issue` raises exactly for a time to live out of its bounds. -/
theorem issue_error_iff
    (hexpires : claims.issuedAt.orUtc.addMicros (ttlSeconds * DateTime.microsPerSecond) =
      .ok expiresAt) :
    (∃ e, signer.issue claims ttlSeconds = .error e) ↔ ¬ (10 ≤ ttlSeconds ∧ ttlSeconds ≤ 30) := by
  show (∃ e, ite (¬ (10 ≤ ttlSeconds ∧ ttlSeconds ≤ 30)) _ _ = Except.error e) ↔ _
  rw [bodyClaims_ok hexpires]
  constructor
  · rintro ⟨e, herror⟩ httl
    rw [if_neg (not_not_intro httl)] at herror
    cases herror
  · intro httl
    rw [if_pos httl]
    exact ⟨_, rfl⟩

/-- What a token of `issue` parses to. -/
theorem parse_issued {token : Token} (hissue : signer.issue claims ttlSeconds = .ok token)
    (hexpires : claims.issuedAt.orUtc.addMicros (ttlSeconds * DateTime.microsPerSecond) =
      .ok expiresAt)
    (hcodec : signer.codec.ReadsBack
      { claims with issuedAt := claims.issuedAt.orUtc, expiresAt }) :
    ∃ returned, signer.parse token = .ok returned ∧ returned.Denotes { claims with expiresAt } := by
  obtain ⟨-, body, hbody, rfl⟩ := (signer.issue_eq_ok_iff claims ttlSeconds token).mp hissue
  rw [bodyClaims_ok hexpires] at hbody
  cases hbody
  obtain ⟨loaded, hloads, hdenotes⟩ := hcodec
  exact ⟨loaded, (signer.parse_tokenOf _).trans hloads, hdenotes.of_orUtc⟩

/-- A token is good before an aware expiry and refused from it on. -/
theorem verify_of_parse {token : Token} {returned : VerificationTokenClaims}
    (hparse : signer.parse token = .ok returned) (haware : returned.expiresAt.isAware = true)
    (now : DateTime) :
    signer.verify token now =
      if now.orUtc.instant < returned.expiresAt.instant then .ok returned
      else .error (.valueError "Verification token is expired") := by
  have hle : returned.expiresAt.le now.orUtc =
      .ok (returned.expiresAt.instant ≤ now.orUtc.instant) := DateTime.le_ok haware
  split_ifs with hlive
  · refine (signer.verify_eq_ok_iff token now returned).mpr ⟨hparse, ?_⟩
    rw [hle, decide_eq_false (not_le.mpr hlive)]
  · refine signer.verify_expired now hparse ?_
    rw [hle, decide_eq_true (not_lt.mp hlive)]

/-- `issue` takes a time to live from ten to thirty seconds. Its token is good for the claims it
was issued for before the end of this time, and from then on refused with a `ValueError`. -/
theorem token_lifetime (claims : VerificationTokenClaims) (ttlSeconds : ℤ) {expiresAt : DateTime}
    (hexpires : claims.issuedAt.orUtc.addMicros (ttlSeconds * DateTime.microsPerSecond) =
      .ok expiresAt)
    (hcodec : signer.codec.ReadsBack
      { claims with issuedAt := claims.issuedAt.orUtc, expiresAt }) :
    expiresAt.instant =
        claims.issuedAt.orUtc.instant + ttlSeconds * DateTime.microsPerSecond ∧
      ((∃ e, signer.issue claims ttlSeconds = .error e) ↔
        ¬ (10 ≤ ttlSeconds ∧ ttlSeconds ≤ 30)) ∧
      ∀ token, signer.issue claims ttlSeconds = .ok token → ∀ now : DateTime,
        ((∃ returned, signer.verify token now = .ok returned ∧
            returned.Denotes { claims with expiresAt }) ↔
          now.orUtc.instant < expiresAt.instant) ∧
        (¬ now.orUtc.instant < expiresAt.instant →
          ∃ message, signer.verify token now = .error (.valueError message)) := by
  refine ⟨?_, signer.issue_error_iff hexpires, ?_⟩
  · have hcalendar := DateTime.inCalendar_of_addMicros_ok hexpires
    rw [DateTime.addMicros_ok hcalendar] at hexpires
    cases hexpires
    simp only [DateTime.instant]
    omega
  · intro token hissue now
    obtain ⟨returned, hparse, hreturned⟩ := signer.parse_issued hissue hexpires hcodec
    have hverify := signer.verify_of_parse hparse hreturned.expiresAt_aware now
    rw [hreturned.expiresAt_instant] at hverify
    refine ⟨⟨?_, ?_⟩, ?_⟩
    · rintro ⟨other, hother, -⟩
      by_contra hlate
      rw [hverify, if_neg hlate] at hother
      cases hother
    · intro hlive
      exact ⟨returned, hverify.trans (if_pos hlive), hreturned⟩
    · intro hlate
      exact ⟨_, hverify.trans (if_neg hlate)⟩

section Payment

/-- A payment at noon, by a clock without a timezone. -/
def paymentClaims : VerificationTokenClaims where
  sessionId := ⟨"session_7", by decide⟩
  transactionId := ⟨"purchase_7", by decide⟩
  deviceId := ⟨"phone_7", by decide⟩
  nonce := ⟨"nonce_7", by decide⟩
  amountMinor := 12345
  currency := ⟨"CHF", by decide⟩
  riskTier := ⟨"LOW", by decide⟩
  issuedAt := .atHour false 739857 12
  expiresAt := .atHour false 739857 12
  tokenId := ⟨"token_7", by decide⟩

/-- What is signed for it with half a minute to live. -/
def paymentSigned : VerificationTokenClaims :=
  { paymentClaims with
    issuedAt := (DateTime.atHour false 739857 12).orUtc
    expiresAt := { wall := 63923688030000000, utcOffset := some 0 } }

def paymentText : String :=
  "\x7b\"amount_minor\":12345,\"currency\":\"CHF\",\"device_id\":\"phone_7\"," ++
    "\"expires_at\":\"2026-08-30T12:00:30Z\",\"issued_at\":\"2026-08-30T12:00:00Z\"," ++
    "\"nonce\":\"nonce_7\",\"risk_tier\":\"LOW\",\"session_id\":\"session_7\"," ++
    "\"token_id\":\"token_7\",\"transaction_id\":\"purchase_7\"\x7d"

def paymentBody : List Byte := paymentText.toList.map fun c => Fin.ofNat 256 c.toNat

def paymentSecret : List Byte :=
  [115, 101, 99, 114, 101, 116, 45, 107, 101, 121, 45, 49, 54, 45, 98, 121, 116, 101, 115, 33]

def paymentMac : List Byte :=
  [236, 44, 86, 127, 76, 109, 136, 76, 57, 90, 180, 29, 72, 233, 4, 210, 194, 224, 108, 246, 111,
    201, 11, 13, 221, 17, 85, 234, 67, 7, 200, 24]

/-- The signer of the payment. The codec has the texts of the payment and no others, the
digest is right on its body and a longer text of every other one. -/
def paymentSigner : HmacVerificationTokenSigner where
  codec := {
    hmacSha256 := fun _ body =>
      if body = paymentBody then paymentMac else List.replicate 33 0 ++ body
    dumps := fun claims => if claims = paymentSigned then paymentBody else []
    loads := fun body =>
      if body = paymentBody then .ok paymentSigned else .error (.valueError "Expecting value") }
  secret := paymentSecret
  secret_length := by decide

def paymentToken : Token := paymentSigner.tokenOf paymentBody

theorem paymentClaims_expiry :
    paymentClaims.issuedAt.orUtc.addMicros (30 * DateTime.microsPerSecond) =
      .ok paymentSigned.expiresAt := by decide

theorem payment_loads : paymentSigner.codec.loads paymentBody = .ok paymentSigned := by
  simp [paymentSigner]

theorem payment_readsBack : paymentSigner.codec.ReadsBack paymentSigned := by
  refine ⟨paymentSigned, ?_, rfl, rfl, rfl, rfl, rfl⟩
  simp [paymentSigner]

theorem payment_issue : paymentSigner.issue paymentClaims 30 = .ok paymentToken := by
  rw [issue_eq_ok_iff]
  refine ⟨by decide, paymentSigned, bodyClaims_ok paymentClaims_expiry, ?_⟩
  simp [paymentToken, paymentSigner]

/-- The token of the payment is good for half a minute. -/
theorem token_lifetime_payment :
    (∃ returned, paymentSigner.verify paymentToken
        { wall := 63923688029999999 } = .ok returned ∧
          returned.Denotes { paymentClaims with expiresAt := paymentSigned.expiresAt }) ∧
      ∃ message, paymentSigner.verify paymentToken { wall := 63923688030000000 } =
        .error (.valueError message) := by
  obtain ⟨-, -, hverify⟩ :=
    paymentSigner.token_lifetime paymentClaims 30 paymentClaims_expiry payment_readsBack
  have htoken := hverify paymentToken payment_issue
  exact ⟨(htoken _).1.mpr (by decide), (htoken _).2 (by decide)⟩

end Payment

end HmacVerificationTokenSigner

end VeriPay.Common
