import Mathlib.Data.Bool.AllAny
import Mathlib.Data.Set.Insert
import VeriPay.Lib.CanonicalBase64
import VeriPay.Common.TokenLifetime

/-!
The text of a token. Bytes come back from their stripped base64 text, but not only from it:
the signature is compared with the decoded body, so that a token stays valid under every
other text of its body that the non-strict decoder takes.
-/

namespace VeriPay.Common

open Lib Lib.Base64

/-- The text of any bytes decodes to them, and is its encoding without the padding that
`"=" * (-len(value) % 4)` puts back. -/
theorem b64_roundTrip :
    (∀ value, b64decode (b64encode value) = .ok value) ∧ Function.Injective b64encode ∧
      ∀ value, ∃ padding : ℕ, (padding : ℤ) = -((b64encode value).length : ℤ) % 4 ∧
        urlsafeB64encode value = b64encode value ++ List.replicate padding '=' := by
  refine ⟨b64decode_b64encode, ?_, ?_⟩
  · intro first second h
    have hdecode := b64decode_b64encode first
    rw [h, b64decode_b64encode, Except.ok.injEq] at hdecode
    exact hdecode.symm
  · intro value
    refine ⟨(4 - (b64encode value).length % 4) % 4, by omega, ?_⟩
    rw [b64encode_eq_stripped]
    exact urlsafeB64encode_eq value

theorem splitToken_eq_ok {token : Token} {version body signature : List Char}
    (h : splitToken token = .ok (version, body, signature)) :
    token = version ++ '.' :: (body ++ '.' :: signature) := by
  unfold splitToken at h
  cases hfirst : splitOnce '.' token with
  | none =>
    rw [hfirst] at h
    cases h
  | some parts =>
    obtain ⟨head, rest⟩ := parts
    rw [hfirst] at h
    dsimp only at h
    cases hsecond : splitOnce '.' rest with
    | none =>
      rw [hsecond] at h
      cases h
    | some others =>
      obtain ⟨middle, last⟩ := others
      rw [hsecond] at h
      cases h
      rw [eq_append_of_splitOnce hfirst, eq_append_of_splitOnce hsecond]

/-- The part between the first two dots is the text an encoder writes. -/
def BodyCanonical (token : Token) : Prop :=
  ∃ version body signature, splitToken token = .ok (version, body, signature) ∧ Canonical body

namespace HmacVerificationTokenSigner

variable (signer : HmacVerificationTokenSigner)

/-- One run of `issue`. -/
structure Issued where
  claims : VerificationTokenClaims
  ttlSeconds : ℤ
  token : Token
  issued : signer.issue claims ttlSeconds = .ok token

/-- Whoever presents a tag has it from a token issued here. -/
def TagsFrom (runs : Set signer.Issued) (token : Token) : Prop :=
  ∀ version body signature message, splitToken token = .ok (version, body, signature) →
    signature = signer.sign message →
      ∃ run ∈ runs, ∃ version body, splitToken run.token = .ok (version, body, signature)

variable {signer}

/-- A token that parses carries the tag of what its body decodes to. -/
theorem parse_eq_ok {token : Token} {claims : VerificationTokenClaims}
    (h : signer.parse token = .ok claims) :
    ∃ encoded body, splitToken token = .ok ("vpt1".toList, encoded, signer.sign body) ∧
      b64decode encoded = .ok body ∧ signer.codec.loads body = .ok claims := by
  obtain ⟨⟨version, encoded, signature⟩, hsplit, h⟩ := Py.bind_eq_ok.mp h
  dsimp only at h
  split_ifs at h with hversion
  obtain ⟨body, hbody, h⟩ := Py.bind_eq_ok.mp h
  obtain ⟨same, hsame, h⟩ := Py.bind_eq_ok.mp h
  cases same with
  | false => cases h
  | true =>
    unfold compareDigest at hsame
    split_ifs at hsame with hascii
    rw [Except.ok.injEq, decide_eq_true_iff] at hsame
    refine ⟨encoded, body, ?_, hbody, h⟩
    rw [hsplit, not_not.mp hversion, hsame]

/-- The tag of a token determines its body. -/
theorem sign_injective (hinjective : Function.Injective (signer.codec.hmacSha256 signer.secret)) :
    Function.Injective signer.sign := b64_roundTrip.2.1.comp hinjective

theorem issued_token (run : signer.Issued) : ∃ body, run.token = signer.tokenOf body := by
  obtain ⟨-, body, -, htoken⟩ := (signer.issue_eq_ok_iff _ _ _).mp run.issued
  exact ⟨_, htoken⟩

/-- A token that `verify` accepts is, character for character, one that was issued exactly
when its body part is canonical. -/
theorem issued_iff_bodyCanonical
    (hinjective : Function.Injective (signer.codec.hmacSha256 signer.secret))
    (runs : Set signer.Issued) {token : Token} (htags : signer.TagsFrom runs token)
    {now : DateTime} {claims : VerificationTokenClaims}
    (haccepted : signer.verify token now = .ok claims) :
    (∃ run ∈ runs, run.token = token) ↔ BodyCanonical token := by
  obtain ⟨encoded, body, hsplit, hbody, -⟩ :=
    parse_eq_ok ((signer.verify_eq_ok_iff _ _ _).mp haccepted).1
  have hcanonical : BodyCanonical token ↔ encoded = b64encode body := by
    rw [eq_b64encode_iff hbody]
    constructor
    · rintro ⟨version, part, signature, hparts, hpart⟩
      rw [hsplit] at hparts
      cases hparts
      exact hpart
    · intro hpart
      exact ⟨_, _, _, hsplit, hpart⟩
  rw [hcanonical]
  constructor
  · rintro ⟨run, -, rfl⟩
    obtain ⟨message, hmessage⟩ := issued_token run
    rw [hmessage, splitToken_tokenOf, Except.ok.injEq, Prod.mk.injEq, Prod.mk.injEq] at hsplit
    rw [← hsplit.2.1, sign_injective hinjective hsplit.2.2]
  · intro hencoded
    obtain ⟨run, hrun, version, part, hparts⟩ := htags _ _ _ body hsplit rfl
    obtain ⟨message, hmessage⟩ := issued_token run
    rw [hmessage, splitToken_tokenOf, Except.ok.injEq, Prod.mk.injEq, Prod.mk.injEq] at hparts
    refine ⟨run, hrun, ?_⟩
    rw [hmessage, sign_injective hinjective hparts.2.2, splitToken_eq_ok hsplit, hencoded]
    rfl

section Payment

def paymentRun : paymentSigner.Issued where
  claims := paymentClaims
  ttlSeconds := 30
  token := paymentToken
  issued := payment_issue

theorem payment_injective :
    Function.Injective (paymentSigner.codec.hmacSha256 paymentSigner.secret) := by
  have hlong : ∀ body : List Byte, paymentMac ≠ List.replicate 33 0 ++ body := by
    intro body h
    have hlength := congrArg List.length h
    rw [List.length_append, List.length_replicate] at hlength
    exact absurd hlength (by simp only [paymentMac, List.length_cons, List.length_nil]; omega)
  intro first second h
  by_cases hfirst : first = paymentBody
  · by_cases hsecond : second = paymentBody
    · rw [hfirst, hsecond]
    · simp only [paymentSigner, if_pos hfirst, if_neg hsecond] at h
      exact absurd h (hlong second)
  · by_cases hsecond : second = paymentBody
    · simp only [paymentSigner, if_neg hfirst, if_pos hsecond] at h
      exact absurd h.symm (hlong first)
    · simp only [paymentSigner, if_neg hfirst, if_neg hsecond] at h
      exact List.append_cancel_left h

/-- With the signature of the payment, a token has its tag from the payment. -/
theorem tagsFrom_payment {token : Token} {version body : List Char}
    (h : splitToken token = .ok (version, body, paymentSigner.sign paymentBody)) :
    paymentSigner.TagsFrom {paymentRun} token := by
  intro _ _ signature _ hsplit _
  rw [h] at hsplit
  cases hsplit
  exact ⟨paymentRun, rfl, _, _, paymentSigner.splitToken_tokenOf paymentBody⟩

/-- The text of the body, with four characters before it. -/
def shoutedBody : List Char := "!!!!".toList ++ b64encode paymentBody

def shoutedToken : Token := paymentSigner.tokenText shoutedBody paymentBody

theorem dot_notMem_shouted : '.' ∉ shoutedBody := by
  rw [shoutedBody, List.mem_append, not_or]
  exact ⟨by decide, dot_notMem_b64encode _⟩

theorem parse_shouted : paymentSigner.parse shoutedToken = .ok paymentSigned := by
  have hbody : b64decode shoutedBody = .ok paymentBody := by
    rw [shoutedBody, b64decode_skip _ (List.all_iff_forall_prop.mp (by decide))
      (List.all_iff_forall_prop.mp (by decide)) (by decide), b64decode_b64encode]
  rw [shoutedToken, paymentSigner.parse_tokenText dot_notMem_shouted hbody, payment_loads]

/-- The token of the payment itself is issued, and canonical. -/
theorem issued_iff_bodyCanonical_payment :
    (∃ run ∈ ({paymentRun} : Set paymentSigner.Issued), run.token = paymentToken) ↔
      BodyCanonical paymentToken := by
  have hparse : paymentSigner.parse paymentToken = .ok paymentSigned :=
    (paymentSigner.parse_tokenOf paymentBody).trans payment_loads
  exact issued_iff_bodyCanonical payment_injective {paymentRun}
    (tagsFrom_payment (paymentSigner.splitToken_tokenOf paymentBody))
    ((paymentSigner.verify_eq_ok_iff _ paymentClaims.issuedAt _).mpr ⟨hparse, by decide⟩)

/-- A token nobody issued is accepted. -/
theorem shouted_accepted :
    Function.Injective (paymentSigner.codec.hmacSha256 paymentSigner.secret) ∧
      paymentSigner.TagsFrom {paymentRun} shoutedToken ∧
      paymentSigner.verify shoutedToken paymentClaims.issuedAt = .ok paymentSigned ∧
      ¬ ∃ run ∈ ({paymentRun} : Set paymentSigner.Issued), run.token = shoutedToken := by
  refine ⟨payment_injective,
    tagsFrom_payment (paymentSigner.splitToken_tokenText dot_notMem_shouted paymentBody),
    (paymentSigner.verify_eq_ok_iff _ _ _).mpr ⟨parse_shouted, by decide⟩, ?_⟩
  rintro ⟨run, hrun, htoken⟩
  rw [Set.mem_singleton_iff.mp hrun] at htoken
  have hparts := congrArg splitToken htoken
  rw [show paymentRun.token = paymentSigner.tokenOf paymentBody from rfl, shoutedToken,
    paymentSigner.splitToken_tokenOf, paymentSigner.splitToken_tokenText dot_notMem_shouted,
    Except.ok.injEq, Prod.mk.injEq, Prod.mk.injEq] at hparts
  exact absurd (List.self_eq_append_left.mp hparts.2.1) (by decide)

end Payment

end HmacVerificationTokenSigner

end VeriPay.Common
