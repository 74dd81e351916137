import VeriPay.Common.Enums
import VeriPay.Lib.PyError

/-!
Compliance controls: tokenization, strong customer authentication, and the trust in network
and device. Each control gives a finding and the overall outcome goes by a fixed priority.
An unavailable finding comes before a challenge, and the caller may let it not block.
-/

namespace VeriPay.ComplianceEngine

open Lib Common

inductive ComplianceOutcome
  | pass | challenge | reject | unavailable
  deriving DecidableEq, Repr

/-- A pydantic `str` field with `min_length=3, max_length=3`. -/
abbrev Currency := {s : String // s.length = 3}

structure ComplianceRequest where
  transactionId : NonEmptyStr
  amountMinor : ℕ
  currency : Currency
  tokenized : Bool := true
  scaExemption : ScaExemption := .none
  authenticated : Bool := false
  networkTrusted : Option Bool := some true
  deviceTrustState : DeviceTrustState := .unknown
  deviceSignalRequired : Bool := false
  lowValueThresholdMinor : ℕ := 3000
  failClosedOnUnavailable : Bool := true

structure ComplianceFinding where
  standard : ComplianceStandard
  outcome : ComplianceOutcome
  triggered : Bool
  reasonCode : String
  reason : String

structure ComplianceResponse where
  transactionId : NonEmptyStr
  outcome : ComplianceOutcome
  blocking : Bool
  findings : List ComplianceFinding

def tokenizationFinding (request : ComplianceRequest) : ComplianceFinding where
  standard := .pciDss
  outcome := if request.tokenized then .pass else .reject
  triggered := !request.tokenized
  reasonCode := if request.tokenized then "TOKENIZED_INPUT" else "TOKENIZATION_REQUIRED"
  reason :=
    if request.tokenized then "Payment data is represented by a token reference"
    else "Payment references must be tokenized before entering this service"

/-- The customer is authenticated, or exempt up to three times the low-value threshold. -/
def ScaSatisfied (request : ComplianceRequest) : Prop :=
  request.authenticated = true ∨
    request.scaExemption ≠ .none ∧ request.amountMinor ≤ request.lowValueThresholdMinor * 3

instance (request : ComplianceRequest) : Decidable (ScaSatisfied request) :=
  inferInstanceAs (Decidable (_ ∨ _))

def scaFinding (request : ComplianceRequest) : ComplianceFinding :=
  if ScaSatisfied request then
    { standard := .psd3Sca
      outcome := .pass
      triggered := false
      reasonCode := "SCA_SATISFIED"
      reason := "Strong customer authentication or an eligible exemption is present" }
  else if request.lowValueThresholdMinor < request.amountMinor then
    { standard := .psd3Sca
      outcome := .challenge
      triggered := true
      reasonCode := "SCA_REQUIRED"
      reason := "Strong customer authentication is required" }
  else
    { standard := .psd3Sca
      outcome := .pass
      triggered := false
      reasonCode := "SCA_LOW_VALUE"
      reason := "Transaction is below the low-value SCA threshold" }

def networkFinding (request : ComplianceRequest) : ComplianceFinding :=
  match request.networkTrusted with
  | some false =>
    { standard := .networkZeroTrust
      outcome := .reject
      triggered := true
      reasonCode := "NETWORK_UNTRUSTED"
      reason := "Network trust verification failed" }
  | none =>
    { standard := .networkZeroTrust
      outcome := .unavailable
      triggered := true
      reasonCode := "NETWORK_TRUST_UNAVAILABLE"
      reason := "Network trust evidence is unavailable" }
  | some true =>
    { standard := .networkZeroTrust
      outcome := .pass
      triggered := false
      reasonCode := "NETWORK_TRUSTED"
      reason := "Network trust verification passed" }

/-- The device is looked at only where its signal is required. -/
def deviceFindings (request : ComplianceRequest) : List ComplianceFinding :=
  if request.deviceSignalRequired ∧ request.deviceTrustState = .untrusted then
    [{ standard := .networkZeroTrust
       outcome := .challenge
       triggered := true
       reasonCode := "DEVICE_TRUST_REQUIRED"
       reason := "A trusted device is required for this transaction" }]
  else if request.deviceSignalRequired ∧ request.deviceTrustState = .unknown then
    [{ standard := .networkZeroTrust
       outcome := .unavailable
       triggered := true
       reasonCode := "DEVICE_TRUST_UNAVAILABLE"
       reason := "Device trust evidence is unavailable" }]
  else []

def findings (request : ComplianceRequest) : List ComplianceFinding :=
  tokenizationFinding request :: scaFinding request :: networkFinding request ::
    deviceFindings request

/-- The overall outcome and whether it blocks, by priority. -/
def overall (failClosedOnUnavailable : Bool) (outcomes : List ComplianceOutcome) :
    ComplianceOutcome × Bool :=
  if .reject ∈ outcomes then (.reject, true)
  else if .unavailable ∈ outcomes then (.unavailable, failClosedOnUnavailable)
  else if .challenge ∈ outcomes then (.challenge, true)
  else (.pass, false)

def evaluateCompliance (request : ComplianceRequest) : ComplianceResponse :=
  let answer := overall request.failClosedOnUnavailable
    ((findings request).map ComplianceFinding.outcome)
  { transactionId := request.transactionId
    outcome := answer.1
    blocking := answer.2
    findings := findings request }

section Outcomes

theorem overall_blocking_iff {failClosed : Bool} {outcomes : List ComplianceOutcome} :
    (overall failClosed outcomes).2 = true ↔
      .reject ∈ outcomes ∨ .unavailable ∈ outcomes ∧ failClosed = true ∨
        .unavailable ∉ outcomes ∧ .challenge ∈ outcomes := by
  unfold overall
  split_ifs with hreject hunavailable hchallenge
  · simp [hreject]
  · simp [hreject, hunavailable]
  · simp [hreject, hunavailable, hchallenge]
  · simp [hreject, hunavailable, hchallenge]

end Outcomes

end VeriPay.ComplianceEngine
