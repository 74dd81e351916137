import Mathlib.Data.String.Basic

/-!
The canonical enums shared by the services. Each constructor is one member of
the source's `StrEnum`; `value` gives the member's wire text where a modelled
function reads it.
-/

namespace VeriPay.Common

inductive Mti
  | authorizationRequest | authorizationResponse | authorizationReversal
  deriving DecidableEq, Repr

inductive Channel
  | cardPresent | cardNotPresent
  deriving DecidableEq, Repr

inductive GpvOutcome
  | matched | likelyMatch | mismatched
  deriving DecidableEq, Repr

inductive TokenType
  | singleUse | merchantLocked | subscription | dynamicCvv
  deriving DecidableEq, Repr

inductive DcvvStatus
  | matched | mismatch | expired | notApplicable
  deriving DecidableEq, Repr

inductive TokenStatus
  | active | exhausted | revoked
  deriving DecidableEq, Repr

inductive DecisionAction
  | allow | monitor | challenge | review | decline | reverse
  deriving DecidableEq, Repr

inductive RiskTier
  | noRisk | low | moderate | high
  deriving DecidableEq, Repr

inductive RiskBand
  | approve | verify | block
  deriving DecidableEq, Repr

inductive FrictionType
  | none | push | biometric | multiFactor
  deriving DecidableEq, Repr

inductive VerificationWorkflow
  | silentPass | pushApproveDeny | pushBiometric | exactAmountBiometricSwipe
  deriving DecidableEq, Repr

inductive TimeoutFallback
  | standardAudit | autoDecline | autoDeclineAndLock | liveAnalystEscalation
  deriving DecidableEq, Repr

inductive PaymentRail
  | card | iso8583 | fednow | rtp | ach | swift | iso20022 | domesticInstant
  deriving DecidableEq, Repr

inductive ProcessingPath
  | fast | secondary
  deriving DecidableEq, Repr

inductive ExplanationMode
  | async | inBand
  deriving DecidableEq, Repr

inductive VerificationOutcome
  | pending | approved | denied | timedOut | expired | locked | escalated
  deriving DecidableEq, Repr

/-- `feedback_loop`'s labels; `model_monitor`'s `MonitorLabel` has the same members. -/
inductive ReviewLabel
  | confirmedFraud | legitimate | needsReview | falsePositive
  deriving DecidableEq, Repr

inductive DisputeStatus
  | opened | represented | accepted | reversed | expired
  deriving DecidableEq, Repr

inductive DisputeReason
  | fraud | authorization | processingError | consumer | merchant
  deriving DecidableEq, Repr

inductive DevicePlatform
  | ios | android
  deriving DecidableEq, Repr

inductive DeviceTrustState
  | trusted | untrusted | unknown
  deriving DecidableEq, Repr

inductive ComplianceStandard
  | pciDss | psd3Sca | networkZeroTrust
  deriving DecidableEq, Repr

inductive ScaExemption
  | lowValue | trustedBeneficiary | recurring | corporate | none
  deriving DecidableEq, Repr

def DecisionAction.value : DecisionAction → String
  | allow => "ALLOW"
  | monitor => "MONITOR"
  | challenge => "CHALLENGE"
  | review => "REVIEW"
  | decline => "DECLINE"
  | reverse => "REVERSE"

def RiskTier.value : RiskTier → String
  | noRisk => "NO_RISK"
  | low => "LOW"
  | moderate => "MODERATE"
  | high => "HIGH"

def RiskBand.value : RiskBand → String
  | approve => "APPROVE"
  | verify => "VERIFY"
  | block => "BLOCK"

def ReviewLabel.value : ReviewLabel → String
  | confirmedFraud => "CONFIRMED_FRAUD"
  | legitimate => "LEGITIMATE"
  | needsReview => "NEEDS_REVIEW"
  | falsePositive => "FALSE_POSITIVE"

def DisputeStatus.value : DisputeStatus → String
  | opened => "OPENED"
  | represented => "REPRESENTED"
  | accepted => "ACCEPTED"
  | reversed => "REVERSED"
  | expired => "EXPIRED"

end VeriPay.Common
