import VeriPay.Common.RiskPolicy
import VeriPay.Lib.DateTime
import VeriPay.Lib.Rounding
import VeriPay.Lib.WeightedMean

/-!
External economic, seasonal and geographic context. The signals that are there count alike,
and signals that contradict each other are trusted little.
-/

namespace VeriPay.ExternalContext

open Lib Common

inductive ExternalAvailability
  | available | stale | unavailable
  deriving DecidableEq, Repr

structure ExternalContextRequest where
  transactionId : NonEmptyStr
  region : Option {s : String // 2 ≤ s.length ∧ s.length ≤ 64} := none
  economicRiskScore : Option RiskScore := none
  seasonalRiskScore : Option RiskScore := none
  geographicRiskScore : Option RiskScore := none
  observedAt : Option DateTime := none
  now : Option DateTime := none
  maxAgeSeconds : {n : ℕ // 1 ≤ n} := ⟨900, by omega⟩
  provenance : NonEmptyStr := ⟨"external-context", by decide⟩

structure ExternalContextResponse where
  transactionId : NonEmptyStr
  availability : ExternalAvailability
  normalizedScore : RiskScore
  confidence : ℚ
  reasonCode : String
  provenance : NonEmptyStr
  region : Option {s : String // 2 ≤ s.length ∧ s.length ≤ 64} := none
  observedAt : Option DateTime := none
  deriving DecidableEq

/-- The clock is read where the request names no time. -/
def currentTime (clock : DateTime) (request : ExternalContextRequest) : DateTime :=
  (request.now.getD clock).orUtc

/-- `values`: the signals the request has. -/
def values (request : ExternalContextRequest) : List RiskScore :=
  [request.economicRiskScore, request.seasonalRiskScore,
    request.geographicRiskScore].reduceOption

/-- `round(sum(values) / len(values))`. -/
def meanScore (values : List RiskScore) : ℤ :=
  roundEven ((values.map fun value => (value.val : ℚ)).sum / values.length)

/-- `len(values) > 1 and max(values) - min(values) >= 60`. -/
def Contradictory (values : List RiskScore) : Prop :=
  1 < values.length ∧ ∃ high ∈ values.max?, ∃ low ∈ values.min?, low.val + 60 ≤ high.val

instance (values : List RiskScore) : Decidable (Contradictory values) :=
  inferInstanceAs (Decidable (_ ∧ ∃ high ∈ values.max?, ∃ low ∈ values.min?, _))

def confidence (values : List RiskScore) : ℚ :=
  if Contradictory values then 1 / 10 else min 1 (4 / 10 + values.length * (2 / 10))

/-- Each value with the weight one. -/
def evenly (values : List RiskScore) : List (ℚ × ℚ) := values.map fun value => (value.val, 1)

theorem meanScore_eq (values : List RiskScore) :
    meanScore values = roundEven (weightedMean (evenly values)) := by
  have hsum : weightedSum (evenly values) = (values.map fun value => (value.val : ℚ)).sum := by
    simp [weightedSum, evenly, Function.comp_def]
  have htotal : totalWeight (evenly values) = values.length := by
    simp [totalWeight, evenly, Function.comp_def]
  rw [meanScore, weightedMean, hsum, htotal]

theorem evenly_weight {values : List RiskScore} : ∀ item ∈ evenly values, 0 < item.2 := by
  rw [evenly, List.forall_mem_map]
  exact fun _ _ => one_pos

theorem evenly_ne_nil {values : List RiskScore} (h : values ≠ []) : evenly values ≠ [] :=
  List.map_eq_nil_iff.not.mpr h

theorem le_meanScore {values : List RiskScore} {bound : ℤ} (hsome : values ≠ [])
    (h : ∀ value ∈ values, bound ≤ value.val) : bound ≤ meanScore values := by
  rw [meanScore_eq]
  apply le_roundEven
  apply le_weightedMean (evenly_ne_nil hsome) evenly_weight
  rw [evenly, List.forall_mem_map]
  intro value hvalue
  show (bound : ℚ) ≤ value.val
  exact_mod_cast h value hvalue

theorem meanScore_le {values : List RiskScore} {bound : ℤ} (hsome : values ≠ [])
    (h : ∀ value ∈ values, value.val ≤ bound) : meanScore values ≤ bound := by
  rw [meanScore_eq]
  apply roundEven_le
  apply weightedMean_le (evenly_ne_nil hsome) evenly_weight
  rw [evenly, List.forall_mem_map]
  intro value hvalue
  show (value.val : ℚ) ≤ bound
  exact_mod_cast h value hvalue

@[simp] theorem meanScore_nil : meanScore [] = 0 := by
  simpa [meanScore] using roundEven_intCast 0

/-- The mean of signals on the scale is on the scale. -/
theorem meanScore_bounds (values : List RiskScore) :
    0 ≤ meanScore values ∧ meanScore values ≤ 100 := by
  by_cases hnone : values = []
  · rw [hnone, meanScore_nil]
    exact ⟨le_rfl, by omega⟩
  · constructor
    · exact le_meanScore hnone fun value _ => Int.natCast_nonneg value.val
    · exact meanScore_le hnone fun value _ => by exact_mod_cast value.property

theorem neutral_le : 50 ≤ 100 := by omega

/-- The score where the context says nothing. -/
def neutralScore : RiskScore := ⟨50, neutral_le⟩

/-- The normalized context of a transaction. -/
def evaluateExternalContext (clock : DateTime) (request : ExternalContextRequest) :
    ExternalContextResponse :=
  match request.observedAt.map DateTime.orUtc with
  | none =>
    { transactionId := request.transactionId
      availability := .unavailable
      normalizedScore := neutralScore
      confidence := 0
      reasonCode := "EXTERNAL_CONTEXT_UNAVAILABLE"
      provenance := request.provenance
      region := request.region }
  | some observedAt =>
    if request.maxAgeSeconds.val * DateTime.microsPerSecond <
        (currentTime clock request).instant - observedAt.instant then
      { transactionId := request.transactionId
        availability := .stale
        normalizedScore := neutralScore
        confidence := 1 / 10
        reasonCode := "EXTERNAL_CONTEXT_STALE"
        provenance := request.provenance
        region := request.region
        observedAt := observedAt }
    else if values request = [] then
      { transactionId := request.transactionId
        availability := .unavailable
        normalizedScore := neutralScore
        confidence := 0
        reasonCode := "EXTERNAL_SIGNALS_MISSING"
        provenance := request.provenance
        region := request.region
        observedAt := observedAt }
    else
      { transactionId := request.transactionId
        availability := .available
        normalizedScore :=
          ⟨(meanScore (values request)).toNat,
            Int.toNat_le.mpr (meanScore_bounds (values request)).2⟩
        confidence := confidence (values request)
        reasonCode :=
          if Contradictory (values request) then "EXTERNAL_SIGNALS_CONTRADICTORY"
          else "EXTERNAL_CONTEXT_NORMALIZED"
        provenance := request.provenance
        region := request.region
        observedAt := observedAt }

end VeriPay.ExternalContext
