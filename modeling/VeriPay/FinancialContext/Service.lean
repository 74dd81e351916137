import VeriPay.Common.RiskPolicy
import VeriPay.Lib.DateTime
import VeriPay.Lib.Rounding

/-!
Financial and behavioral context: how far an amount is from the customer's average, as a
score from 0 to 100, and how far the observation behind it can be relied on.
-/

namespace VeriPay.FinancialContext

open Lib Common

inductive ContextAvailability
  | available | stale | unavailable
  deriving DecidableEq, Repr

structure FinancialContextRequest where
  transactionId : NonEmptyStr
  amountMinor : ℕ
  averageAmountMinor : Option {q : ℚ // 0 ≤ q} := none
  availableBalanceMinor : Option ℕ := none
  dailySpendMinor : Option ℕ := none
  accountAgeDays : Option ℕ := none
  observedAt : Option DateTime := none
  now : Option DateTime := none
  maxAgeSeconds : {n : ℕ // 1 ≤ n} := ⟨300, by omega⟩

structure FinancialContextResponse where
  transactionId : NonEmptyStr
  availability : ContextAvailability
  normalizedScore : RiskScore
  deviationRatio : Option ℚ := none
  confidence : ℚ
  reasonCode : String
  provenance : String := "financial-context"
  observedAt : Option DateTime := none

/-- `_now`: the clock is read where the request names no time. -/
def currentTime (clock : DateTime) (request : FinancialContextRequest) : DateTime :=
  (request.now.getD clock).orUtc

/-- The amount as a multiple of the average. -/
def amountRatio (request : FinancialContextRequest) (average : ℚ) : ℚ :=
  request.amountMinor / average

/-- `min(100, round(max(0, (ratio - 1) * 35)))`. -/
def rampScore (ratio : ℚ) : ℤ := min 100 (roundEven (max 0 ((ratio - 1) * 35)))

def ExceedsBalance (request : FinancialContextRequest) : Prop :=
  ∃ balance ∈ request.availableBalanceMinor, balance < request.amountMinor

instance (request : FinancialContextRequest) : Decidable (ExceedsBalance request) :=
  inferInstanceAs (Decidable (∃ balance ∈ request.availableBalanceMinor, _))

def ExceedsDailySpend (request : FinancialContextRequest) (average : ℚ) : Prop :=
  ∃ dailySpend ∈ request.dailySpendMinor, average * 5 < dailySpend + request.amountMinor

instance (request : FinancialContextRequest) (average : ℚ) :
    Decidable (ExceedsDailySpend request average) :=
  inferInstanceAs (Decidable (∃ dailySpend ∈ request.dailySpendMinor, _))

/-- The score of a usable baseline and the reason for it. -/
def deviation (request : FinancialContextRequest) (average : ℚ) : ℤ × String :=
  let ratio := amountRatio request average
  if ExceedsBalance request then (90, "AMOUNT_EXCEEDS_AVAILABLE_BALANCE")
  else if ExceedsDailySpend request average then (max (rampScore ratio) 75, "DAILY_SPEND_DEVIATION")
  else if 1 < ratio then (rampScore ratio, "AMOUNT_ABOVE_BASELINE")
  else (rampScore ratio, "WITHIN_BEHAVIORAL_BASELINE")

theorem rampScore_bounds (ratio : ℚ) : 0 ≤ rampScore ratio ∧ rampScore ratio ≤ 100 := by
  refine ⟨le_min (by omega) (le_roundEven ?_), min_le_left _ _⟩
  rw [Int.cast_zero]
  exact le_max_left _ _

/-- A score passes the response's check. -/
theorem deviation_bounds (request : FinancialContextRequest) (average : ℚ) :
    0 ≤ (deviation request average).1 ∧ (deviation request average).1 ≤ 100 := by
  have hramp := rampScore_bounds (amountRatio request average)
  unfold deviation
  dsimp only
  split_ifs
  · exact ⟨by omega, by omega⟩
  · exact ⟨le_max_of_le_left hramp.1, max_le hramp.2 (by omega)⟩
  · exact hramp
  · exact hramp

/-- A bounded behavioral deviation. -/
def evaluateFinancialContext (clock : DateTime) (request : FinancialContextRequest) :
    FinancialContextResponse :=
  match request.observedAt.map DateTime.orUtc with
  | none =>
    { transactionId := request.transactionId
      availability := .unavailable
      normalizedScore := ⟨50, by omega⟩
      confidence := 0
      reasonCode := "BASELINE_UNAVAILABLE" }
  | some observedAt =>
    if request.maxAgeSeconds.val * DateTime.microsPerSecond <
        (currentTime clock request).instant - observedAt.instant then
      { transactionId := request.transactionId
        availability := .stale
        normalizedScore := ⟨50, by omega⟩
        confidence := 1 / 10
        reasonCode := "BASELINE_STALE"
        observedAt := observedAt }
    else
      let average := (request.averageAmountMinor.map Subtype.val).getD 0
      if average = 0 then
        { transactionId := request.transactionId
          availability := .unavailable
          normalizedScore := ⟨50, by omega⟩
          confidence := 0
          reasonCode := "AVERAGE_AMOUNT_UNAVAILABLE"
          observedAt := observedAt }
      else
        { transactionId := request.transactionId
          availability := .available
          normalizedScore :=
            ⟨(deviation request average).1.toNat,
              Int.toNat_le.mpr (deviation_bounds request average).2⟩
          deviationRatio := roundTo 4 (amountRatio request average)
          confidence := if 30 ≤ request.accountAgeDays.getD 30 then 8 / 10 else 55 / 100
          reasonCode := (deviation request average).2
          observedAt := observedAt }

end VeriPay.FinancialContext
