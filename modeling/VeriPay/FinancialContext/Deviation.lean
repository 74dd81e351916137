import VeriPay.FinancialContext.Service

/-!
The spending deviation as a function of the amount. It grows with the amount, but for one
step down: the balance gives a fixed score, which a steep ramp may have passed already.
-/

namespace VeriPay.FinancialContext

open Lib Common

/-- The observation is there and not too old. -/
def Fresh (clock : DateTime) (request : FinancialContextRequest) : Prop :=
  ∃ observedAt ∈ request.observedAt,
    (currentTime clock request).instant - observedAt.orUtc.instant ≤
      request.maxAgeSeconds.val * DateTime.microsPerSecond

/-- The same request for another amount. -/
def withAmount (request : FinancialContextRequest) (amount : ℕ) : FinancialContextRequest :=
  { request with amountMinor := amount }

/-- The balance covers the smaller amount and not the larger, and the ramp gives the smaller
one more than the balance's fixed score. -/
def RampPassesBalance (request : FinancialContextRequest) (average : ℚ) (smaller larger : ℕ) :
    Prop :=
  ∃ balance ∈ request.availableBalanceMinor,
    smaller ≤ balance ∧ balance < larger ∧ 251 * average < 70 * smaller

section Score

variable {request : FinancialContextRequest} {average : ℚ}

theorem normalizedScore_of_fresh {clock : DateTime} (hfresh : Fresh clock request)
    (haverage : request.averageAmountMinor.map Subtype.val = some average) (hpos : 0 < average) :
    (((evaluateFinancialContext clock request).normalizedScore.val : ℕ) : ℤ) =
      (deviation request average).1 := by
  obtain ⟨observedAt, hobserved, hage⟩ := hfresh
  rw [Option.mem_def] at hobserved
  have hscore : (evaluateFinancialContext clock request).normalizedScore.val =
      (deviation request average).1.toNat := by
    unfold evaluateFinancialContext
    simp only [hobserved, Option.map_some, haverage, Option.getD_some]
    rw [if_neg (not_lt.mpr hage), if_neg hpos.ne']
  rw [hscore, Int.toNat_of_nonneg (deviation_bounds request average).1]

theorem rampScore_mono {first second : ℚ} (h : first ≤ second) :
    rampScore first ≤ rampScore second := by
  refine min_le_min le_rfl (roundEven_mono (max_le_max le_rfl ?_))
  linarith

/-- The ramp passes ninety where it is above ninety and a half. -/
theorem rampScore_le_ninety_iff (ratio : ℚ) : rampScore ratio ≤ 90 ↔ ratio ≤ 251 / 70 := by
  have hround := roundEven_le_iff_of_even (n := 90) (by decide) (max 0 ((ratio - 1) * 35))
  rw [rampScore, min_le_iff, hround]
  constructor
  · rintro (h | h)
    · omega
    · have hramp := (le_max_right _ _).trans h
      push_cast at hramp
      linarith
  · intro h
    refine Or.inr (max_le (by norm_num) ?_)
    push_cast
    linarith

/-- The score alone, without the reason. -/
theorem deviation_score (request : FinancialContextRequest) (average : ℚ) :
    (deviation request average).1 =
      if ExceedsBalance request then 90
      else if ExceedsDailySpend request average then
        max (rampScore (amountRatio request average)) 75
      else rampScore (amountRatio request average) := by
  unfold deviation
  dsimp only
  split_ifs <;> rfl

/-- Within the balance the score grows with the amount. -/
theorem deviation_mono_of_covered {smaller larger : ℕ} (hle : smaller ≤ larger) (hpos : 0 < average)
    (hcovered : ¬ ExceedsBalance (withAmount request larger)) :
    (deviation (withAmount request smaller) average).1 ≤
      (deviation (withAmount request larger) average).1 := by
  have hamount : (smaller : ℚ) ≤ larger := by exact_mod_cast hle
  have hsmaller : ¬ ExceedsBalance (withAmount request smaller) := by
    rintro ⟨balance, hbalance, hexceeds⟩
    exact hcovered ⟨balance, hbalance, lt_of_lt_of_le hexceeds hle⟩
  have hdaily : ExceedsDailySpend (withAmount request smaller) average →
      ExceedsDailySpend (withAmount request larger) average := by
    rintro ⟨dailySpend, hspend, hexceeds⟩
    refine ⟨dailySpend, hspend, hexceeds.trans_le ?_⟩
    exact add_le_add le_rfl hamount
  have hramp : rampScore (amountRatio (withAmount request smaller) average) ≤
      rampScore (amountRatio (withAmount request larger) average) :=
    rampScore_mono (div_le_div_of_nonneg_right hamount hpos.le)
  rw [deviation_score, deviation_score, if_neg hsmaller, if_neg hcovered]
  by_cases hspend : ExceedsDailySpend (withAmount request smaller) average
  · rw [if_pos hspend, if_pos (hdaily hspend)]
    exact max_le_max hramp le_rfl
  · rw [if_neg hspend]
    split_ifs
    · exact le_max_of_le_left hramp
    · exact hramp

/-- Past the balance the score is ninety, which a covered amount passes only on the ramp. -/
theorem deviation_le_ninety_iff {smaller : ℕ} (hpos : 0 < average)
    (hcovered : ¬ ExceedsBalance (withAmount request smaller)) :
    (deviation (withAmount request smaller) average).1 ≤ 90 ↔
      ¬ 251 * average < 70 * smaller := by
  have hratio : amountRatio (withAmount request smaller) average ≤ 251 / 70 ↔
      ¬ 251 * average < 70 * smaller := by
    rw [amountRatio, div_le_iff₀ hpos, not_lt]
    constructor
    · intro h
      have hamount : ((withAmount request smaller).amountMinor : ℚ) = smaller := rfl
      linarith
    · intro h
      have hamount : ((withAmount request smaller).amountMinor : ℚ) = smaller := rfl
      linarith
  rw [← hratio, ← rampScore_le_ninety_iff, deviation_score, if_neg hcovered]
  split_ifs
  · rw [max_le_iff, and_iff_left (by omega)]
  · exact Iff.rfl

end Score

/-- The larger of two amounts never scores lower, but where it alone exceeds the balance and
the ramp gives the smaller one more than ninety. -/
theorem normalizedScore_mono_iff {request : FinancialContextRequest} {first second : DateTime}
    {average : ℚ} {smaller larger : ℕ} (hle : smaller ≤ larger)
    (haverage : request.averageAmountMinor.map Subtype.val = some average) (hpos : 0 < average)
    (hfirst : Fresh first (withAmount request smaller))
    (hsecond : Fresh second (withAmount request larger)) :
    (evaluateFinancialContext first (withAmount request smaller)).normalizedScore.val ≤
        (evaluateFinancialContext second (withAmount request larger)).normalizedScore.val ↔
      ¬ RampPassesBalance request average smaller larger := by
  rw [← Int.ofNat_le]
  have hscore := normalizedScore_of_fresh hfirst haverage hpos
  have hscore' := normalizedScore_of_fresh hsecond haverage hpos
  rw [hscore, hscore']
  by_cases hlarger : ExceedsBalance (withAmount request larger)
  · by_cases hsmaller : ExceedsBalance (withAmount request smaller)
    · rw [deviation_score, deviation_score, if_pos hsmaller, if_pos hlarger]
      refine iff_of_true le_rfl ?_
      rintro ⟨balance, hbalance, hcovers, -⟩
      obtain ⟨other, hother, hexceeds⟩ := hsmaller
      cases hbalance.symm.trans hother
      exact absurd hexceeds (not_lt.mpr hcovers)
    · have hninety : (deviation (withAmount request larger) average).1 = 90 := by
        rw [deviation_score, if_pos hlarger]
      rw [hninety, deviation_le_ninety_iff hpos hsmaller, not_iff_not]
      constructor
      · intro hsteep
        obtain ⟨balance, hbalance, hexceeds⟩ := hlarger
        refine ⟨balance, hbalance, ?_, hexceeds, hsteep⟩
        by_contra hover
        exact hsmaller ⟨balance, hbalance, not_le.mp hover⟩
      · rintro ⟨-, -, -, -, hsteep⟩
        exact hsteep
  · refine iff_of_true (deviation_mono_of_covered hle hpos hlarger) ?_
    rintro ⟨balance, hbalance, -, hexceeds, -⟩
    exact hlarger ⟨balance, hbalance, hexceeds⟩

theorem hundred_nonneg : (0 : ℚ) ≤ 100 := by norm_num

/-- A payment of a customer who spends a hundred on average and has five hundred. -/
def averageHundred : FinancialContextRequest where
  transactionId := ⟨"tx-hundred", by decide⟩
  amountMinor := 100
  averageAmountMinor := some ⟨100, hundred_nonneg⟩
  availableBalanceMinor := some 500
  observedAt := some (.atHour true 739706 12)
  now := some (.atHour true 739706 12)

theorem averageHundred_average :
    averageHundred.averageAmountMinor.map Subtype.val = some (100 : ℚ) := rfl

theorem averageHundred_fresh (clock : DateTime) (amount : ℕ) :
    Fresh clock (withAmount averageHundred amount) := by
  refine ⟨_, rfl, ?_⟩
  have hnow : currentTime clock (withAmount averageHundred amount) =
      (DateTime.atHour true 739706 12).orUtc := rfl
  have hage : (withAmount averageHundred amount).maxAgeSeconds.val = 300 := rfl
  rw [hnow, sub_self, hage]
  decide

/-- Three times the average does not score above six times it. -/
theorem normalizedScore_threefold :
    (evaluateFinancialContext .minValue (withAmount averageHundred 300)).normalizedScore.val ≤
      (evaluateFinancialContext .minValue (withAmount averageHundred 600)).normalizedScore.val := by
  refine (normalizedScore_mono_iff (by omega) averageHundred_average (by norm_num)
    (averageHundred_fresh _ _) (averageHundred_fresh _ _)).mpr ?_
  rintro ⟨-, -, -, -, hsteep⟩
  norm_num at hsteep

/-- The whole balance scores a hundred and one unit more scores ninety. -/
theorem normalizedScore_falls :
    Fresh .minValue (withAmount averageHundred 500) ∧
      Fresh .minValue (withAmount averageHundred 501) ∧
      (evaluateFinancialContext .minValue (withAmount averageHundred 500)).normalizedScore.val =
        100 ∧
      (evaluateFinancialContext .minValue (withAmount averageHundred 501)).normalizedScore.val =
        90 := by
  have hscore := fun amount => normalizedScore_of_fresh
    (averageHundred_fresh .minValue amount) averageHundred_average (by norm_num)
  have hramp : rampScore 5 = 100 := by
    have hround : max 0 (((5 : ℚ) - 1) * 35) = ((140 : ℤ) : ℚ) := by norm_num
    rw [rampScore, hround, roundEven_intCast]
    rfl
  have hcovered : ¬ ExceedsBalance (withAmount averageHundred 500) := by decide
  have hexceeds : ExceedsBalance (withAmount averageHundred 501) := by decide
  have hdaily : ¬ ExceedsDailySpend (withAmount averageHundred 500) 100 := by
    rintro ⟨_, h, -⟩
    cases h
  have hratio : amountRatio (withAmount averageHundred 500) 100 = 5 := by
    norm_num [amountRatio, withAmount]
  have hwhole := hscore 500
  have hmore := hscore 501
  rw [deviation_score, if_neg hcovered, if_neg hdaily, hratio, hramp] at hwhole
  rw [deviation_score, if_pos hexceeds] at hmore
  exact ⟨averageHundred_fresh _ _, averageHundred_fresh _ _, by exact_mod_cast hwhole,
    by exact_mod_cast hmore⟩

end VeriPay.FinancialContext
