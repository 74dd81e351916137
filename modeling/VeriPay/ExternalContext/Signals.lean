import VeriPay.ExternalContext.Service
import VeriPay.FinancialContext.Service

/-!
What the external context makes of its signals. The score follows the signals wherever they
come from, one more signal draws it towards itself, and time only takes the answer away.
-/

namespace VeriPay.ExternalContext

open Lib Common

variable {clock clock' : DateTime} {request other : ExternalContextRequest}

section Values

variable {first second : List RiskScore}

theorem meanScore_perm (h : first.Perm second) : meanScore first = meanScore second := by
  have hmean : weightedMean (evenly first) = weightedMean (evenly second) :=
    weightedMean_perm (h.map _)
  rw [meanScore_eq, meanScore_eq, hmean]

theorem meanScore_raised (h : List.Forall₂ (· ≤ ·) first second) :
    meanScore first ≤ meanScore second := by
  rw [meanScore_eq, meanScore_eq]
  apply roundEven_mono
  refine weightedMean_raised ?_ evenly_weight
  rw [evenly, evenly, List.forall₂_map_left_iff, List.forall₂_map_right_iff]
  refine h.imp fun low high hle => ⟨rfl, ?_⟩
  show (low.val : ℚ) ≤ high.val
  exact_mod_cast hle

/-- The least and the greatest of the values, with what makes them so. -/
theorem exists_extremes (hsome : first ≠ []) :
    ∃ low ∈ first.min?, ∃ high ∈ first.max?, low ∈ first ∧ high ∈ first ∧
      ∀ value ∈ first, low.val ≤ value.val ∧ value.val ≤ high.val := by
  obtain ⟨low, hlow⟩ := Option.isSome_iff_exists.mp (List.isSome_min?_iff.mpr hsome)
  obtain ⟨high, hhigh⟩ := Option.isSome_iff_exists.mp (List.isSome_max?_iff.mpr hsome)
  obtain ⟨hlowmem, hleast⟩ := List.min?_eq_some_iff.mp hlow
  obtain ⟨hhighmem, hgreatest⟩ := List.max?_eq_some_iff.mp hhigh
  exact ⟨low, hlow, high, hhigh, hlowmem, hhighmem,
    fun value hvalue => ⟨hleast value hvalue, hgreatest value hvalue⟩⟩

theorem exists_meanScore_between (hsome : first ≠ []) :
    ∃ low ∈ first, ∃ high ∈ first,
      (low.val : ℤ) ≤ meanScore first ∧ meanScore first ≤ high.val := by
  obtain ⟨low, -, high, -, hlow, hhigh, hbounds⟩ := exists_extremes hsome
  refine ⟨low, hlow, high, hhigh, le_meanScore hsome ?_, meanScore_le hsome ?_⟩
  · exact fun value hvalue => by exact_mod_cast (hbounds value hvalue).1
  · exact fun value hvalue => by exact_mod_cast (hbounds value hvalue).2

/-- A signal is on the integers, so that rounding does not carry the mean past it. -/
theorem meanScore_cons_mem (signal : RiskScore) (hsome : first ≠ []) :
    min (signal.val : ℤ) (meanScore first) ≤ meanScore (signal :: first) ∧
      meanScore (signal :: first) ≤ max (signal.val : ℤ) (meanScore first) := by
  have hweight : ∀ item ∈ evenly (signal :: first), 0 < item.2 := evenly_weight
  have hdrawn := weightedMean_cons_mem (evenly_ne_nil hsome) hweight
  have hrounded : roundEven (signal.val : ℚ) = signal.val := by
    exact_mod_cast roundEven_intCast signal.val
  have hmono : Monotone roundEven := fun _ _ => roundEven_mono
  have hlow := hmono hdrawn.1
  have hhigh := hmono hdrawn.2
  rw [hmono.map_min, hrounded] at hlow
  rw [hmono.map_max, hrounded] at hhigh
  rw [meanScore_eq, meanScore_eq]
  exact ⟨hlow, hhigh⟩

/-- Some two of the values are sixty apart. -/
theorem contradictory_iff :
    Contradictory first ↔ ∃ low ∈ first, ∃ high ∈ first, low.val + 60 ≤ high.val := by
  constructor
  · rintro ⟨-, high, hhigh, low, hlow, hapart⟩
    exact ⟨low, List.min?_mem hlow, high, List.max?_mem hhigh, hapart⟩
  · rintro ⟨low, hlow, high, hhigh, hapart⟩
    have hsome : first ≠ [] := List.ne_nil_of_mem hlow
    obtain ⟨least, hleast, greatest, hgreatest, -, -, hbounds⟩ := exists_extremes hsome
    have hbelow : least.val ≤ low.val := (hbounds low hlow).1
    have habove : high.val ≤ greatest.val := (hbounds high hhigh).2
    refine ⟨?_, greatest, hgreatest, least, hleast, by omega⟩
    by_contra hshort
    obtain ⟨value, rfl⟩ : ∃ value, first = [value] := by
      rw [← List.length_eq_one_iff]
      have hpos := List.length_pos_of_ne_nil hsome
      omega
    cases List.mem_singleton.mp hlow
    cases List.mem_singleton.mp hhigh
    omega

theorem contradictory_perm (h : first.Perm second) :
    Contradictory first ↔ Contradictory second := by
  simp only [contradictory_iff, h.mem_iff]

theorem confidence_perm (h : first.Perm second) : confidence first = confidence second := by
  simp only [confidence, contradictory_perm h, h.length_eq]

theorem confidence_eq_tenth_iff : confidence first = 1 / 10 ↔ Contradictory first := by
  rw [confidence]
  split_ifs with hcontradictory
  · exact iff_of_true rfl hcontradictory
  · refine iff_of_false (ne_of_gt (lt_min (by norm_num) ?_)) hcontradictory
    have hcount : (0 : ℚ) ≤ first.length := by positivity
    linarith

end Values

section Answers

/-- The observation is there and not too old. -/
def Fresh (clock : DateTime) (request : ExternalContextRequest) : Prop :=
  ∃ observedAt ∈ request.observedAt,
    (currentTime clock request).instant - observedAt.orUtc.instant ≤
      request.maxAgeSeconds.val * DateTime.microsPerSecond

def Outdated (clock : DateTime) (request : ExternalContextRequest) : Prop :=
  ∃ observedAt ∈ request.observedAt,
    request.maxAgeSeconds.val * DateTime.microsPerSecond <
      (currentTime clock request).instant - observedAt.orUtc.instant

/-- The answer says what the signals say. -/
structure Normalized (request : ExternalContextRequest) (response : ExternalContextResponse) :
    Prop where
  available : response.availability = .available
  score_eq : (response.normalizedScore.val : ℤ) = meanScore (values request)
  confidence_eq : response.confidence = confidence (values request)
  reason_eq : response.reasonCode =
    if Contradictory (values request) then "EXTERNAL_SIGNALS_CONTRADICTORY"
    else "EXTERNAL_CONTEXT_NORMALIZED"

theorem normalized_of_fresh (hfresh : Fresh clock request) (hsome : values request ≠ []) :
    Normalized request (evaluateExternalContext clock request) := by
  obtain ⟨observedAt, hobserved, hage⟩ := hfresh
  rw [Option.mem_def] at hobserved
  unfold evaluateExternalContext
  simp only [hobserved, Option.map_some]
  rw [if_neg (not_lt.mpr hage), if_neg hsome]
  exact ⟨rfl, Int.toNat_of_nonneg (meanScore_bounds _).1, rfl, rfl⟩

theorem stale_of_outdated (houtdated : Outdated clock request) :
    (evaluateExternalContext clock request).availability = .stale ∧
      (evaluateExternalContext clock request).normalizedScore.val = 50 ∧
      (evaluateExternalContext clock request).confidence = 1 / 10 := by
  obtain ⟨observedAt, hobserved, hage⟩ := houtdated
  rw [Option.mem_def] at hobserved
  unfold evaluateExternalContext
  simp only [hobserved, Option.map_some]
  rw [if_pos hage]
  exact ⟨rfl, rfl, rfl⟩

theorem unavailable_of_none (hnone : ¬ Outdated clock request)
    (hsilent : ¬ (Fresh clock request ∧ values request ≠ [])) :
    (evaluateExternalContext clock request).availability = .unavailable ∧
      (evaluateExternalContext clock request).normalizedScore.val = 50 ∧
      (evaluateExternalContext clock request).confidence = 0 := by
  unfold evaluateExternalContext
  cases hobserved : request.observedAt with
  | none => exact ⟨rfl, rfl, rfl⟩
  | some observedAt =>
    have hage := not_lt.mp fun hage => hnone ⟨observedAt, hobserved, hage⟩
    have hempty : values request = [] := by
      by_contra hsome
      exact hsilent ⟨⟨observedAt, hobserved, hage⟩, hsome⟩
    simp only [Option.map_some]
    rw [if_neg (not_lt.mpr hage), if_pos hempty]
    exact ⟨rfl, rfl, rfl⟩

theorem stale_iff : (evaluateExternalContext clock request).availability = .stale ↔
    Outdated clock request := by
  constructor
  · intro hstale
    by_contra hnone
    by_cases hheard : Fresh clock request ∧ values request ≠ []
    · have havailable := (normalized_of_fresh hheard.1 hheard.2).available
      rw [hstale] at havailable
      cases havailable
    · have hunavailable := (unavailable_of_none hnone hheard).1
      rw [hstale] at hunavailable
      cases hunavailable
  · exact fun houtdated => (stale_of_outdated houtdated).1

/-- Without a fresh signal the answer is neutral and hardly trusted. -/
theorem neutral_of_silent (hsilent : ¬ (Fresh clock request ∧ values request ≠ [])) :
    (evaluateExternalContext clock request).availability ≠ .available ∧
      (evaluateExternalContext clock request).normalizedScore.val = 50 ∧
      (evaluateExternalContext clock request).confidence ≤ 1 / 10 := by
  by_cases houtdated : Outdated clock request
  · obtain ⟨hstale, hscore, hconfidence⟩ := stale_of_outdated houtdated
    exact ⟨by rw [hstale]; decide, hscore, hconfidence.le⟩
  · obtain ⟨hunavailable, hscore, hconfidence⟩ := unavailable_of_none houtdated hsilent
    exact ⟨by rw [hunavailable]; decide, hscore, by rw [hconfidence]; norm_num⟩

theorem available_iff : (evaluateExternalContext clock request).availability = .available ↔
    Fresh clock request ∧ values request ≠ [] := by
  constructor
  · intro havailable
    by_contra hsilent
    exact (neutral_of_silent hsilent).1 havailable
  · exact fun hheard => (normalized_of_fresh hheard.1 hheard.2).available

theorem normalized_of_available
    (havailable : (evaluateExternalContext clock request).availability = .available) :
    Normalized request (evaluateExternalContext clock request) := by
  obtain ⟨hfresh, hsome⟩ := available_iff.mp havailable
  exact normalized_of_fresh hfresh hsome

/-- The same request at another time. -/
def atTime (request : ExternalContextRequest) (now : Option DateTime) : ExternalContextRequest :=
  { request with now }

/-- Unless the observation is outdated by then, the answer does not depend on the time. -/
theorem evaluate_atTime {now : Option DateTime} (hfirst : ¬ Outdated clock request)
    (hsecond : ¬ Outdated clock' (atTime request now)) :
    evaluateExternalContext clock' (atTime request now) =
      evaluateExternalContext clock request := by
  unfold evaluateExternalContext
  cases hobserved : request.observedAt with
  | none =>
    simp only [atTime, hobserved]
    rfl
  | some observedAt =>
    have hage := fun hage => hfirst ⟨observedAt, hobserved, hage⟩
    have hage' := fun hage => hsecond ⟨observedAt, hobserved, hage⟩
    simp only [atTime, hobserved, Option.map_some] at hage' ⊢
    rw [if_neg hage, if_neg hage']
    rfl

theorem Outdated.later {now : Option DateTime} (houtdated : Outdated clock request)
    (hlater : (currentTime clock request).instant ≤
      (currentTime clock' (atTime request now)).instant) :
    Outdated clock' (atTime request now) := by
  obtain ⟨observedAt, hobserved, hage⟩ := houtdated
  exact ⟨observedAt, hobserved, hage.trans_le (sub_le_sub_right hlater _)⟩

end Answers

theorem financial_stale_iff {financial : FinancialContext.FinancialContextRequest} :
    (FinancialContext.evaluateFinancialContext clock financial).availability = .stale ↔
      ∃ observedAt ∈ financial.observedAt,
        financial.maxAgeSeconds.val * DateTime.microsPerSecond <
          (FinancialContext.currentTime clock financial).instant - observedAt.orUtc.instant := by
  unfold FinancialContext.evaluateFinancialContext
  cases hobserved : financial.observedAt with
  | none => simp
  | some observedAt =>
    simp only [Option.map_some, Option.mem_some_iff, exists_eq_left']
    by_cases hage : financial.maxAgeSeconds.val * DateTime.microsPerSecond <
        (FinancialContext.currentTime clock financial).instant - observedAt.orUtc.instant
    · rw [if_pos hage]
      exact iff_of_true rfl hage
    · rw [if_neg hage]
      refine iff_of_false ?_ hage
      split_ifs <;> decide

/-- Both context services are asked about one observation. -/
structure SameObservation (request : ExternalContextRequest)
    (financial : FinancialContext.FinancialContextRequest) : Prop where
  observedAt_eq : financial.observedAt = request.observedAt
  now_eq : financial.now = request.now
  maxAge_eq : financial.maxAgeSeconds = request.maxAgeSeconds

/-- What an answer says about its request. -/
structure Weighs (clock : DateTime) (request : ExternalContextRequest) : Prop where
  available_iff : (evaluateExternalContext clock request).availability = .available ↔
    Fresh clock request ∧ values request ≠ []
  neutral : (evaluateExternalContext clock request).availability ≠ .available →
    (evaluateExternalContext clock request).normalizedScore.val = 50 ∧
      (evaluateExternalContext clock request).confidence ≤ 1 / 10
  between : (evaluateExternalContext clock request).availability = .available →
    ∃ low ∈ values request, ∃ high ∈ values request,
      low ≤ (evaluateExternalContext clock request).normalizedScore ∧
        (evaluateExternalContext clock request).normalizedScore ≤ high
  doubted_iff : (evaluateExternalContext clock request).availability = .available →
    ((evaluateExternalContext clock request).confidence = 1 / 10 ↔
      ∃ low ∈ values request, ∃ high ∈ values request, low.val + 60 ≤ high.val)
  ages : ∀ clock' now,
    (currentTime clock request).instant ≤ (currentTime clock' (atTime request now)).instant →
      evaluateExternalContext clock' (atTime request now) =
          evaluateExternalContext clock request ∨
        (evaluateExternalContext clock' (atTime request now)).availability = .stale
  stale_alike : ∀ financial, SameObservation request financial →
    ((FinancialContext.evaluateFinancialContext clock financial).availability = .stale ↔
      (evaluateExternalContext clock request).availability = .stale)

/-- How the answer to one available request goes with that to another. -/
structure FollowsSignals (clock clock' : DateTime) (request other : ExternalContextRequest) :
    Prop where
  perm : (values request).Perm (values other) →
    (evaluateExternalContext clock' other).normalizedScore =
        (evaluateExternalContext clock request).normalizedScore ∧
      (evaluateExternalContext clock' other).confidence =
        (evaluateExternalContext clock request).confidence ∧
      (evaluateExternalContext clock' other).reasonCode =
        (evaluateExternalContext clock request).reasonCode
  raised : List.Forall₂ (· ≤ ·) (values request) (values other) →
    (evaluateExternalContext clock request).normalizedScore ≤
      (evaluateExternalContext clock' other).normalizedScore
  drawn : ∀ signal, (values other).Perm (signal :: values request) →
    min signal (evaluateExternalContext clock request).normalizedScore ≤
        (evaluateExternalContext clock' other).normalizedScore ∧
      (evaluateExternalContext clock' other).normalizedScore ≤
        max signal (evaluateExternalContext clock request).normalizedScore
  doubt_stays : values request ⊆ values other →
    (evaluateExternalContext clock request).confidence = 1 / 10 →
      (evaluateExternalContext clock' other).confidence = 1 / 10

theorem Normalized.doubted_iff {response : ExternalContextResponse}
    (h : Normalized request response) :
    response.confidence = 1 / 10 ↔
      ∃ low ∈ values request, ∃ high ∈ values request, low.val + 60 ≤ high.val := by
  rw [h.confidence_eq, confidence_eq_tenth_iff, contradictory_iff]

theorem followsSignals
    (hrequest : (evaluateExternalContext clock request).availability = .available)
    (hother : (evaluateExternalContext clock' other).availability = .available) :
    FollowsSignals clock clock' request other := by
  have hfirst := normalized_of_available hrequest
  have hsecond := normalized_of_available hother
  have hsome := (available_iff.mp hrequest).2
  constructor
  · intro hperm
    refine ⟨?_, ?_, ?_⟩
    · apply Subtype.ext
      have hmean := meanScore_perm hperm
      rw [← hfirst.score_eq, ← hsecond.score_eq] at hmean
      exact_mod_cast hmean.symm
    · rw [hfirst.confidence_eq, hsecond.confidence_eq, confidence_perm hperm]
    · simp only [hfirst.reason_eq, hsecond.reason_eq, contradictory_perm hperm]
  · intro hraised
    have hmean := meanScore_raised hraised
    rw [← hfirst.score_eq, ← hsecond.score_eq] at hmean
    exact_mod_cast hmean
  · intro signal hperm
    have hdrawn := meanScore_cons_mem signal hsome
    rw [← meanScore_perm hperm, ← hfirst.score_eq, ← hsecond.score_eq] at hdrawn
    rw [min_le_iff, le_max_iff] at hdrawn ⊢
    exact_mod_cast hdrawn
  · intro hsubset hdoubted
    obtain ⟨low, hlow, high, hhigh, hapart⟩ := hfirst.doubted_iff.mp hdoubted
    exact hsecond.doubted_iff.mpr ⟨low, hsubset hlow, high, hsubset hhigh, hapart⟩

/-- The external context over all its requests: what an answer says of its own request, how
it ages, and how the answers to two requests compare. -/
theorem evaluateExternalContext_weighs (clock : DateTime) (request : ExternalContextRequest) :
    Weighs clock request ∧
      ∀ clock' other, (evaluateExternalContext clock request).availability = .available →
        (evaluateExternalContext clock' other).availability = .available →
          FollowsSignals clock clock' request other := by
  refine ⟨?_, fun clock' other => followsSignals⟩
  constructor
  · exact available_iff
  · intro hnot
    exact (neutral_of_silent fun hheard => hnot (available_iff.mpr hheard)).2
  · intro havailable
    obtain ⟨low, hlow, high, hhigh, hbetween⟩ :=
      exists_meanScore_between (available_iff.mp havailable).2
    rw [← (normalized_of_available havailable).score_eq] at hbetween
    exact ⟨low, hlow, high, hhigh, by exact_mod_cast hbetween⟩
  · exact fun havailable => (normalized_of_available havailable).doubted_iff
  · intro clock' now hlater
    by_cases houtdated : Outdated clock' (atTime request now)
    · exact .inr (stale_of_outdated houtdated).1
    · exact .inl (evaluate_atTime (fun hfirst => houtdated (hfirst.later hlater)) houtdated)
  · intro financial hsame
    have htime : FinancialContext.currentTime clock financial = currentTime clock request := by
      rw [FinancialContext.currentTime, currentTime, hsame.now_eq]
    rw [financial_stale_iff, stale_iff, Outdated, htime, hsame.observedAt_eq, hsame.maxAge_eq]

theorem ten_le : 10 ≤ 100 := by omega

theorem ninety_le : 90 ≤ 100 := by omega

/-- The economic and the seasonal signal contradict each other. -/
def twoSignals : ExternalContextRequest where
  transactionId := ⟨"tx-signals", by decide⟩
  economicRiskScore := some ⟨10, ten_le⟩
  seasonalRiskScore := some ⟨90, ninety_le⟩
  observedAt := some (.atHour true 739706 12)
  now := some (.atHour true 739706 12)

def threeSignals : ExternalContextRequest :=
  { twoSignals with geographicRiskScore := some neutralScore }

theorem twoSignals_available :
    (evaluateExternalContext .minValue twoSignals).availability = .available :=
  available_iff.mpr ⟨⟨_, rfl, by decide⟩, by decide⟩

theorem threeSignals_available :
    (evaluateExternalContext .minValue threeSignals).availability = .available :=
  available_iff.mpr ⟨⟨_, rfl, by decide⟩, by decide⟩

/-- A third signal between the two does not settle the contradiction. -/
theorem evaluateExternalContext_weighs_threeSignals :
    (evaluateExternalContext .minValue twoSignals).confidence = 1 / 10 ∧
      (evaluateExternalContext .minValue threeSignals).confidence = 1 / 10 := by
  obtain ⟨hweighs, hfollows⟩ := evaluateExternalContext_weighs .minValue twoSignals
  have hdoubted := (hweighs.doubted_iff twoSignals_available).mpr
    ⟨⟨10, ten_le⟩, by decide, ⟨90, ninety_le⟩, by decide, by decide⟩
  refine ⟨hdoubted, ?_⟩
  have hsubset : values twoSignals ⊆ values threeSignals := by decide
  exact (hfollows _ _ twoSignals_available threeSignals_available).doubt_stays hsubset hdoubted

end VeriPay.ExternalContext
