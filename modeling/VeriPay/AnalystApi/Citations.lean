import VeriPay.Lib.DecimalText
import VeriPay.AnalystApi.Explain

/-!
Which numbers of a case report the check against hallucinations can object to. The
text is taken apart at the words between its numbers; what is left are the adjusted
figures and the texts of the adjustments, which the payload does not carry.
-/

namespace VeriPay.AnalystApi

open Lib Common

/-- Every number of the text that is checked is one that may be cited. -/
def Citable (allowed : List (List Char)) (text : String) : Prop :=
  ∀ token ∈ extractNumbers text, isChecked token = true → matchesAllowed token allowed = true

/-- A text passes exactly when each of its checked numbers matches an allowed one. -/
theorem crosscheck_passes_iff {platform : Platform} {text : String} {payload : JsonObj} {floor : ℤ}
    (h : allowedNumberStrings platform payload ≠ []) :
    (crosscheckNumbers platform text payload floor).2 = false ↔
      ∀ token ∈ extractNumbers text, isChecked token floor = true →
        matchesAllowed token (allowedNumberStrings platform payload) = true := by
  unfold crosscheckNumbers
  dsimp only
  rw [if_neg h, List.any_eq_false]
  refine forall₂_congr ?_
  intro token _
  simp only [Bool.and_eq_true, Bool.not_eq_true', not_and, Bool.not_eq_false]

section Words

variable {allowed : List (List Char)} {before words after : String}

end Words

/-- A figure between 0 and 1 of at most four decimals, as responses carry them. -/
structure IsFigure (x : ℚ) : Prop where
  nonneg : 0 ≤ x
  le_one : x ≤ 1
  rounded : roundTo 4 x = x

/-- Python writes such a figure as one numeral, in the fixed-point format and as its
`repr`, and either reads back as the figure. -/
structure Platform.ReadsBack (platform : Platform) : Prop where
  fixed : ∀ x, IsFigure x → ∃ token, extractNumbers (platform.formatFixed 4 x) = [token] ∧
    tokenValue token = x
  repr : ∀ x, IsFigure x → ∃ token, extractNumbers (platform.formatFloat x) = [token] ∧
    tokenValue token = x

variable {platform : Platform} {allowed : List (List Char)}

/-- A figure of the payload may be cited, however its decimals are written. -/
theorem citable_figure (hreads : platform.ReadsBack) {x : ℚ} (hx : IsFigure x)
    (hallowed : ∀ token ∈ extractNumbers (platform.formatFloat x), token ∈ allowed) :
    Citable allowed (platform.formatFixed 4 x) := by
  obtain ⟨cited, hcited, hvalue⟩ := hreads.fixed x hx
  obtain ⟨carried, hcarried, hsame⟩ := hreads.repr x hx
  rw [hcarried] at hallowed
  intro token htoken _
  rw [hcited, List.mem_singleton] at htoken
  subst htoken
  refine decide_eq_true (Or.inr (List.any_eq_true.mpr ⟨carried, ?_, ?_⟩))
  · exact hallowed carried (List.mem_singleton_self carried)
  · have hbelow : |x| ≤ 10 ^ 16 := by
      rw [abs_of_nonneg hx.nonneg]
      exact hx.le_one.trans (by norm_num)
    rw [floatOf, floatOf, hvalue, hsame, FloatValue.ofRat_of_le hbelow]
    exact FloatValue.isWithin_self tolerance_nonneg

theorem mem_allowedNumberStrings {payload : JsonObj} {x : ℚ} (key : String)
    (h : (key, Json.float x) ∈ payload) :
    ∀ token ∈ extractNumbers (platform.formatFloat x),
      token ∈ allowedNumberStrings platform payload := by
  intro token htoken
  exact List.mem_flatMap.mpr ⟨_, h, htoken⟩

/-- The figures of a score that its payload does not carry may be cited all the same. -/
structure AdjustmentsCitable (platform : Platform) (allowed : List (List Char))
    (fraud anomaly : ℚ) (texts : List String) : Prop where
  fraud : Citable allowed (platform.formatFixed 4 fraud)
  anomaly : Citable allowed (platform.formatFixed 4 anomaly)
  texts : ∀ text ∈ texts, Citable allowed text

/-- The numbers that the customer's verdicts bring into the evidence. -/
def feedbackNumbers (platform : Platform) (settings : Settings) (labels : List String) :
    List String :=
  (if labels.any isConfirmedFraud then [platform.formatFixed 2 settings.heightenedAlertAdd]
    else []) ++
  (if trustBoosted settings.trustBoostWindow labels then
    [toString settings.trustBoostWindow, platform.formatFloat settings.trustBoostFactor] else [])

/-- The number that a drift of the customer brings. -/
def driftNumbers (platform : Platform) (settings : Settings) (driftKind : Option String)
    (confirmedByFeedback : Bool) : List String :=
  if driftKind = some "gradual" ∧ confirmedByFeedback then
    [platform.formatFloat settings.gradualDriftFactor]
  else if driftKind = some "sudden" then [platform.formatFloat settings.suddenDriftFactor]
  else []

end VeriPay.AnalystApi
