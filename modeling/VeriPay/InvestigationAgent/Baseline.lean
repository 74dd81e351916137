import VeriPay.InvestigationAgent.Boundary

/-!
Which events reach the provider. An event's time is read from a `datetime` alone, so an event
that gives its time as a text, as JSON does, is kept whatever its age. What time a text states
is a parameter.
-/

namespace VeriPay.InvestigationAgent

open Lib Lib.Payload Common

variable {F : Type}

section Window

variable (texts : Texts F) (parseIso : String → Option DateTime)

/-- The time an event states, as a `datetime` or as a text. -/
def statedTime (event : Record F) : Option DateTime :=
  match timeEntry texts event with
  | some (.leaf (.datetime value)) => some value.orUtc
  | some (.leaf (.str text)) => (parseIso text).map DateTime.orUtc
  | _ => none

/-- The event states a time at or after the cutoff. -/
def isRecent (cutoff : DateTime) (event : Record F) : Bool :=
  match statedTime texts parseIso event with
  | some stated => cutoff.instant ≤ stated.instant
  | none => false

/-- No event that gives its time as a text is older than the cutoff. -/
def TextsRecent (cutoff : DateTime) (history : List (Record F)) : Prop :=
  ∀ event ∈ history, ∀ text, timeEntry texts event = some (.leaf (.str text)) →
    ∀ stated, parseIso text = some stated → cutoff.instant ≤ stated.instant

variable {texts parseIso}

/-- For an event with a time, the window is right exactly unless the time is an old text. -/
theorem inWindow_eq_isRecent_iff {event : Record F} {stated : DateTime}
    (htime : statedTime texts parseIso event = some stated) (cutoff : DateTime) :
    inWindow texts cutoff event = isRecent texts parseIso cutoff event ↔
      ∀ text, timeEntry texts event = some (.leaf (.str text)) →
        cutoff.instant ≤ stated.instant := by
  rw [isRecent, htime, inWindow, eventTime]
  unfold statedTime at htime
  split at htime
  · next value hentry =>
    cases htime
    simp [hentry]
  · next text hentry => simp [hentry]
  · cases htime

theorem filter_inWindow_iff {history : List (Record F)}
    (htimes : ∀ event ∈ history, (statedTime texts parseIso event).isSome) (cutoff : DateTime) :
    history.filter (inWindow texts cutoff) = history.filter (isRecent texts parseIso cutoff) ↔
      TextsRecent texts parseIso cutoff history := by
  have hevent : ∀ event ∈ history,
      (inWindow texts cutoff event = isRecent texts parseIso cutoff event ↔
        ∀ text, timeEntry texts event = some (.leaf (.str text)) →
          ∀ stated, parseIso text = some stated → cutoff.instant ≤ stated.instant) := by
    intro event hmem
    obtain ⟨stated, htime⟩ := Option.isSome_iff_exists.mp (htimes event hmem)
    rw [inWindow_eq_isRecent_iff htime cutoff]
    refine forall₂_congr ?_
    intro text hentry
    simp only [statedTime, hentry, Option.map_eq_some_iff] at htime
    obtain ⟨parsed, hparsed, rfl⟩ := htime
    simp [hparsed]
  constructor
  · intro h event hmem
    refine (hevent event hmem).mp ?_
    have hkept : event ∈ history.filter (inWindow texts cutoff) ↔
        event ∈ history.filter (isRecent texts parseIso cutoff) := by rw [h]
    rw [List.mem_filter, List.mem_filter, and_iff_right hmem, and_iff_right hmem] at hkept
    exact Bool.eq_iff_iff.mpr hkept
  · intro h
    refine List.filter_congr ?_
    intro event hmem
    exact (hevent event hmem).mpr (h event hmem)

end Window

theorem baselineUnavailable_mem_iff (score : RiskScore) (baselineCount : ℕ)
    (macroContext : Record F) :
    "BASELINE_UNAVAILABLE" ∈ reasonCodes score baselineCount macroContext ↔ baselineCount = 0 := by
  unfold reasonCodes
  by_cases hcount : baselineCount = 0
  · simp [hcount]
  · simp only [hcount, if_false, iff_false]
    split_ifs <;> simp

section Provider

variable (lib : RedactorLib F) (parseIso : String → Option DateTime)
  (request : InvestigationRequest F) (redactor : DeterministicPiiRedactor)

/-- The events of the history at or after a cutoff. -/
def recentEvents (cutoff : DateTime) : List (Record F) :=
  request.transactionHistory.filter (isRecent lib.texts parseIso cutoff)

/-- The context with those events for its baseline. -/
def recentContext (cutoff : DateTime) : Context F :=
  { contextOf lib redactor request cutoff with
    baseline30d := recentEvents lib parseIso request cutoff }

variable {lib parseIso request redactor}

/-- A provider that answers is answered with. -/
theorem evaluate_summary {now cutoff : DateTime} (hcutoff : cutoffOf now = .ok cutoff)
    {provider : LocalLlmProvider F} {summary : String}
    (h : provider.explain (contextOf lib redactor request cutoff) = .ok summary) :
    (evaluate lib request redactor provider now).map LlmExplanation.summary = .ok summary := by
  unfold evaluate
  rw [hcutoff, Py.ok_bind]
  dsimp only
  rw [h]
  rfl

theorem evaluate_reasonCodes {now cutoff : DateTime} (hcutoff : cutoffOf now = .ok cutoff)
    {provider : LocalLlmProvider F} {explanation : LlmExplanation}
    (h : evaluate lib request redactor provider now = .ok explanation) :
    explanation.regulatoryReasonCodes =
      reasonCodes request.riskScore (contextOf lib redactor request cutoff).baseline30d.length
        request.macroContext := by
  unfold evaluate at h
  rw [hcutoff, Py.ok_bind] at h
  obtain ⟨⟨summary, modelName, fallback⟩, -, h⟩ := Py.bind_eq_ok.mp h
  cases h
  rfl

variable (lib parseIso request redactor)

/-- The provider is given the events of the last thirty days, and a baseline is missing exactly
where there are none. -/
structure RecentBaseline (now : DateTime) : Prop where
  asked : ∀ cutoff, cutoffOf now = .ok cutoff → ∀ (provider : LocalLlmProvider F) summary,
    provider.explain (recentContext lib parseIso request redactor cutoff) = .ok summary →
      (evaluate lib request redactor provider now).map LlmExplanation.summary = .ok summary
  unavailable : ∀ cutoff, cutoffOf now = .ok cutoff → ∀ (provider : LocalLlmProvider F) explanation,
    evaluate lib request redactor provider now = .ok explanation →
      ("BASELINE_UNAVAILABLE" ∈ explanation.regulatoryReasonCodes ↔
        recentEvents lib parseIso request cutoff = [])

variable {lib parseIso request redactor}

/-- A provider can tell its baselines apart. -/
theorem RecentBaseline.baseline_eq {now cutoff : DateTime}
    (h : RecentBaseline lib parseIso request redactor now) (hcutoff : cutoffOf now = .ok cutoff) :
    (contextOf lib redactor request cutoff).baseline30d =
      recentEvents lib parseIso request cutoff := by
  classical
  let telling : LocalLlmProvider F :=
    { modelName := "telling"
      explain := fun context =>
        .ok (if context.baseline30d = recentEvents lib parseIso request cutoff then "recent"
          else "other") }
  have hrecent : telling.explain (recentContext lib parseIso request redactor cutoff) =
      .ok "recent" := congrArg Except.ok (if_pos rfl)
  have hasked := h.asked cutoff hcutoff telling _ hrecent
  by_contra hother
  have hgiven : telling.explain (contextOf lib redactor request cutoff) = .ok "other" :=
    congrArg Except.ok (if_neg hother)
  rw [evaluate_summary hcutoff hgiven] at hasked
  exact absurd (Except.ok.inj hasked) (by decide)

/-- The provider is given exactly the events of the last thirty days iff no event that gives
its time as a text is older. -/
theorem recentBaseline_iff
    (htimes : ∀ event ∈ request.transactionHistory,
      (statedTime lib.texts parseIso event).isSome) (now : DateTime) :
    RecentBaseline lib parseIso request redactor now ↔
      ∀ cutoff, cutoffOf now = .ok cutoff →
        TextsRecent lib.texts parseIso cutoff request.transactionHistory := by
  constructor
  · intro h cutoff hcutoff
    exact (filter_inWindow_iff htimes cutoff).mp (h.baseline_eq hcutoff)
  · intro h
    have hbaseline : ∀ cutoff, cutoffOf now = .ok cutoff →
        (contextOf lib redactor request cutoff).baseline30d =
          recentEvents lib parseIso request cutoff := by
      intro cutoff hcutoff
      exact (filter_inWindow_iff htimes cutoff).mpr (h cutoff hcutoff)
    constructor
    · intro cutoff hcutoff provider summary hsummary
      refine evaluate_summary hcutoff ?_
      rw [recentContext, ← hbaseline cutoff hcutoff] at hsummary
      exact hsummary
    · intro cutoff hcutoff provider explanation hexplanation
      rw [evaluate_reasonCodes hcutoff hexplanation, baselineUnavailable_mem_iff,
        hbaseline cutoff hcutoff, List.length_eq_zero_iff]

end Provider

/-- An event that gives its time as a text. -/
def textEvent (text : String) : Record Empty :=
  ⟨[("occurred_at", .leaf (.str text))],
    .map _ (List.nodup_singleton _) (by simp [WellKeyed.leaf])⟩

/-- The one text of the events below, and the day it names. -/
def parseNewYear (text : String) : Option DateTime :=
  if text = "2020-01-01T00:00:00+00:00" then some (.atHour true 737424 0) else none

def textRequest : InvestigationRequest Empty where
  transactionId := ⟨"tx_old_history", by decide⟩
  transaction := emptyRecord
  transactionHistory := [textEvent "2020-01-01T00:00:00+00:00"]
  riskScore := ⟨23, by decide⟩
  macroContext := emptyRecord

theorem textRequest_times : ∀ event ∈ textRequest.transactionHistory,
    (statedTime plainTexts parseNewYear event).isSome := by
  intro event hevent
  rw [List.mem_singleton.mp hevent]
  rfl

/-- Three days later the event is recent. -/
theorem recentBaseline_fresh :
    RecentBaseline plainLib parseNewYear textRequest {} (.atHour true 737427 0) := by
  refine (recentBaseline_iff textRequest_times _).mpr ?_
  intro cutoff hcutoff event _ text hentry stated hstated
  unfold parseNewYear at hstated
  split_ifs at hstated
  cases hcutoff
  cases hstated
  decide

/-- Six years later it is still in the baseline, and no baseline is reported missing. -/
theorem baseline_of_old_text :
    cutoffOf newYear = .ok (.atHour true 739586 0) ∧
      recentEvents plainLib parseNewYear textRequest (.atHour true 739586 0) = [] ∧
      (contextOf plainLib {} textRequest (.atHour true 739586 0)).baseline30d =
        textRequest.transactionHistory ∧
      ∃ explanation, evaluate plainLib textRequest {} (deterministicLocalLlmProvider plainTexts)
          newYear = .ok explanation ∧
        "BASELINE_UNAVAILABLE" ∉ explanation.regulatoryReasonCodes := by
  refine ⟨by rfl, by rfl, by rfl, _, rfl, ?_⟩
  decide

end VeriPay.InvestigationAgent
