import Mathlib.Logic.Encodable.Basic
import Mathlib.Data.List.Forall2
import VeriPay.InvestigationAgent.Service

/-!
What the deterministic provider's summary says of values under sensitive keys. Only the
transaction is redacted: the events of the last thirty days are printed as they are, so
two requests get one summary exactly when those events are the same.
-/

namespace VeriPay.InvestigationAgent

open Lib Lib.Payload Common

variable {F : Type}

/-- Two events that differ under sensitive keys only, with one time. -/
structure SameEvent (first second : Record F) : Prop where
  agree : AgreeOutside sensitiveKey first.payload second.payload
  occurredAt_eq : first.get? "occurred_at" = second.get? "occurred_at"
  timestamp_eq : first.get? "timestamp" = second.get? "timestamp"

/-- Two requests that differ under sensitive keys only. -/
structure DifferUnderSensitiveKeys (first second : InvestigationRequest F) : Prop where
  transactionId_eq : first.transactionId = second.transactionId
  transaction_agree :
    AgreeOutside sensitiveKey first.transaction.payload second.transaction.payload
  history_same : List.Forall₂ SameEvent first.transactionHistory second.transactionHistory
  riskScore_eq : first.riskScore = second.riskScore
  macroContext_agree :
    AgreeOutside sensitiveKey first.macroContext.payload second.macroContext.payload
  promptVersion_eq : first.promptVersion = second.promptVersion

theorem SameEvent.inWindow_eq {first second : Record F} (h : SameEvent first second)
    (texts : Texts F) (cutoff : DateTime) :
    inWindow texts cutoff first = inWindow texts cutoff second := by
  have hentry : timeEntry texts first = timeEntry texts second := by
    rw [timeEntry, timeEntry, h.occurredAt_eq, h.timestamp_eq]
  rw [inWindow, inWindow, eventTime, eventTime, hentry]

/-- Lists kept at the same places agree when their kept items do. -/
theorem filter_eq_filter_iff {α : Type} {p : α → Bool} {first second : List α}
    (h : List.Forall₂ (fun a b => p a = p b) first second) :
    first.filter p = second.filter p ↔
      ∀ pair ∈ first.zip second, p pair.1 = true → pair.1 = pair.2 := by
  induction h with
  | nil => simp
  | @cons a b first second hab _ ih =>
    rw [List.zip_cons_cons, List.forall_mem_cons, ← ih, List.filter_cons, List.filter_cons, ← hab]
    cases p a with
    | true => simp
    | false => simp

theorem payload_injective : Function.Injective (Object.payload (S := Scalar F)) := by
  intro first second h
  cases first
  cases second
  cases h
  rfl

/-- The printed list of events shows every event. -/
theorem baselineText_inj {texts : Texts F} (htexts : texts.Faithful)
    {first second : List (Record F)}
    (h : baselineText texts first = baselineText texts second) : first = second := by
  have hrepr : pyRepr texts (.list (first.map Object.payload)) =
      pyRepr texts (.list (second.map Object.payload)) := String.ofList_injective h
  have hlist := pyRepr_injective htexts hrepr
  exact List.map_injective_iff.mpr payload_injective (Payload.list.inj hlist)

theorem deterministicSummary_eq_iff {texts : Texts F} (htexts : texts.Faithful)
    {first second : Context F} (hscore : first.riskScore = second.riskScore)
    (hcontext : first.macroContext.fields.length = second.macroContext.fields.length) :
    deterministicSummary texts first = deterministicSummary texts second ↔
      first.baseline30d = second.baseline30d := by
  unfold deterministicSummary
  rw [hscore, hcontext]
  constructor
  · intro h
    refine baselineText_inj htexts (String.toList_inj.mp ?_)
    have hlist := congrArg String.toList h
    simpa only [String.toList_append, List.append_assoc, List.append_cancel_left_eq,
      List.append_cancel_right_eq] using hlist
  · intro h
    rw [h]

theorem DifferUnderSensitiveKeys.macroContext_length {first second : InvestigationRequest F}
    (h : DifferUnderSensitiveKeys first second) :
    first.macroContext.fields.length = second.macroContext.fields.length := by
  have houtline := h.macroContext_agree.outline_eq
  have hkeys := congrArg List.length (Outline.map.inj houtline)
  rwa [List.length_map, List.length_map] at hkeys

/-- Two such requests get the same summary exactly when the events within the last
thirty days are the same in both. -/
theorem summary_eq_iff (lib : RedactorLib F) (htexts : lib.texts.Faithful)
    (redactor : DeterministicPiiRedactor) {first second : InvestigationRequest F}
    (h : DifferUnderSensitiveKeys first second) (now : DateTime) :
    (evaluate lib first redactor (deterministicLocalLlmProvider lib.texts) now).map
        LlmExplanation.summary =
      (evaluate lib second redactor (deterministicLocalLlmProvider lib.texts) now).map
        LlmExplanation.summary ↔
    ∀ cutoff, cutoffOf now = .ok cutoff →
      ∀ pair ∈ first.transactionHistory.zip second.transactionHistory,
        inWindow lib.texts cutoff pair.1 = true → pair.1 = pair.2 := by
  rw [evaluate_deterministic, evaluate_deterministic]
  cases cutoffOf now with
  | error e => simp [Except.map]
  | ok cutoff =>
    have hfilter := filter_eq_filter_iff
      (h.history_same.imp fun _ _ hsame => hsame.inWindow_eq lib.texts cutoff)
    have hsummary : deterministicSummary lib.texts (contextOf lib redactor first cutoff) =
        deterministicSummary lib.texts (contextOf lib redactor second cutoff) ↔
          (contextOf lib redactor first cutoff).baseline30d =
            (contextOf lib redactor second cutoff).baseline30d :=
      deterministicSummary_eq_iff htexts h.riskScore_eq h.macroContext_length
    simp only [Except.map, Except.ok.injEq, hsummary, forall_eq']
    exact hfilter

section Runs

/-- A `datetime`'s place in an enumeration, written in strokes. -/
def strokes (d : DateTime) : List Char :=
  List.replicate (Encodable.encode (d.wall, d.utcOffset)) '1'

/-- The texts of payloads that hold no numbers with a point and no times. -/
def plainTexts : Texts Empty where
  floatRepr := Empty.elim
  datetimeRepr d := 'd' :: strokes d ++ ['.']
  datetimeStr d := 'd' :: strokes d ++ ['.']
  printable c := 32 ≤ c.toNat
  floatTruthy := Empty.elim

theorem plainTexts_faithful : plainTexts.Faithful where
  float_injective := fun x => x.elim
  float_chars := fun x => x.elim
  float_marked := fun x => x.elim
  datetime_call := fun _ => ⟨_, rfl⟩
  datetime_readable := by
    intro first second rest otherRest _ _ h
    have hstrokes : ∀ d : DateTime, ∀ c ∈ strokes d, (c = '1' : Bool) = true := by
      intro d c hc
      exact decide_eq_true (List.eq_of_mem_replicate hc)
    simp only [plainTexts, List.cons_append, List.append_assoc,
      List.cons.injEq, true_and] at h
    have hinjective : Function.Injective strokes := by
      intro a b hab
      have hcode := congrArg List.length hab
      rw [strokes, strokes, List.length_replicate, List.length_replicate] at hcode
      have hpair := Encodable.encode_injective hcode
      cases a
      cases b
      cases hpair
      rfl
    have hends : ∀ c tail, (∃ after, (c : Char) :: tail = '.' :: after) →
        (c = '1' : Bool) = false := by
      intro c tail hc
      obtain ⟨after, hc⟩ := hc
      cases hc
      rfl
    have hreadable : Readable (fun text => ∃ after, text = '.' :: after) strokes :=
      readable_of_chars _ hinjective hstrokes hends
    obtain ⟨hsame, htail⟩ := hreadable first second _ _ ⟨rest, rfl⟩ ⟨otherRest, rfl⟩ h
    exact ⟨hsame, (List.cons.inj htail).2⟩

def plainLib : RedactorLib Empty where
  texts := plainTexts
  sha256Hex _ := ""

def emptyRecord : Record Empty := ⟨[], .map [] List.nodup_nil (by simp)⟩

/-- An event that names an account and no time. -/
def panEvent (pan : String) : Record Empty :=
  ⟨[("pan", .leaf (.str pan))], .map _ (List.nodup_singleton _) (by simp [WellKeyed.leaf])⟩

def panRequest (pan : String) : InvestigationRequest Empty where
  transactionId := ⟨"p1", by decide⟩
  transaction := emptyRecord
  transactionHistory := [panEvent pan]
  riskScore := ⟨42, by decide⟩
  macroContext := emptyRecord

theorem panEvent_same (first second : String) : SameEvent (panEvent first) (panEvent second) where
  occurredAt_eq := rfl
  timestamp_eq := rfl
  agree := by
    intro address h
    cases address with
    | nil => rfl
    | cons step rest =>
      cases step with
      | index position => rfl
      | key name =>
        have hname : name ≠ "pan" := by
          intro heq
          have hsensitive : sensitiveKey "pan" = true := by decide
          simp [Address.clear_cons, Step.stops, heq, hsensitive] at h
        have hlookup : ∀ pan, (panEvent pan).payload.child? (.key name) = none := by
          intro pan
          simp [panEvent, Object.payload, child?, List.lookup_cons, beq_false_of_ne hname]
        rw [at?_cons, at?_cons, hlookup, hlookup]

theorem panRequest_differ (first second : String) :
    DifferUnderSensitiveKeys (panRequest first) (panRequest second) where
  transactionId_eq := rfl
  transaction_agree := fun _ _ => rfl
  history_same := .cons (panEvent_same first second) .nil
  riskScore_eq := rfl
  macroContext_agree := fun _ _ => rfl
  promptVersion_eq := rfl

/-- The first day of year 2026. -/
def newYear : DateTime := ⟨63902822400000000, some 0⟩

/-- The account number of an event is in the summary. -/
theorem summary_shows_pan :
    DifferUnderSensitiveKeys (panRequest "4111111111111111") (panRequest "4222222222222222") ∧
      (evaluate plainLib (panRequest "4111111111111111") {}
          (deterministicLocalLlmProvider plainTexts) newYear).map LlmExplanation.summary =
        .ok ("Risk score 42/100; 30-day baseline contains [\x7b'pan': '4111111111111111'\x7d] " ++
          "transactions; macro context fields: 0.") ∧
      (evaluate plainLib (panRequest "4222222222222222") {}
          (deterministicLocalLlmProvider plainTexts) newYear).map LlmExplanation.summary ≠
        (evaluate plainLib (panRequest "4111111111111111") {}
          (deterministicLocalLlmProvider plainTexts) newYear).map LlmExplanation.summary :=
  ⟨panRequest_differ _ _, by decide, by decide⟩

/-- The equivalence on a pair of requests whose events differ. -/
theorem summary_eq_iff_pan :
    (evaluate plainLib (panRequest "4111") {} (deterministicLocalLlmProvider plainTexts)
        newYear).map LlmExplanation.summary =
      (evaluate plainLib (panRequest "4222") {} (deterministicLocalLlmProvider plainTexts)
        newYear).map LlmExplanation.summary ↔
    ∀ cutoff, cutoffOf newYear = .ok cutoff →
      ∀ pair ∈ (panRequest "4111").transactionHistory.zip (panRequest "4222").transactionHistory,
        inWindow plainTexts cutoff pair.1 = true → pair.1 = pair.2 :=
  summary_eq_iff plainLib plainTexts_faithful {} (panRequest_differ "4111" "4222") newYear

end Runs

end VeriPay.InvestigationAgent
