import VeriPay.InvestigationAgent.Service
import VeriPay.Lib.JsonText
import VeriPay.Lib.PyText

/-!
The provider that asks a language model: the whole context is redacted once more and
rendered as a prompt. The chat client comes from outside the repository.
-/

namespace VeriPay.InvestigationAgent

open Lib Common

def maxBaselineEvents : ℕ := 20

def systemPrompt : String :=
  "You are the VeriPay fraud investigation copilot. You explain risk " ++
  "decisions to fraud analysts using only the evidence provided to you. You " ++
  "NEVER authorize, block, or alter a payment decision. Write 2-4 concise " ++
  "sentences and end with a 'Key signals' bullet list."

variable {F : Type}

/-- The items of the context `dict`. -/
def Context.fields (context : Context F) : List (String × Payload (Scalar F)) := [
  ("transaction", context.transaction.payload),
  ("baseline_30d", .list (context.baseline30d.map Object.payload)),
  ("risk_score", .leaf (.int context.riskScore.val)),
  ("macro_context", context.macroContext.payload)]

theorem Context.wellKeyed (context : Context F) : (Payload.map context.fields).WellKeyed := by
  refine .map _ ?_ ?_
  · show ["transaction", "baseline_30d", "risk_score", "macro_context"].Nodup
    decide
  · intro field hfield
    simp only [Context.fields, List.mem_cons, List.not_mem_nil, or_false] at hfield
    rcases hfield with rfl | rfl | rfl | rfl
    · exact context.transaction.wellKeyed
    · refine .list _ ?_
      intro item hitem
      obtain ⟨event, _, rfl⟩ := List.mem_map.mp hitem
      exact event.wellKeyed
    · exact .leaf _
    · exact context.macroContext.wellKeyed

def Context.object (context : Context F) : Record F := ⟨context.fields, context.wellKeyed⟩

/-- What the prompt shows of the context. -/
structure PromptParts (F : Type) where
  transaction : Payload (Scalar F)
  baseline : List (Payload (Scalar F))
  macroContext : Payload (Scalar F)
  score : Payload (Scalar F)

/-- The redacted context, taken apart. -/
def promptParts (lib : RedactorLib F) (context : Context F) : PromptParts F :=
  let redacted := (DeterministicPiiRedactor.redact lib {} context.object).payload
  { transaction := (redacted.get? "transaction").getD (.map [])
    baseline :=
      match redacted.get? "baseline_30d" with
      | some (.list baseline) => baseline
      | _ => []
    macroContext := (redacted.get? "macro_context").getD (.map [])
    score := (redacted.get? "risk_score").getD (.leaf (.str "?")) }

/-- The events the prompt shows. -/
def PromptParts.recentEvents (parts : PromptParts F) : List (Payload (Scalar F)) :=
  parts.baseline.take maxBaselineEvents

def renderPrompt (lib : RedactorLib F) (context : Context F) : String :=
  let parts := promptParts lib context
  "\n".intercalate [
    "Risk score: " ++ pyStr lib.texts parts.score ++ "/100",
    "30-day baseline: " ++ toString parts.baseline.length ++ " event(s)",
    "Transaction (redacted): " ++ jsonDumps lib.texts parts.transaction,
    "Recent events (redacted): " ++ jsonDumps lib.texts (.list parts.recentEvents),
    "Macro context (redacted): " ++ jsonDumps lib.texts parts.macroContext]

structure ChatMessage where
  role : String
  content : String

/-- The client's `chat.completions.create`; reading the answer's text may raise. -/
structure ChatClient where
  create : String → List ChatMessage → Py (Py (Option String))

/-- `except (AttributeError, IndexError, TypeError)`. -/
def missingContent : PyErr → Bool
  | .attributeError _ => true
  | .typeError _ => true
  | .other kind => kind = "IndexError"
  | _ => false

def openAiCompatibleLlmProvider (lib : RedactorLib F) (client : ChatClient) (model : String) :
    LocalLlmProvider F where
  modelName := "vllm:" ++ model
  explain context := do
    let completion ← client.create model [
      ⟨"system", systemPrompt⟩,
      ⟨"user", renderPrompt lib context⟩]
    match completion with
    | .error e =>
      if missingContent e then throw (.valueError "LLM response missing text content")
      else throw e
    | .ok content =>
      match content with
      | none => throw (.valueError "LLM returned an empty explanation")
      | some text =>
        if strip text = "" then throw (.valueError "LLM returned an empty explanation")
        else return strip text

/-- The client answers the prompt of the redacted context, and this is left of its text. -/
def Answers (lib : RedactorLib F) (client : ChatClient) (model : String) (context : Context F)
    (summary : String) : Prop :=
  ∃ text, client.create model [⟨"system", systemPrompt⟩, ⟨"user", renderPrompt lib context⟩] =
      .ok (.ok (some text)) ∧ strip text ≠ "" ∧ strip text = summary

section Summaries

variable (lib : RedactorLib F) (client : ChatClient) (model : String)

theorem explain_eq_ok_iff (context : Context F) (summary : String) :
    (openAiCompatibleLlmProvider lib client model).explain context = .ok summary ↔
      Answers lib client model context summary := by
  unfold openAiCompatibleLlmProvider Answers
  dsimp only
  cases client.create model [⟨"system", systemPrompt⟩, ⟨"user", renderPrompt lib context⟩] with
  | error e => exact iff_of_false (fun h => by cases h) (by simp)
  | ok completion =>
    rw [Py.ok_bind]
    cases completion with
    | error e =>
      dsimp only
      split_ifs
      · exact iff_of_false (fun h => by cases h) (by simp)
      · exact iff_of_false (fun h => by cases h) (by simp)
    | ok content =>
      cases content with
      | none => exact iff_of_false (fun h => by cases h) (by simp)
      | some text =>
        dsimp only
        split_ifs with hblank
        · refine iff_of_false (fun h => by cases h) ?_
          rintro ⟨_, hanswer, hleft, -⟩
          cases hanswer
          exact hleft hblank
        · constructor
          · intro h
            exact ⟨text, rfl, hblank, Except.ok.inj h⟩
          · rintro ⟨_, hanswer, -, hsummary⟩
            cases hanswer
            exact congrArg Except.ok hsummary

/-- Whatever the client does an investigation is answered: with what it said to the redacted
prompt, or, where it said nothing, with the deterministic summary, marked as such. -/
theorem evaluate_openAiCompatible (request : InvestigationRequest F)
    (redactor : DeterministicPiiRedactor) {now cutoff : DateTime}
    (hcutoff : cutoffOf now = .ok cutoff) :
    ∃ explanation, evaluate lib request redactor
        (openAiCompatibleLlmProvider lib client model) now = .ok explanation ∧
      let context := contextOf lib redactor request cutoff
      (explanation.fallback = false ∧ explanation.modelName = "vllm:" ++ model ∧
          Answers lib client model context explanation.summary) ∨
        (explanation.fallback = true ∧ explanation.modelName = "local-governed-explainer" ∧
          explanation.summary = deterministicSummary lib.texts context ∧
          ∀ summary, ¬ Answers lib client model context summary) := by
  have hsummary := explain_eq_ok_iff lib client model (contextOf lib redactor request cutoff)
  unfold evaluate
  rw [hcutoff, Py.ok_bind]
  dsimp only
  cases hexplain : (openAiCompatibleLlmProvider lib client model).explain
      (contextOf lib redactor request cutoff) with
  | ok summary =>
    refine ⟨_, rfl, ?_⟩
    exact Or.inl ⟨rfl, rfl, (hsummary summary).mp hexplain⟩
  | error e =>
    refine ⟨_, rfl, ?_⟩
    refine Or.inr ⟨rfl, rfl, rfl, ?_⟩
    intro summary hanswer
    rw [(hsummary summary).mpr hanswer] at hexplain
    cases hexplain

end Summaries

end VeriPay.InvestigationAgent
