import VeriPay.InvestigationAgent.Boundary
import VeriPay.InvestigationAgent.Providers

/-!
The surrogate tokens a prompt shows. The transaction is redacted on its way into the
context and once more with it, an event only with it, so a value they share is shown as
the token of its token in the one and as its token in the other.
-/

namespace VeriPay.InvestigationAgent

open Lib Lib.Payload Common

variable {F : Type} (lib : RedactorLib F)

/-- A redacted `dict` under a key that is not sensitive. -/
theorem get?_redact (redactor : DeterministicPiiRedactor) (record : Record F) (key : String)
    (hkey : sensitiveKey key = false) :
    (redactor.redact lib record).payload.get? key =
      (record.get? key).map (mask sensitiveKey (redactor.tokenize lib)) := by
  have hchild := child?_mask sensitiveKey (redactor.tokenize lib) record.payload (.key key)
  rw [← redact_payload, maskChild, Step.stops, hkey] at hchild
  exact hchild

theorem promptParts_transaction (context : Context F) :
    (promptParts lib context).transaction =
      mask sensitiveKey (DeterministicPiiRedactor.tokenize lib {}) context.transaction.payload := by
  simp only [promptParts, get?_redact lib {} context.object "transaction" (by decide)]
  rfl

theorem promptParts_baseline (context : Context F) :
    (promptParts lib context).baseline = context.baseline30d.map fun event =>
      mask sensitiveKey (DeterministicPiiRedactor.tokenize lib {}) event.payload := by
  have hget : context.object.get? "baseline_30d" =
      some (.list (context.baseline30d.map Object.payload)) := rfl
  simp only [promptParts, get?_redact lib {} context.object "baseline_30d" (by decide),
    hget, Option.map_some, mask, maskItems_eq_map, List.map_map]
  rfl

variable (redactor : DeterministicPiiRedactor) (request : InvestigationRequest F)
  (cutoff : DateTime)

/-- The value stands under a sensitive key of the transaction and of a shown event. -/
structure SharedAt (transactionAddress : Address) (position : ℕ) (eventAddress : Address)
    (value : Payload (Scalar F)) : Prop where
  transaction_key : Address.masked sensitiveKey transactionAddress = true
  transaction_value : request.transaction.payload.at? transactionAddress = some value
  event_key : Address.masked sensitiveKey eventAddress = true
  event_value : ∃ event, ((request.transactionHistory.filter
    (inWindow lib.texts cutoff)).take maxBaselineEvents)[position]? = some event ∧
      event.payload.at? eventAddress = some value

/-- The prompt shows one token at both places. -/
def SameTokenShown (transactionAddress : Address) (position : ℕ) (eventAddress : Address) :
    Prop :=
  let parts := promptParts lib (contextOf lib redactor request cutoff)
  ∃ token, parts.transaction.at? transactionAddress = some (.leaf (.str token)) ∧
    (parts.recentEvents[position]?).bind (fun event => event.at? eventAddress) =
      some (.leaf (.str token))

/-- The texts of shared values, and their first tokens. -/
def HashedText (text : String) : Prop :=
  ∃ transactionAddress position eventAddress value,
    SharedAt lib request cutoff transactionAddress position eventAddress value ∧
      (text = pyStr lib.texts value ∨ text = redactor.surrogate lib (pyStr lib.texts value))

variable {lib redactor request cutoff} {transactionAddress eventAddress : Address} {position : ℕ}
  {value : Payload (Scalar F)}

/-- The transaction's value is tokenized twice. -/
theorem SharedAt.transaction_token
    (h : SharedAt lib request cutoff transactionAddress position eventAddress value) :
    (promptParts lib (contextOf lib redactor request cutoff)).transaction.at?
        transactionAddress =
      some (.leaf (.str (DeterministicPiiRedactor.surrogate lib {}
        (redactor.surrogate lib (pyStr lib.texts value))))) := by
  have hredacted : (contextOf lib redactor request cutoff).transaction.payload =
      mask sensitiveKey (redactor.tokenize lib) request.transaction.payload :=
    redact_payload _ _ _
  rw [promptParts_transaction, hredacted, at?_mask_of_masked _ _ h.transaction_key,
    at?_mask_of_masked _ _ h.transaction_key, h.transaction_value]
  rfl

/-- The event's value is tokenized once. -/
theorem SharedAt.event_token
    (h : SharedAt lib request cutoff transactionAddress position eventAddress value) :
    ((promptParts lib (contextOf lib redactor request cutoff)).recentEvents[position]?).bind
        (fun event => event.at? eventAddress) =
      some (.leaf (.str (DeterministicPiiRedactor.surrogate lib {} (pyStr lib.texts value)))) := by
  obtain ⟨event, hevent, hvalue⟩ := h.event_value
  have hbaseline : (contextOf lib redactor request cutoff).baseline30d =
      request.transactionHistory.filter (inWindow lib.texts cutoff) := rfl
  rw [PromptParts.recentEvents, promptParts_baseline, ← List.map_take, List.getElem?_map,
    hbaseline, hevent, Option.map_some, Option.bind_some,
    at?_mask_of_masked _ _ h.event_key, hvalue]
  rfl

theorem SharedAt.shown_iff
    (h : SharedAt lib request cutoff transactionAddress position eventAddress value) :
    SameTokenShown lib redactor request cutoff transactionAddress position eventAddress ↔
      DeterministicPiiRedactor.surrogate lib {} (redactor.surrogate lib (pyStr lib.texts value)) =
        DeterministicPiiRedactor.surrogate lib {} (pyStr lib.texts value) := by
  rw [SameTokenShown]
  simp only [h.transaction_token, h.event_token]
  constructor
  · intro hshown
    obtain ⟨token, htransaction, hevent⟩ := hshown
    simp only [Option.some.injEq, Payload.leaf.injEq, Scalar.str.injEq] at htransaction hevent
    rw [htransaction, hevent]
  · intro hsame
    exact ⟨_, rfl, by rw [hsame]⟩

/-- A prompt shows one token for each shared value exactly when every shared value's text
is its own token. -/
theorem sameTokenShown_iff (lib : RedactorLib F) (redactor : DeterministicPiiRedactor)
    (request : InvestigationRequest F) (cutoff : DateTime)
    (hcollision : Set.InjOn (DeterministicPiiRedactor.surrogate lib {})
      {text | HashedText lib redactor request cutoff text}) :
    (∀ transactionAddress position eventAddress value,
      SharedAt lib request cutoff transactionAddress position eventAddress value →
        SameTokenShown lib redactor request cutoff transactionAddress position eventAddress) ↔
    ∀ transactionAddress position eventAddress value,
      SharedAt lib request cutoff transactionAddress position eventAddress value →
        redactor.surrogate lib (pyStr lib.texts value) = pyStr lib.texts value := by
  constructor
  · intro h transactionAddress position eventAddress value hshared
    have hsame := hshared.shown_iff.mp
      (h transactionAddress position eventAddress value hshared)
    exact hcollision ⟨_, _, _, _, hshared, Or.inr rfl⟩ ⟨_, _, _, _, hshared, Or.inl rfl⟩ hsame
  · intro h transactionAddress position eventAddress value hshared
    refine hshared.shown_iff.mpr ?_
    rw [h transactionAddress position eventAddress value hshared]

section Runs

/-- The digests of one account number and of its token; no other text is hashed. -/
def panLib : RedactorLib Empty where
  texts := plainTexts
  sha256Hex text :=
    if text = "veripay:4111111111111111" then
      "081353bd7a31499e2ea9ae7fea63fd3feb9cc1173ec0419128126c0aeff46602"
    else if text = "veripay:tok_081353bd7a31499e2ea9" then
      "2bfbcc3ba1ed19c3e74a29b9d42fc861b8b5e09d562e0eab8d8e4dd46d921267"
    else ""

/-- A transaction and an earlier event made with one card. -/
def repeatedPan : InvestigationRequest Empty :=
  { panRequest "4111111111111111" with transaction := panEvent "4111111111111111" }

theorem repeatedPan_shared :
    SharedAt panLib repeatedPan newYear [.key "pan"] 0 [.key "pan"]
      (.leaf (.str "4111111111111111")) where
  transaction_key := by decide
  transaction_value := rfl
  event_key := by decide
  event_value := ⟨panEvent "4111111111111111", rfl, rfl⟩

/-- The card shared by the transaction and the event is shown under two tokens. -/
theorem repeatedPan_tokens :
    SharedAt panLib repeatedPan newYear [.key "pan"] 0 [.key "pan"]
        (.leaf (.str "4111111111111111")) ∧
      ¬ SameTokenShown panLib {} repeatedPan newYear [.key "pan"] 0 [.key "pan"] := by
  refine ⟨repeatedPan_shared, ?_⟩
  rw [repeatedPan_shared.shown_iff]
  decide

/-- The card is the one value the transaction holds. -/
theorem repeatedPan_value {transactionAddress eventAddress : Address} {position : ℕ}
    {value : Payload (Scalar Empty)}
    (h : SharedAt panLib repeatedPan newYear transactionAddress position eventAddress value) :
    value = .leaf (.str "4111111111111111") := by
  have hvalue := h.transaction_value
  cases transactionAddress with
  | nil => cases h.transaction_key
  | cons step rest =>
    rw [at?_cons, Option.bind_eq_some_iff] at hvalue
    obtain ⟨child, hchild, hrest⟩ := hvalue
    have hstep : step ∈ [Step.key "pan"] := isSome_child?.mp (by rw [hchild]; rfl)
    rw [List.mem_singleton.mp hstep] at hchild
    cases hchild
    cases rest with
    | nil => exact (Option.some.inj hrest).symm
    | cons next rest => cases next <;> cases hrest

theorem repeatedPan_collisionFree :
    Set.InjOn (DeterministicPiiRedactor.surrogate panLib {})
      {text | HashedText panLib {} repeatedPan newYear text} := by
  have htexts : ∀ text, HashedText panLib {} repeatedPan newYear text →
      text = "4111111111111111" ∨ text = "tok_081353bd7a31499e2ea9" := by
    intro text h
    obtain ⟨_, _, _, value, hshared, htext⟩ := h
    rw [repeatedPan_value hshared] at htext
    rcases htext with rfl | rfl
    · exact Or.inl rfl
    · exact Or.inr (by decide)
  have hdistinct : DeterministicPiiRedactor.surrogate panLib {} "4111111111111111" ≠
      DeterministicPiiRedactor.surrogate panLib {} "tok_081353bd7a31499e2ea9" := by decide
  intro first hfirst second hsecond hsame
  rcases htexts first hfirst with rfl | rfl <;> rcases htexts second hsecond with rfl | rfl
  · rfl
  · exact absurd hsame hdistinct
  · exact absurd hsame.symm hdistinct
  · rfl

theorem sameTokenShown_iff_repeatedPan :
    (∀ transactionAddress position eventAddress value,
      SharedAt panLib repeatedPan newYear transactionAddress position eventAddress value →
        SameTokenShown panLib {} repeatedPan newYear transactionAddress position
          eventAddress) ↔
    ∀ transactionAddress position eventAddress value,
      SharedAt panLib repeatedPan newYear transactionAddress position eventAddress value →
        DeterministicPiiRedactor.surrogate panLib {} (pyStr plainTexts value) =
          pyStr plainTexts value :=
  sameTokenShown_iff panLib {} repeatedPan newYear repeatedPan_collisionFree

end Runs

end VeriPay.InvestigationAgent
