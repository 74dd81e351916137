import VeriPay.Lib.Machine
import VeriPay.AnalystApi.Scoring
import VeriPay.ModelMonitor.Labels

/-!
Analyst verdicts forwarded to the real feedback log and model monitor. The
profile store keeps every verdict and the monitor the latest, but the log drops a
label it already has for the transaction: a verdict that returns to an earlier
label reaches the other two stores and not the log.
-/

namespace VeriPay.AnalystApi

open Lib Common FeedbackLoop ModelMonitor

/-- The two services behind the forwards. -/
structure LabelServices where
  repository : InMemoryFeedbackRepository := {}
  localLabels : LocalLabels := fun _ => none

/-- Validation of a feedback body. -/
def toSubmission (payload : FeedbackPayload) : Py FeedbackSubmission :=
  if h : payload.idempotencyKey ≠ "" ∧ payload.analystId ≠ "" ∧ payload.decisionAction ≠ "" then
    .ok
      { idempotencyKey := ⟨payload.idempotencyKey, h.1⟩
        transactionId := payload.transactionId
        analystId := ⟨payload.analystId, h.2.1⟩
        label := payload.label
        reasonCodes := payload.reasonCodes
        decisionAction := ⟨payload.decisionAction, h.2.2⟩ }
  else .error httpError

def recordJson (record : FeedbackRecord) : JsonObj :=
  [("event_id", .str record.eventId), ("idempotency_key", .str record.idempotencyKey.val),
    ("transaction_id", .str record.transactionId.val), ("analyst_id", .str record.analystId.val),
    ("label", .str record.label.value),
    ("reason_codes", .arr (record.reasonCodes.map Json.str)),
    ("decision_action", .str record.decisionAction.val)]

/-- `POST /api/v1/feedback`, at the service's own clock. -/
def appendEndpoint (now : DateTime) (payload : FeedbackPayload) :
    Effect LabelServices JsonObj := do
  let submission ← liftM (toSubmission payload)
  let services ← get
  let appended := services.repository.append now submission
  modify (fun services => { services with repository := appended.2 })
  return recordJson appended.1

/-- `POST /api/v1/monitor/feedback`. -/
def monitorEndpoint (transactionId : NonEmptyStr) (label : ReviewLabel) :
    Effect LabelServices JsonObj := do
  modify (fun services =>
    { services with
      localLabels := recordFeedback transactionId.val label services.localLabels })
  return [("transaction_id", .str transactionId.val), ("label", .str label.value)]

variable {R : Type}

/-- The client whose forwards reach the real services. -/
def PipelineClient.withLabelServices (client : PipelineClient R) (now : DateTime) :
    PipelineClient (LabelServices × R) :=
  { client.onPart Prod.snd (fun rest world => (world.1, rest)) with
    appendFeedback := fun payload =>
      Effect.onPart Prod.fst (fun services world => (services, world.2))
        (appendEndpoint now payload)
    recordMonitorLabel := fun transactionId label =>
      Effect.onPart Prod.fst (fun services world => (services, world.2))
        (monitorEndpoint transactionId label) }

def AnalystOrchestrator.withLabelServices (analyst : AnalystOrchestrator R) (now : DateTime) :
    AnalystOrchestrator (LabelServices × R) where
  client := analyst.client.withLabelServices now
  settings := analyst.settings
  platform := analyst.platform

/-- A `submit_feedback` call, with the two clock readings it takes. -/
structure FeedbackCall where
  feedback : FeedbackInput
  received : DateTime
  logged : DateTime

namespace FeedbackCall

/-- The canonical label of the verdict, with its transaction. -/
def entry (call : FeedbackCall) : String × ReviewLabel :=
  (call.feedback.transactionId.val, toReviewLabel call.feedback.analystDecision.val)

end FeedbackCall

def feedbackMachine (analyst : AnalystOrchestrator R) :
    Machine (Pipeline (LabelServices × R)) FeedbackCall (Py FeedbackResult) where
  step := fun pipeline call =>
    Effect.exec ((analyst.withLabelServices call.logged).submitFeedback call.feedback
      call.received) pipeline

/-- Both forwards answered. -/
def ForwardsSucceed (answer : Py FeedbackResult) : Prop :=
  ∃ result, answer = .ok result ∧ result.note = "feedback_loop:ok; model_monitor:ok"

theorem idempotencyKey_inj {a b : String × ReviewLabel}
    (h : a.1 ++ ":" ++ a.2.value = b.1 ++ ":" ++ b.2.value) : a = b := by
  have hlists := congrArg String.toList h
  simp only [String.toList_append] at hlists
  have hcolon : ∀ label : ReviewLabel, ':' ∉ label.value.toList := by
    intro label
    cases label <;> decide
  rw [List.append_assoc, List.append_assoc] at hlists
  obtain ⟨hid, hlabel⟩ := append_sep_inj (hcolon a.2) (hcolon b.2) hlists
  have hvalues : ∀ label label' : ReviewLabel, label.value.toList = label'.value.toList →
      label = label' := by
    intro label label'
    cases label <;> cases label' <;> decide
  exact Prod.ext (String.toList_injective hid) (hvalues _ _ hlabel)

theorem idempotencyKey_ne_empty (transactionId : NonEmptyStr) (label : ReviewLabel) :
    transactionId.val ++ ":" ++ label.value ≠ "" := by
  intro h
  have hlist := congrArg String.toList h
  simp [String.toList_append] at hlist

theorem decision_value_ne_empty (decision : Decision) : decision.value ≠ "" := by
  cases decision <;> decide

namespace FeedbackCall

def payload (call : FeedbackCall) : FeedbackPayload :=
  AnalystOrchestrator.feedbackPayload call.feedback

theorem payload_key (call : FeedbackCall) :
    call.payload.idempotencyKey = call.entry.1 ++ ":" ++ call.entry.2.value := by
  simp only [payload, AnalystOrchestrator.feedbackPayload, entry]

theorem payload_key_ne_empty (call : FeedbackCall) : call.payload.idempotencyKey ≠ "" :=
  idempotencyKey_ne_empty call.feedback.transactionId _

theorem payload_action_ne_empty (call : FeedbackCall) : call.payload.decisionAction ≠ "" :=
  decision_value_ne_empty call.feedback.decision

def submission (call : FeedbackCall) (h : call.payload.analystId ≠ "") : FeedbackSubmission where
  idempotencyKey := ⟨call.payload.idempotencyKey, call.payload_key_ne_empty⟩
  transactionId := call.payload.transactionId
  analystId := ⟨call.payload.analystId, h⟩
  label := call.payload.label
  reasonCodes := call.payload.reasonCodes
  decisionAction := ⟨call.payload.decisionAction, call.payload_action_ne_empty⟩

theorem labelEntry_submission (call : FeedbackCall) (h : call.payload.analystId ≠ "")
    (repository : InMemoryFeedbackRepository) (now : DateTime) :
    labelEntry (repository.recordOf now (call.submission h)) = call.entry := by
  simp only [labelEntry, InMemoryFeedbackRepository.recordOf, submission, payload,
    AnalystOrchestrator.feedbackPayload, entry]

/-- The analyst id is the one field of a forwarded verdict that can fail a check. -/
theorem toSubmission_eq (call : FeedbackCall) (h : call.payload.analystId ≠ "") :
    toSubmission call.payload = .ok (call.submission h) := by
  rw [toSubmission, dif_pos ⟨call.payload_key_ne_empty, h, call.payload_action_ne_empty⟩]
  rfl

theorem toSubmission_error (call : FeedbackCall) (h : call.payload.analystId = "") :
    toSubmission call.payload = .error httpError := by
  rw [toSubmission, dif_neg (fun hfields => hfields.2.1 h)]

end FeedbackCall

/-- What a forwarded verdict leaves. -/
def forwarded (pipeline : Pipeline (LabelServices × R)) (call : FeedbackCall)
    (h : call.payload.analystId ≠ "") : Pipeline (LabelServices × R) :=
  { pipeline with
    store := pipeline.store.recordFeedback
      (AnalystOrchestrator.storedFeedback call.feedback call.received)
    world :=
      ({ repository :=
          (pipeline.world.1.repository.append call.logged (call.submission h)).2
         localLabels :=
          recordFeedback call.entry.1 call.entry.2 pipeline.world.1.localLabels },
        pipeline.world.2) }

theorem exec_appendEndpoint (call : FeedbackCall) (h : call.payload.analystId ≠ "")
    (services : LabelServices) :
    Effect.exec (appendEndpoint call.logged call.payload) services =
      (.ok (recordJson (services.repository.append call.logged (call.submission h)).1),
        { services with
          repository := (services.repository.append call.logged (call.submission h)).2 }) := by
  rw [appendEndpoint, call.toSubmission_eq h, Effect.exec_bind_ok (Effect.exec_lift _ _)]
  rfl

theorem exec_monitorEndpoint (transactionId : NonEmptyStr) (label : ReviewLabel)
    (services : LabelServices) :
    Effect.exec (monitorEndpoint transactionId label) services =
      (.ok [("transaction_id", .str transactionId.val), ("label", .str label.value)],
        { services with
          localLabels := recordFeedback transactionId.val label services.localLabels }) := rfl

variable (analyst : AnalystOrchestrator R)

theorem next_eq (pipeline : Pipeline (LabelServices × R)) (call : FeedbackCall)
    (h : call.payload.analystId ≠ "") :
    (feedbackMachine analyst).next pipeline call = forwarded pipeline call h := by
  have happend := exec_appendEndpoint call h pipeline.world.1
  simp only [FeedbackCall.payload] at happend
  simp only [feedbackMachine, Machine.next, AnalystOrchestrator.exec_submitFeedback,
    AnalystOrchestrator.withLabelServices, PipelineClient.withLabelServices, Effect.exec_onPart,
    happend, exec_monitorEndpoint, forwarded, FeedbackCall.entry]

/-- The feedback log rejects a verdict without analyst id, and no other. -/
theorem forwardsSucceed_iff (pipeline : Pipeline (LabelServices × R)) (call : FeedbackCall) :
    ForwardsSucceed ((feedbackMachine analyst).event pipeline call).answer ↔
      call.payload.analystId ≠ "" := by
  constructor
  · rintro ⟨result, hanswer, hnote⟩ hempty
    have happend : Effect.exec (appendEndpoint call.logged call.payload) pipeline.world.1 =
        (.error httpError, pipeline.world.1) := by
      rw [appendEndpoint, call.toSubmission_error hempty,
        Effect.exec_bind_error (Effect.exec_lift _ _)]
    simp only [FeedbackCall.payload] at happend
    simp only [Machine.event, feedbackMachine, AnalystOrchestrator.exec_submitFeedback,
      AnalystOrchestrator.withLabelServices, PipelineClient.withLabelServices,
      Effect.exec_onPart, happend, exec_monitorEndpoint, Except.ok.injEq] at hanswer
    simp only [← hanswer, AnalystOrchestrator.forwardStep] at hnote
    exact absurd hnote (by decide)
  · intro h
    have happend := exec_appendEndpoint call h pipeline.world.1
    simp only [FeedbackCall.payload] at happend
    simp only [ForwardsSucceed, Machine.event, feedbackMachine,
      AnalystOrchestrator.exec_submitFeedback, AnalystOrchestrator.withLabelServices,
      PipelineClient.withLabelServices, Effect.exec_onPart, happend, exec_monitorEndpoint]
    exact ⟨_, rfl, rfl⟩

def verdictEntry (verdict : StoredFeedback) : String × ReviewLabel :=
  (verdict.transactionId.val, toReviewLabel verdict.analystDecision)

/-- The three stores after the logged verdicts: the profile store has them all, the
monitor the last of each transaction, the feedback log the first of each label. -/
structure Reflects (log : List (String × ReviewLabel))
    (pipeline : Pipeline (LabelServices × R)) : Prop where
  profile : pipeline.store.feedback.map verdictEntry = log
  monitor : ∀ id, pipeline.world.1.localLabels id = (lastWins log id).map ReviewLabel.value
  loop : pipeline.world.1.repository.records.map labelEntry = log.eraseDups
  indexed : pipeline.world.1.repository.Indexed
  keys : ∀ record ∈ pipeline.world.1.repository.records, record.idempotencyKey.val =
    (labelEntry record).1 ++ ":" ++ (labelEntry record).2.value

def freshPipeline (rest : R) : Pipeline (LabelServices × R) := { world := ({}, rest) }

theorem reflects_fresh (rest : R) : Reflects [] (freshPipeline rest) where
  profile := rfl
  monitor := fun _ => rfl
  loop := rfl
  indexed := InMemoryFeedbackRepository.indexed_empty
  keys := fun _ hrecord => absurd hrecord List.not_mem_nil

/-- What the append leaves of a log that holds the first of each label. -/
theorem append_entries {repository : InMemoryFeedbackRepository}
    {log : List (String × ReviewLabel)} (hloop : repository.records.map labelEntry = log.eraseDups)
    (hindexed : repository.Indexed)
    (hkeys : ∀ record ∈ repository.records, record.idempotencyKey.val =
      (labelEntry record).1 ++ ":" ++ (labelEntry record).2.value)
    (call : FeedbackCall) (h : call.payload.analystId ≠ "") :
    let appended := (repository.append call.logged (call.submission h)).2
    appended.records.map labelEntry = (log ++ [call.entry]).eraseDups ∧
      ∀ record ∈ appended.records, record.idempotencyKey.val =
        (labelEntry record).1 ++ ":" ++ (labelEntry record).2.value := by
  rw [eraseDups_concat]
  by_cases hknown : call.entry ∈ log
  · obtain ⟨record, hrecord, hentry⟩ : ∃ record ∈ repository.records,
        labelEntry record = call.entry := by
      rw [← List.mem_map, hloop, List.mem_eraseDups]
      exact hknown
    have hsame : record.idempotencyKey = (call.submission h).idempotencyKey := by
      apply Subtype.ext
      rw [hkeys record hrecord, hentry, ← call.payload_key]
      rfl
    rw [if_pos hknown, InMemoryFeedbackRepository.append_known hindexed call.logged hrecord hsame]
    exact ⟨hloop, hkeys⟩
  · have hnew : ∀ record ∈ repository.records,
        record.idempotencyKey ≠ (call.submission h).idempotencyKey := by
      intro record hrecord hsame
      have hvalues : record.idempotencyKey.val = call.payload.idempotencyKey :=
        congrArg Subtype.val hsame
      rw [hkeys record hrecord, call.payload_key] at hvalues
      have hmem : labelEntry record ∈ log := by
        rw [← List.mem_eraseDups, ← hloop]
        exact List.mem_map_of_mem hrecord
      exact hknown (idempotencyKey_inj hvalues ▸ hmem)
    simp only [InMemoryFeedbackRepository.append_new hindexed call.logged hnew]
    rw [if_neg hknown, List.map_append, hloop, List.map_singleton, call.labelEntry_submission h]
    refine ⟨rfl, ?_⟩
    intro record hrecord
    rcases List.mem_append.mp hrecord with hold | hadded
    · exact hkeys record hold
    · rw [List.mem_singleton.mp hadded, call.labelEntry_submission h, ← call.payload_key]
      rfl

theorem Reflects.forwarded {log : List (String × ReviewLabel)}
    {pipeline : Pipeline (LabelServices × R)} (hreflects : Reflects log pipeline)
    (call : FeedbackCall) (h : call.payload.analystId ≠ "") :
    Reflects (log ++ [call.entry]) (forwarded pipeline call h) := by
  have hentries := append_entries hreflects.loop hreflects.indexed hreflects.keys call h
  refine ⟨?_, ?_, hentries.1,
    InMemoryFeedbackRepository.indexed_append hreflects.indexed _ _, hentries.2⟩
  · simp only [AnalystApi.forwarded, ProfileStore.recordFeedback, List.map_append,
      hreflects.profile]
    rfl
  · intro id
    simp only [AnalystApi.forwarded, recordFeedback, lastWins_concat]
    by_cases hid : id = call.entry.1
    · rw [hid, Function.update_self, Function.update_self]
      rfl
    · rw [Function.update_of_ne hid, Function.update_of_ne hid, hreflects.monitor]

/-- Every run whose forwards succeed. -/
theorem reflects_run (rest : R) (calls : List FeedbackCall)
    (hforwards : ∀ event ∈ (feedbackMachine analyst).trace (freshPipeline rest) calls,
      ForwardsSucceed event.answer) :
    Reflects (calls.map FeedbackCall.entry)
      ((feedbackMachine analyst).run (freshPipeline rest) calls) := by
  apply Machine.run_history_invariant (feedbackMachine analyst)
    (P := fun made pipeline => Reflects (made.map FeedbackCall.entry) pipeline)
  · exact reflects_fresh rest
  · intro made call later hcalls hreflects
    have hevent := hforwards _ ((Machine.mem_trace_iff _ _ _ _).mpr
      ⟨made, call, later, hcalls, rfl⟩)
    have hid := (forwardsSucceed_iff analyst _ call).mp hevent
    rw [List.map_append, next_eq analyst _ call hid]
    exact hreflects.forwarded call hid

/-- The canonical label of the last verdict recorded for the transaction. -/
def profileLabel (store : ProfileStore) (id : String) : Option String :=
  (store.feedback.filter (fun verdict => verdict.transactionId.val = id)).getLast?.map
    (fun verdict => (toReviewLabel verdict.analystDecision).value)

/-- The profile store, the monitor's local map and the folded export hold one label. -/
def LabelsAgree (pipeline : Pipeline (LabelServices × R)) (id : String) : Prop :=
  profileLabel pipeline.store id = pipeline.world.1.localLabels id ∧
    pipeline.world.1.localLabels id =
      labeledTransactions (exportFeedback pipeline.world.1.repository none none) id

theorem Reflects.profileLabel_eq {log : List (String × ReviewLabel)}
    {pipeline : Pipeline (LabelServices × R)} (hreflects : Reflects log pipeline) (id : String) :
    profileLabel pipeline.store id = (valuesFor log id).getLast?.map ReviewLabel.value := by
  simp only [profileLabel, valuesFor, ← hreflects.profile, List.filter_map, List.map_map,
    List.getLast?_map, Option.map_map, Function.comp_def, verdictEntry]
  congr 2

theorem Reflects.provider_eq {log : List (String × ReviewLabel)}
    {pipeline : Pipeline (LabelServices × R)} (hreflects : Reflects log pipeline) (id : String) :
    labeledTransactions (exportFeedback pipeline.world.1.repository none none) id =
      (valuesFor log id).eraseDups.getLast?.map ReviewLabel.value := by
  rw [labeledTransactions_eq, lastWins_eq_getLast?, ← valuesFor_eraseDups, ← hreflects.loop]
  rfl

theorem value_injective : Function.Injective ReviewLabel.value := by
  intro label label'
  cases label <;> cases label' <;> decide

/-- The labels of a transaction agree exactly when its verdicts settle: once its
final label has come up, no verdict brings one that it has not had before. -/
theorem labelsAgree_iff (rest : R) (calls : List FeedbackCall)
    (hforwards : ∀ event ∈ (feedbackMachine analyst).trace (freshPipeline rest) calls,
      ForwardsSucceed event.answer) (id : String) :
    LabelsAgree ((feedbackMachine analyst).run (freshPipeline rest) calls) id ↔
      Settled (valuesFor (calls.map FeedbackCall.entry) id) := by
  have hreflects := reflects_run analyst rest calls hforwards
  rw [LabelsAgree, hreflects.profileLabel_eq, hreflects.provider_eq, hreflects.monitor,
    lastWins_eq_getLast?, ← getLast?_eraseDups_iff]
  constructor
  · intro h
    obtain ⟨_, heq⟩ := h
    exact (Option.map_injective value_injective heq).symm
  · intro heq
    rw [heq]
    exact ⟨rfl, rfl⟩

def quietAnalyst : AnalystOrchestrator Unit where
  client := answeringClient [] [] []
  platform := Platform.atNoon

def verdictCall (verdict : NonEmptyStr) : FeedbackCall where
  feedback :=
    { transactionId := noonTx.transactionId
      ccNum := noonTx.ccNum
      analystDecision := verdict }
  received := noon
  logged := noon

/-- Fraud, then legitimate, then fraud again. -/
def reversals : List FeedbackCall :=
  [verdictCall confirmedFraud, verdictCall ⟨"legitimate", by decide⟩, verdictCall confirmedFraud]

theorem reversals_forward :
    ∀ event ∈ (feedbackMachine quietAnalyst).trace (freshPipeline ()) reversals,
      ForwardsSucceed event.answer := by
  intro event hevent
  obtain ⟨made, call, later, hcalls, rfl⟩ := (Machine.mem_trace_iff _ _ _ _).mp hevent
  rw [forwardsSucceed_iff]
  have hcall : call ∈ reversals := by
    rw [hcalls]
    exact List.mem_append_right _ List.mem_cons_self
  simp only [reversals, List.mem_cons, List.not_mem_nil, or_false] at hcall
  rcases hcall with rfl | rfl | rfl <;> decide

theorem labelsAgree_iff_reversals :
    LabelsAgree ((feedbackMachine quietAnalyst).run (freshPipeline ()) reversals) "t1" ↔
      Settled (valuesFor (reversals.map FeedbackCall.entry) "t1") :=
  labelsAgree_iff quietAnalyst () reversals reversals_forward "t1"

/-- The profile store and the monitor return to fraud; the log stays at legitimate. -/
theorem not_labelsAgree_reversals :
    (∀ event ∈ (feedbackMachine quietAnalyst).trace (freshPipeline ()) reversals,
      ForwardsSucceed event.answer) ∧
    ¬ LabelsAgree ((feedbackMachine quietAnalyst).run (freshPipeline ()) reversals) "t1" := by
  refine ⟨reversals_forward, ?_⟩
  have hreflects := reflects_run quietAnalyst () reversals reversals_forward
  have hentries : reversals.map FeedbackCall.entry =
      [("t1", .confirmedFraud), ("t1", .legitimate), ("t1", .confirmedFraud)] := by decide
  rw [LabelsAgree, hreflects.profileLabel_eq, hreflects.provider_eq, hreflects.monitor,
    hentries]
  decide

end VeriPay.AnalystApi
