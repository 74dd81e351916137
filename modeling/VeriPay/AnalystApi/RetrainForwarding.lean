import VeriPay.AnalystApi.Scoring
import VeriPay.ModelMonitor.Champion
import VeriPay.ModelMonitor.Retrain

/-!
Retraining forwarded to the real model monitor. The client sends the requested version in
the body and the monitor reads it from the query; the monitor's report has none of the
fields the orchestrator reads but the metrics.
-/

namespace VeriPay.AnalystApi

open Lib ModelMonitor

structure RetrainResponse where
  status : String
  message : String
  newVersion : Option String := none
  metrics : List (String × ℚ) := []
  deriving DecidableEq

/-- A posted body, under a path with the items of its query. -/
structure PostRequest where
  path : String
  query : List (String × String) := []
  body : JsonObj

/-- A scalar parameter of an endpoint, which comes from the query. -/
def PostRequest.queryParam (request : PostRequest) (name : String) : Option String :=
  (request.query.filter (fun item => item.1 = name)).getLast?.map Prod.snd

namespace HttpPipelineClient

/-- What `retrain` posts. -/
def retrainRequest (version : Option String) : PostRequest where
  path := "/api/v1/monitor/retrain"
  body :=
    match version with
    | none => []
    | some version => [("version", .str version)]

variable {W : Type}

def retrain (post : PostRequest → Effect W JsonObj) (version : Option String) :
    Effect W JsonObj :=
  post (retrainRequest version)

end HttpPipelineClient

/-- Pydantic's check of a `str | None` field. -/
def asOptionalText (field : String) : Json → Py (Option String)
  | .null => .ok none
  | value => (value.asText field).map some

/-- `{k: float(v) for k, v in metrics.items()}`. -/
def floatItems (platform : Platform) (items : JsonObj) : Py (List (String × ℚ)) :=
  items.mapM fun item => do
    let value ← item.2.toFloat platform.parseFloat
    return (item.1, value)

/-- `raw_metrics if isinstance(raw_metrics, dict) else {}`. -/
def metricItems : Option Json → JsonObj
  | some (.obj items) => items
  | _ => []

/-- The response `retrain` reads out of the monitor's answer. -/
def retrainResponse (platform : Platform) (result : JsonObj) : Py RetrainResponse := do
  let metrics ← floatItems platform (metricItems (result.get? "metrics"))
  let newVersion ← asOptionalText "new_version" (result.getD "new_version" .null)
  return {
    status := platform.str (result.getD "status" (.str "unknown"))
    message := platform.str (result.getD "message" (.str ""))
    newVersion
    metrics }

def AnalystOrchestrator.retrain {W : Type} (platform : Platform)
    (client : Option String → Effect W JsonObj) (version : Option String) :
    Effect W RetrainResponse := do
  let result ← client version
  liftM (retrainResponse platform result)

variable {C : Type}

/-- `POST /api/v1/monitor/retrain`, where a raise is answered with an error code. -/
def retrainEndpoint (monitor : Monitor C) (request : PostRequest) : Effect (World C) JsonObj := do
  let answer ← Effect.attempt (monitor.retrainAndPromote (request.queryParam "version"))
  match answer with
  | .ok report => return report.toJson
  | .error _ => throw httpError

/-- A retrain an analyst asks for, at a monitor and its files. -/
structure RetrainCall (C : Type) where
  version : Option String
  monitor : Monitor C
  world : World C

namespace RetrainCall

variable (call : RetrainCall C)

/-- What the monitor does on the posted request. -/
def monitored : Py RetrainReport × World C :=
  Effect.exec (call.monitor.retrainAndPromote
    ((HttpPipelineClient.retrainRequest call.version).queryParam "version")) call.world

/-- What the analyst gets. -/
def response (platform : Platform) : Py RetrainResponse :=
  (Effect.exec (AnalystOrchestrator.retrain platform
    (HttpPipelineClient.retrain (retrainEndpoint call.monitor)) call.version) call.world).1

/-- The version the monitor promoted: after a promotion, the one `latest` names. -/
def promotedVersion (report : RetrainReport) : Option String :=
  if report.ending = .promoted then
    call.monitored.2.registry.latestVersion call.monitor.settings.modelName
  else none

end RetrainCall

/-- The contract of two retrains with what the monitor reports and the analyst gets: the
first answers the promoted version and trained the requested one, and the statuses differ
where the endings do. -/
structure RetrainContract (a b : RetrainCall C) (reportA reportB : RetrainReport)
    (responseA responseB : RetrainResponse) : Prop where
  newVersion : responseA.newVersion = a.promotedVersion reportA
  status : reportA.ending ≠ reportB.ending → responseA.status ≠ responseB.status
  trained : ∀ requested trained, a.version = some requested →
    reportA.trainedVersion = some trained → trained = requested

/-- A JSON object of floats is read back as it was written. -/
theorem floatItems_metrics (platform : Platform) (items : List (String × ℚ)) :
    floatItems platform (items.map fun item => (item.1, .float item.2)) = .ok items := by
  induction items with
  | nil => rfl
  | cons item rest ih =>
    rw [floatItems] at ih ⊢
    rw [List.map_cons, List.mapM_cons, ih]
    rfl

theorem metricItems_toJson (report : RetrainReport) :
    metricItems (JsonObj.get? report.toJson "metrics") =
      report.metrics.map fun item => (item.1, .float item.2) := by
  cases report with
  | notTriggered reason labeledCount => rfl
  | triggered version gatePassed reason metrics latestMetrics labeledCount datasetPath => rfl

/-- The monitor's reports name none of the other fields that are read. -/
theorem get?_toJson_eq_none (report : RetrainReport) {key : String}
    (hkey : key = "status" ∨ key = "message" ∨ key = "new_version") :
    JsonObj.get? report.toJson key = none := by
  cases report with
  | notTriggered reason labeledCount => rcases hkey with rfl | rfl | rfl <;> rfl
  | triggered version gatePassed reason metrics latestMetrics labeledCount datasetPath =>
    rcases hkey with rfl | rfl | rfl <;> rfl

/-- Whatever the ending, the response has the defaults and the metrics. -/
theorem retrainResponse_toJson (platform : Platform) (report : RetrainReport) :
    retrainResponse platform report.toJson =
      .ok { status := "unknown", message := "", metrics := report.metrics } := by
  rw [retrainResponse, metricItems_toJson, floatItems_metrics, Py.ok_bind, JsonObj.getD,
    JsonObj.getD, JsonObj.getD, get?_toJson_eq_none report (Or.inl rfl),
    get?_toJson_eq_none report (Or.inr (Or.inl rfl)),
    get?_toJson_eq_none report (Or.inr (Or.inr rfl))]
  rfl

/-- The request has no query, so the monitor reads no version. -/
theorem queryParam_retrainRequest (version : Option String) :
    (HttpPipelineClient.retrainRequest version).queryParam "version" = none := rfl

namespace RetrainCall

variable {call : RetrainCall C}

theorem monitored_eq (call : RetrainCall C) :
    call.monitored = Effect.exec (call.monitor.retrainAndPromote none) call.world := by
  rw [monitored, queryParam_retrainRequest]

theorem response_eq (platform : Platform) {report : RetrainReport}
    (hreport : call.monitored.1 = .ok report) :
    call.response platform =
      .ok { status := "unknown", message := "", metrics := report.metrics } := by
  have hattempt := Effect.exec_attempt (call.monitor.retrainAndPromote
    ((HttpPipelineClient.retrainRequest call.version).queryParam "version")) call.world
  rw [← monitored, hreport] at hattempt
  have hclient : Effect.exec (HttpPipelineClient.retrain (retrainEndpoint call.monitor)
      call.version) call.world = (.ok report.toJson, call.monitored.2) := by
    rw [HttpPipelineClient.retrain, retrainEndpoint, Effect.exec_bind_ok hattempt]
    rfl
  rw [response, AnalystOrchestrator.retrain, Effect.exec_bind_ok hclient, Effect.exec_lift,
    retrainResponse_toJson]

theorem cases_of_monitored {report : RetrainReport} (hreport : call.monitored.1 = .ok report) :
    call.monitor.RetrainCases none call.world report call.monitored.2 := by
  apply Monitor.retrain_cases
  rw [← monitored_eq, ← hreport]

/-- The monitor has enough labels, and what it trains under its own name passes the gate. -/
def Promotes (call : RetrainCall C) : Prop :=
  call.monitor.Triggers ∧ call.monitor.GatePasses call.monitor.drawnVersion call.world

/-- Both lack labels, both are rejected or both promote. -/
def SameEnding (a b : RetrainCall C) : Prop :=
  (a.monitor.Triggers ↔ b.monitor.Triggers) ∧ (a.Promotes ↔ b.Promotes)

/-- Where the monitor trains, a requested version is the one it draws itself. -/
def DrawsRequested (call : RetrainCall C) : Prop :=
  call.monitor.Triggers → ∀ requested, call.version = some requested →
    requested = call.monitor.drawnVersion

theorem ending_promoted_iff {report : RetrainReport} (hreport : call.monitored.1 = .ok report) :
    report.ending = .promoted ↔ call.Promotes :=
  Monitor.ending_eq_promoted_iff (cases_of_monitored hreport)

theorem ending_eq_iff {a b : RetrainCall C} {reportA reportB : RetrainReport}
    (ha : a.monitored.1 = .ok reportA) (hb : b.monitored.1 = .ok reportB) :
    reportA.ending = reportB.ending ↔ a.SameEnding b := by
  rw [Ending.eq_iff, ending_promoted_iff ha, ending_promoted_iff hb,
    Monitor.ending_eq_notTriggered_iff (cases_of_monitored ha),
    Monitor.ending_eq_notTriggered_iff (cases_of_monitored hb), not_iff_not, SameEnding]

/-- The response names no version, which is right where none is promoted. -/
theorem promotedVersion_eq_none_iff {report : RetrainReport}
    (hreport : call.monitored.1 = .ok report) :
    call.promotedVersion report = none ↔ ¬ call.Promotes := by
  rw [← ending_promoted_iff hreport, promotedVersion]
  by_cases hending : report.ending = .promoted
  · obtain ⟨promoted, hlatest⟩ :=
      Monitor.latestVersion_promoted (cases_of_monitored hreport) hending
    rw [if_pos hending, hlatest]
    exact iff_of_false (Option.some_ne_none promoted) (not_not_intro hending)
  · rw [if_neg hending]
    exact iff_of_true rfl hending

theorem trained_iff {report : RetrainReport} (hreport : call.monitored.1 = .ok report) :
    (∀ requested trained, call.version = some requested → report.trainedVersion = some trained →
      trained = requested) ↔ call.DrawsRequested := by
  rw [Monitor.trainedVersion_eq (cases_of_monitored hreport), DrawsRequested]
  by_cases htriggers : call.monitor.Triggers
  · rw [if_pos htriggers]
    constructor
    · intro h _ requested hrequested
      exact (h requested _ hrequested rfl).symm
    · intro h requested trained hrequested htrained
      cases htrained
      exact (h htriggers requested hrequested).symm
  · rw [if_neg htriggers]
    refine iff_of_true ?_ fun h => absurd h htriggers
    intro requested trained _ htrained
    cases htrained

end RetrainCall

open RetrainCall in
/-- Both analysts get a response, and the contract holds of them exactly when the first
retrain promotes nothing, both end alike, and no requested version is replaced. -/
theorem retrainContract_iff (platform : Platform) (a b : RetrainCall C)
    {reportA reportB : RetrainReport} (ha : a.monitored.1 = .ok reportA)
    (hb : b.monitored.1 = .ok reportB) :
    ∃ responseA responseB, a.response platform = .ok responseA ∧
      b.response platform = .ok responseB ∧
      (RetrainContract a b reportA reportB responseA responseB ↔
        ¬ a.Promotes ∧ a.SameEnding b ∧ a.DrawsRequested) := by
  refine ⟨_, _, response_eq platform ha, response_eq platform hb, ?_⟩
  rw [← promotedVersion_eq_none_iff ha, ← ending_eq_iff ha hb, ← trained_iff ha]
  constructor
  · intro h
    refine ⟨h.newVersion.symm, ?_, h.trained⟩
    by_contra hdiffer
    exact h.status hdiffer rfl
  · intro h
    obtain ⟨hnone, hsame, htrained⟩ := h
    exact ⟨hnone.symm, fun hdiffer => absurd hsame hdiffer, htrained⟩

def reviewedObservation : StoredObservation where
  features := ∅
  transactionId := noonTx.transactionId
  label := some .confirmedFraud

/-- A training that leaves a sidecar with its version and reports one metric. -/
def sidecarRetrainer : Retrainer String := fun _ version modelName scratch => do
  modify fun world =>
    { world with
      files := Function.update world.files
        (scratch ++ ["models", modelName, "latest", "model.json"]) (some version) }
  return {
    version
    metrics := aucMetrics (95 / 100)
    scratchDir := scratch ++ ["models"]
    datasetPath := "/".intercalate scratch }

def plainDatasetLib : DatasetLib String where
  expm1 := .ok
  readRows _ := .ok (datasetColumns, [])
  writeRows _ _ := .ok "dataset"

/-- A monitor without a champion, after so many reviewed transactions. -/
def freshMonitor (reviewed : ℕ) : Monitor String where
  settings := { modelDir := ["models"], baseDataset := ["d.csv"] }
  observations := List.replicate reviewed reviewedObservation
  localLabels := fun _ => none
  retrainer := sidecarRetrainer
  lib := plainPromotionLib
  datasets := plainDatasetLib
  mkdtemp := .ok ["tmp"]
  stamp := "20260101T000000"
  trainedAt := "2026-01-01T00:00:00+00:00"

/-- A retrain under the version an analyst names. -/
def namedRetrain (reviewed : ℕ) : RetrainCall String where
  version := some "v40"
  monitor := freshMonitor reviewed
  world :=
    { files := fun path => if path = ["d.csv"] then some "base" else none
      registry := .absent }

def promotedReport : RetrainReport :=
  .triggered "retrain-20260101T000000" true firstVersionReason (aucMetrics (95 / 100)) none 10
    "tmp/augmented_dataset.csv"

def tooFewReport : RetrainReport := .notTriggered "only 3 labeled observation(s) (minimum 10)" 3

theorem namedRetrain_promotes : (namedRetrain 10).monitored.1 = .ok promotedReport := by
  rfl

theorem namedRetrain_tooFew : (namedRetrain 3).monitored.1 = .ok tooFewReport := by
  rfl

theorem retrainContract_iff_named :
    ∃ responseA responseB, (namedRetrain 10).response .atNoon = .ok responseA ∧
      (namedRetrain 3).response .atNoon = .ok responseB ∧
      (RetrainContract (namedRetrain 10) (namedRetrain 3) promotedReport tooFewReport responseA
          responseB ↔
        ¬ (namedRetrain 10).Promotes ∧ (namedRetrain 10).SameEnding (namedRetrain 3) ∧
          (namedRetrain 10).DrawsRequested) :=
  retrainContract_iff .atNoon (namedRetrain 10) (namedRetrain 3) namedRetrain_promotes
    namedRetrain_tooFew

/-- The retrain trains and promotes another version than the one it is asked for, and the
analyst is answered as if nothing had been trained. -/
theorem not_retrainContract_named :
    (namedRetrain 10).monitored.1 = .ok promotedReport ∧
      (namedRetrain 3).monitored.1 = .ok tooFewReport ∧
      (namedRetrain 10).promotedVersion promotedReport = some "retrain-20260101T000000" ∧
      ∃ responseA responseB, (namedRetrain 10).response .atNoon = .ok responseA ∧
        (namedRetrain 3).response .atNoon = .ok responseB ∧
        responseA.newVersion = none ∧ responseA.status = responseB.status ∧
        ¬ RetrainContract (namedRetrain 10) (namedRetrain 3) promotedReport tooFewReport responseA
          responseB := by
  have hpromoted : (namedRetrain 10).promotedVersion promotedReport =
      some "retrain-20260101T000000" := by rfl
  refine ⟨namedRetrain_promotes, namedRetrain_tooFew, hpromoted, _, _,
    RetrainCall.response_eq .atNoon namedRetrain_promotes,
    RetrainCall.response_eq .atNoon namedRetrain_tooFew, rfl, rfl, ?_⟩
  intro h
  have hversion := h.newVersion
  rw [hpromoted] at hversion
  cases hversion

end VeriPay.AnalystApi
