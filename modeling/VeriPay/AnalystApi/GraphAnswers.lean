import VeriPay.AnalystApi.Bookkeeping

/-!
What the analyst shows of the graph's answers. The fields of an answer are assigned one
after the other in a block whose failure is swallowed, so an answer with a bad field in the
middle is shown in parts.
-/

namespace VeriPay.AnalystApi

open Lib Common AnalystOrchestrator

section Network

/-- `{"nodes": [], "edges": []}`. -/
def emptyEgo : JsonObj := [("nodes", .arr []), ("edges", .arr [])]

/-- The payload of the profile page's network panel. -/
structure NetworkPayload where
  ccNum : ℕ
  networkRiskScore : ℚ := 0
  available : Bool := false
  findings : List Json := []
  features : Json := .obj []
  ego : Json := .obj emptyEgo
  community : Option JsonObj := none

/-- The `try` block around the ego call: what was assigned before a raise stays. -/
def readEgo (platform : Platform) (ccNum : ℕ) : Py JsonObj → NetworkPayload
  | .error _ => { ccNum }
  | .ok ego =>
    match (ego.getD "network_risk_score" (.float 0)).toFloat platform.parseFloat with
    | .error _ => { ccNum }
    | .ok networkRiskScore =>
      let available := (ego.getD "available" (.bool false)).truthy
      match (ego.getD "findings" (.arr [])).toList with
      | .error _ => { ccNum, networkRiskScore, available }
      | .ok findings =>
        { ccNum, networkRiskScore, available, findings,
          features := ego.getD "features" (.obj []), ego := ego.getD "ego" (.obj emptyEgo) }

/-- The community is shown where its call returned. -/
def NetworkPayload.withCommunity (payload : NetworkPayload) : Py JsonObj → NetworkPayload
  | .ok community => { payload with community := some community }
  | .error _ => payload

/-- The network context of a customer, with `graph_ego` a parameter beside the client. -/
def AnalystOrchestrator.network {W : Type} (self : AnalystOrchestrator W)
    (graphEgo : ℕ → Effect W JsonObj) (ccNum : ℕ) : Effect (Pipeline W) NetworkPayload := do
  let ego ← Effect.attempt (Pipeline.call (graphEgo ccNum))
  let payload := readEgo self.platform ccNum ego
  if payload.available then
    let community ← Effect.attempt (Pipeline.call (self.client.graphCommunity ccNum))
    return payload.withCommunity community
  else
    return payload

end Network

section Readings

/-- What a well-formed answer says, whichever of its fields it has. -/
structure AxisReading where
  risk : ℚ := 0
  available : Bool := false
  findings : List String := []

/-- The reading of an answer to a score. -/
structure ScoreReading extends AxisReading where
  ego : Option JsonObj := none

/-- The reading of an answer to the network panel. -/
structure EgoReading extends AxisReading where
  features : JsonObj := []
  ego : JsonObj := emptyEgo

def AxisReading.ofAnswer? (graph : JsonObj) : Option AxisReading := do
  let risk ← graph.typed "network_risk_score" Json.number? 0
  let available ← graph.typed "available" Json.flag? false
  let findings ← graph.typed "findings" Json.texts? []
  return { risk, available, findings }

/-- An object, or null. -/
def optionalObject? : Json → Option (Option JsonObj)
  | .null => some none
  | value => value.object?.map some

def ScoreReading.ofAnswer? (graph : JsonObj) : Option ScoreReading := do
  let axis ← AxisReading.ofAnswer? graph
  let ego ← graph.typed "ego" optionalObject? none
  return { axis with ego }

def EgoReading.ofAnswer? (graph : JsonObj) : Option EgoReading := do
  let axis ← AxisReading.ofAnswer? graph
  let features ← graph.typed "features" Json.object? []
  let ego ← graph.typed "ego" Json.object? emptyEgo
  return { axis with features, ego }

/-- All of one well-formed answer, or all the defaults. -/
def IsWhole {R : Type} (ofAnswer? : JsonObj → Option R) (unavailable : R) (answer : Py JsonObj)
    (reading : R) : Prop :=
  (∃ graph, answer = .ok graph ∧ ofAnswer? graph = some reading) ∨ reading = unavailable

/-- The code reads of a well-formed answer what it says. -/
theorem axisReading_spec (platform : Platform) {graph : JsonObj} {reading : AxisReading}
    (h : AxisReading.ofAnswer? graph = some reading) :
    (graph.getD "network_risk_score" (.float 0)).toFloat platform.parseFloat =
        .ok reading.risk ∧
      (graph.getD "available" (.bool false)).truthy = reading.available ∧
      (graph.getD "findings" (.arr [])).toList = .ok (reading.findings.map Json.str) := by
  obtain ⟨risk, hrisk, h⟩ := Option.bind_eq_some_iff.mp h
  obtain ⟨available, havailable, h⟩ := Option.bind_eq_some_iff.mp h
  obtain ⟨findings, hfindings, h⟩ := Option.bind_eq_some_iff.mp h
  cases h
  exact ⟨Json.toFloat_of_number (JsonObj.read_getD_of_typed hrisk rfl),
    Json.truthy_of_flag (JsonObj.read_getD_of_typed havailable rfl),
    Json.toList_of_texts (JsonObj.read_getD_of_typed hfindings rfl)⟩

end Readings

section Reported

def reportedRisk (platform : Platform) (graph : JsonObj) : Py ℚ :=
  (graph.getD "network_risk_score" (.float 0)).toFloat platform.parseFloat

def reportedAvailable (graph : JsonObj) : Bool := (graph.getD "available" (.bool false)).truthy

def reportedFindings (graph : JsonObj) : Py (List Json) :=
  (graph.getD "findings" (.arr [])).toList

/-- The answer is well-formed, or its score cannot be read, or what can be read of it is what
an unavailable axis shows. -/
def ReadsWhole (platform : Platform) (isFormed : JsonObj → Bool) (isNothing : ℚ → Prop)
    (restEmpty : JsonObj → Prop) (graph : JsonObj) : Prop :=
  isFormed graph = true ∨
    ∀ risk, reportedRisk platform graph = .ok risk →
      isNothing risk ∧ reportedAvailable graph = false ∧
        ∀ findings, reportedFindings graph = .ok findings → findings = [] ∧ restEmpty graph

/-- An answer to the network panel that is shown whole. -/
def EgoReadsWhole (platform : Platform) : JsonObj → Prop :=
  ReadsWhole platform (fun ego => (EgoReading.ofAnswer? ego).isSome) (· = 0) fun ego =>
    ego.getD "features" (.obj []) = .obj [] ∧ ego.getD "ego" (.obj emptyEgo) = .obj emptyEgo

/-- An answer to a score that is shown whole, its risk to four decimals. -/
def ScoreReadsWhole (platform : Platform) : JsonObj → Prop :=
  ReadsWhole platform (fun graph => (ScoreReading.ofAnswer? graph).isSome) (roundTo 4 · = 0)
    fun graph => graph.get? "ego" = none ∨ graph.get? "ego" = some .null

/-- A display shows nothing of an answer where it stops at the score, or stops at the findings
with nothing before them, or passes both with nothing anywhere. -/
theorem showsNothing_iff {platform : Platform} {isNothing : ℚ → Prop} {graph : JsonObj}
    {shown restEmpty : Prop}
    (hrisk : ∀ e, reportedRisk platform graph = .error e → shown)
    (hfindings : ∀ risk, reportedRisk platform graph = .ok risk →
      ∀ e, reportedFindings graph = .error e →
        (shown ↔ isNothing risk ∧ reportedAvailable graph = false))
    (hrest : ∀ risk, reportedRisk platform graph = .ok risk →
      ∀ findings, reportedFindings graph = .ok findings →
        (shown ↔ isNothing risk ∧ reportedAvailable graph = false ∧ findings = [] ∧ restEmpty)) :
    shown ↔ ∀ risk, reportedRisk platform graph = .ok risk →
      isNothing risk ∧ reportedAvailable graph = false ∧
        ∀ findings, reportedFindings graph = .ok findings → findings = [] ∧ restEmpty := by
  cases hscore : reportedRisk platform graph with
  | error e => exact iff_of_true (hrisk e hscore) (fun risk h => by cases h)
  | ok risk =>
    cases htexts : reportedFindings graph with
    | error e =>
      rw [hfindings risk hscore e htexts]
      constructor
      · rintro ⟨hzero, hunavailable⟩ other hother
        cases hother
        exact ⟨hzero, hunavailable, fun findings h => by cases h⟩
      · intro h
        obtain ⟨hzero, hunavailable, -⟩ := h risk rfl
        exact ⟨hzero, hunavailable⟩
    | ok findings =>
      rw [hrest risk hscore findings htexts]
      constructor
      · rintro ⟨hzero, hunavailable, hnone, hempty⟩ other hother
        cases hother
        refine ⟨hzero, hunavailable, ?_⟩
        intro others hothers
        cases hothers
        exact ⟨hnone, hempty⟩
      · intro h
        obtain ⟨hzero, hunavailable, hfound⟩ := h risk rfl
        exact ⟨hzero, hunavailable, hfound findings rfl⟩

/-- Where well-formed answers are shown as they read, the display of an answer is whole when
the answer is well-formed, or when it is the display of none. -/
theorem exists_isWhole_iff {R : Type} {ofAnswer? : JsonObj → Option R} {unavailable : R}
    {graph : JsonObj} {shown : R → Prop}
    (hformed : ∀ reading, ofAnswer? graph = some reading → shown reading) :
    (∃ reading, IsWhole ofAnswer? unavailable (.ok graph) reading ∧ shown reading) ↔
      (ofAnswer? graph).isSome = true ∨ shown unavailable := by
  constructor
  · rintro ⟨reading, ⟨other, hother, hreading⟩ | rfl, hshown⟩
    · cases hother
      exact Or.inl (Option.isSome_iff_exists.mpr ⟨reading, hreading⟩)
    · exact Or.inr hshown
  · rintro (hsome | hshown)
    · obtain ⟨reading, hreading⟩ := Option.isSome_iff_exists.mp hsome
      exact ⟨reading, Or.inl ⟨graph, rfl, hreading⟩, hformed reading hreading⟩
    · exact ⟨unavailable, Or.inr rfl, hshown⟩

end Reported

section Panel

variable {platform : Platform} {ccNum : ℕ}

/-- The payload shows just what the reading has. -/
structure EgoReading.ShownBy (reading : EgoReading) (payload : NetworkPayload) : Prop where
  risk : payload.networkRiskScore = reading.risk
  available : payload.available = reading.available
  findings : payload.findings = reading.findings.map Json.str
  features : payload.features = .obj reading.features
  ego : payload.ego = .obj reading.ego

section Read

variable {ego : JsonObj}

theorem readEgo_of_risk_error {e : PyErr} (h : reportedRisk platform ego = .error e) :
    readEgo platform ccNum (.ok ego) = { ccNum } := by
  unfold reportedRisk at h
  rw [readEgo, h]

theorem readEgo_of_findings_error {risk : ℚ} (hrisk : reportedRisk platform ego = .ok risk)
    {e : PyErr} (h : reportedFindings ego = .error e) :
    readEgo platform ccNum (.ok ego) =
      { ccNum, networkRiskScore := risk, available := reportedAvailable ego } := by
  unfold reportedRisk at hrisk
  unfold reportedFindings at h
  rw [readEgo, hrisk]
  dsimp only
  rw [h]
  rfl

theorem readEgo_of_findings {risk : ℚ} (hrisk : reportedRisk platform ego = .ok risk)
    {findings : List Json} (h : reportedFindings ego = .ok findings) :
    readEgo platform ccNum (.ok ego) =
      { ccNum, networkRiskScore := risk, available := reportedAvailable ego, findings,
        features := ego.getD "features" (.obj []), ego := ego.getD "ego" (.obj emptyEgo) } := by
  unfold reportedRisk at hrisk
  unfold reportedFindings at h
  rw [readEgo, hrisk]
  dsimp only
  rw [h]
  rfl

/-- A well-formed answer is shown as it is. -/
theorem egoReading_shown {reading : EgoReading} (h : EgoReading.ofAnswer? ego = some reading) :
    reading.ShownBy (readEgo platform ccNum (.ok ego)) := by
  obtain ⟨axis, haxis, h⟩ := Option.bind_eq_some_iff.mp h
  obtain ⟨features, hfeatures, h⟩ := Option.bind_eq_some_iff.mp h
  obtain ⟨shown, hshown, h⟩ := Option.bind_eq_some_iff.mp h
  cases h
  obtain ⟨hrisk, havailable, hfindings⟩ := axisReading_spec platform haxis
  rw [readEgo_of_findings hrisk hfindings]
  exact ⟨rfl, havailable, rfl, Json.eq_of_object (JsonObj.read_getD_of_typed hfeatures rfl),
    Json.eq_of_object (JsonObj.read_getD_of_typed hshown rfl)⟩

/-- The defaults are shown exactly of an answer that has nothing else to read. -/
theorem unavailable_shown_iff :
    EgoReading.ShownBy {} (readEgo platform ccNum (.ok ego)) ↔
      ∀ risk, reportedRisk platform ego = .ok risk →
        risk = 0 ∧ reportedAvailable ego = false ∧
          ∀ findings, reportedFindings ego = .ok findings → findings = [] ∧
            ego.getD "features" (.obj []) = .obj [] ∧
            ego.getD "ego" (.obj emptyEgo) = .obj emptyEgo := by
  refine showsNothing_iff ?_ ?_ ?_
  · intro e hrisk
    rw [readEgo_of_risk_error hrisk]
    exact ⟨rfl, rfl, rfl, rfl, rfl⟩
  · intro risk hrisk e hfindings
    rw [readEgo_of_findings_error hrisk hfindings]
    constructor
    · intro h
      exact ⟨h.risk, h.available⟩
    · rintro ⟨hzero, hunavailable⟩
      exact ⟨hzero, hunavailable, rfl, rfl, rfl⟩
  · intro risk hrisk findings hfindings
    rw [readEgo_of_findings hrisk hfindings]
    constructor
    · intro h
      exact ⟨h.risk, h.available, h.findings, h.features, h.ego⟩
    · rintro ⟨hzero, hunavailable, hnone, hfeatures, hego⟩
      exact ⟨hzero, hunavailable, hnone, hfeatures, hego⟩

end Read

/-- The panel's payload is whole exactly where the answer is one that reads whole. -/
theorem readEgo_whole_iff (ccNum : ℕ) (answer : Py JsonObj) :
    (∃ reading, IsWhole EgoReading.ofAnswer? {} answer reading ∧
        reading.ShownBy (readEgo platform ccNum answer)) ↔
      ∀ ego, answer = .ok ego → EgoReadsWhole platform ego := by
  cases answer with
  | error e =>
    exact iff_of_true ⟨{}, Or.inr rfl, ⟨rfl, rfl, rfl, rfl, rfl⟩⟩ (fun ego h => by cases h)
  | ok ego =>
    rw [exists_isWhole_iff (fun reading h => egoReading_shown h), unavailable_shown_iff]
    constructor
    · intro h other hother
      cases hother
      exact h
    · intro h
      exact h ego rfl

theorem EgoReading.shownBy_withCommunity {reading : EgoReading} (payload : NetworkPayload)
    (community : Py JsonObj) :
    reading.ShownBy (payload.withCommunity community) ↔ reading.ShownBy payload := by
  cases community with
  | error e => exact Iff.rfl
  | ok community =>
    constructor
    · intro h
      exact ⟨h.risk, h.available, h.findings, h.features, h.ego⟩
    · intro h
      exact ⟨h.risk, h.available, h.findings, h.features, h.ego⟩

end Panel

section NetworkCall

variable {W : Type} (analyst : AnalystOrchestrator W) (graphEgo : ℕ → Effect W JsonObj)
  (pipeline : Pipeline W) (ccNum : ℕ)

/-- What the graph answers to the panel's first call. -/
def egoAnswer (graphEgo : ℕ → Effect W JsonObj) (pipeline : Pipeline W) (ccNum : ℕ) : Py JsonObj :=
  (Effect.exec (graphEgo ccNum) pipeline.world).1

/-- And to its second, where it is made. -/
def panelCommunity : Py JsonObj :=
  (Effect.exec (analyst.client.graphCommunity ccNum)
    (Effect.exec (graphEgo ccNum) pipeline.world).2).1

/-- The panel never raises. -/
theorem network_ok :
    (Effect.exec (analyst.network graphEgo ccNum) pipeline).1 =
      .ok (if (readEgo analyst.platform ccNum (egoAnswer graphEgo pipeline ccNum)).available then
          (readEgo analyst.platform ccNum (egoAnswer graphEgo pipeline ccNum)).withCommunity
            (panelCommunity analyst graphEgo pipeline ccNum)
        else readEgo analyst.platform ccNum (egoAnswer graphEgo pipeline ccNum)) := by
  rw [network, Effect.exec_bind_ok (Effect.exec_attempt _ _), Effect.exec_ite]
  have hanswer : (Effect.exec (Pipeline.call (graphEgo ccNum)) pipeline).1 =
      egoAnswer graphEgo pipeline ccNum := rfl
  rw [hanswer]
  split_ifs
  · rw [Effect.exec_bind_ok (Effect.exec_attempt _ _)]
    rfl
  · rfl

/-- The payload is all of one well-formed answer or all defaults, and an available one has
the community that was returned. -/
structure PanelWhole (payload : NetworkPayload) : Prop where
  axis : ∃ reading, IsWhole EgoReading.ofAnswer? {} (egoAnswer graphEgo pipeline ccNum) reading ∧
    reading.ShownBy payload
  community : payload.available = true → ∀ community,
    panelCommunity analyst graphEgo pipeline ccNum = .ok community →
      payload.community = some community

theorem panelWhole_iff {payload : NetworkPayload}
    (h : (Effect.exec (analyst.network graphEgo ccNum) pipeline).1 = .ok payload) :
    PanelWhole analyst graphEgo pipeline ccNum payload ↔
      ∀ ego, egoAnswer graphEgo pipeline ccNum = .ok ego →
        EgoReadsWhole analyst.platform ego := by
  rw [network_ok, Except.ok.injEq] at h
  rw [← readEgo_whole_iff ccNum]
  subst h
  split_ifs with havailable
  · constructor
    · intro h
      obtain ⟨reading, hwhole, hshown⟩ := h.axis
      exact ⟨reading, hwhole, (EgoReading.shownBy_withCommunity _ _).mp hshown⟩
    · rintro ⟨reading, hwhole, hshown⟩
      refine ⟨⟨reading, hwhole, (EgoReading.shownBy_withCommunity _ _).mpr hshown⟩, ?_⟩
      intro _ community hcommunity
      rw [hcommunity]
      rfl
  · exact ⟨fun h => h.axis, fun h => ⟨h, fun hshown => absurd hshown havailable⟩⟩

end NetworkCall

section Score

variable {W : Type} {analyst : AnalystOrchestrator W} {pipeline : Pipeline W}
  {tx : TransactionInput}

/-- The response shows what the reading has, its risk to four decimals. -/
structure ScoreReading.ShownBy (reading : ScoreReading) (response : ScoreResponse) : Prop where
  risk : response.networkRiskScore.val = roundTo 4 reading.risk
  available : response.networkAvailable = reading.available
  findings : response.networkFindings = reading.findings
  ego : response.networkEgo = reading.ego

/-- What the graph answers to the score call of a run. -/
def AnalystOrchestrator.ScoreRun.graphAnswer (run : analyst.ScoreRun pipeline tx) : Py JsonObj :=
  (Effect.exec (analyst.client.graphScore (graphPayload pipeline.store tx)) run.afterAnomaly).1

/-- And to the community call, where it is made. -/
def AnalystOrchestrator.ScoreRun.communityAnswer (run : analyst.ScoreRun pipeline tx) :
    Py JsonObj :=
  (Effect.exec (analyst.client.graphCommunity tx.ccNum.val)
    (Effect.exec (analyst.client.graphScore (graphPayload pipeline.store tx))
      run.afterAnomaly).2).1

/-- Fusion was asked with the score and the availability of the reading. -/
def FusedFrom (run : analyst.ScoreRun pipeline tx) (reading : ScoreReading) : Prop :=
  analyst.fusionComponents run.scores run.adjusted run.network =
    analyst.fusionComponents run.scores run.adjusted
      { risk := reading.risk, available := reading.available }

/-- The response is all of one well-formed answer or all defaults, fusion was asked with the
same, and an available axis has the community that was returned. -/
structure ResponseWhole (run : analyst.ScoreRun pipeline tx) : Prop where
  axis : ∃ reading, IsWhole ScoreReading.ofAnswer? {} run.graphAnswer reading ∧
    reading.ShownBy run.response ∧ FusedFrom run reading
  community : run.response.networkAvailable = true → ∀ community,
    run.communityAnswer = .ok community → run.response.networkCommunity = some community

/-- What a response repeats of the network axis. -/
theorem buildResponse_network {inputs : ScoringInputs} {scores : ModelScores}
    {adjusted : AdjustedScores} {network : NetworkAxis} {fusion : FusionAnswer}
    {decision : DecisionAnswer} {response : ScoreResponse}
    (h : analyst.buildResponse tx inputs scores adjusted network fusion decision =
      .ok response) :
    response.networkAvailable = network.available ∧
      validateEgo network.ego = .ok response.networkEgo ∧ response.networkCommunity = none := by
  simp only [buildResponse, Py.bind_eq_ok] at h
  obtain ⟨_, _, _, _, _, _, _, _, _, _, _, _, _, _, _, _, ego, hego, h⟩ := h
  cases h
  exact ⟨rfl, hego, rfl⟩

/-- A score that is zero to four decimals is zero percent. -/
theorem percent_of_roundTo_eq_zero {q : ℚ} (h : roundTo 4 q = 0) : percent q = 0 := by
  have hscaled : roundEven (q * 10 ^ 4) = 0 := by
    unfold roundTo at h
    have hne : ((10 : ℚ) ^ 4) ≠ 0 := by norm_num
    exact_mod_cast (div_eq_zero_iff.mp h).resolve_right hne
  have habove : q * 10 ^ 4 ≤ (0 : ℤ) + 1 / 2 :=
    (roundEven_le_iff_of_even (by decide) _).mp hscaled.le
  have hbelow : -1 < q * 10 ^ 4 := by
    by_contra hfar
    have hround : roundEven (q * 10 ^ 4) ≤ -1 := roundEven_le (by push_cast; linarith)
    omega
  push_cast at habove
  have hhigh : roundEven (q * 100) ≤ 0 :=
    (roundEven_le_iff_of_even (by decide) _).mpr (by push_cast; linarith)
  have hlow : 0 ≤ roundEven (q * 100) := by
    rcases le_or_gt 0 q with hpos | hneg
    · exact le_roundEven (by push_cast; linarith)
    · have hfloor : ⌊q * 100⌋ = -1 := by
        rw [Int.floor_eq_iff]
        push_cast
        constructor <;> linarith
      rw [roundEven, hfloor, if_neg (by push_cast; linarith), if_pos (by push_cast; linarith)]
      decide
  rw [percent]
  omega

section ReadScore

variable {platform : Platform} {graph : JsonObj}

theorem readGraph_of_risk_error {e : PyErr} (h : reportedRisk platform graph = .error e) :
    readGraph platform (.ok graph) = {} := by
  unfold reportedRisk at h
  rw [readGraph, h]

theorem readGraph_of_findings_error {risk : ℚ} (hrisk : reportedRisk platform graph = .ok risk)
    {e : PyErr} (h : reportedFindings graph = .error e) :
    readGraph platform (.ok graph) = { risk, available := reportedAvailable graph } := by
  unfold reportedRisk at hrisk
  unfold reportedFindings at h
  rw [readGraph, hrisk]
  dsimp only
  rw [h]
  rfl

theorem readGraph_of_findings {risk : ℚ} (hrisk : reportedRisk platform graph = .ok risk)
    {findings : List Json} (h : reportedFindings graph = .ok findings) :
    readGraph platform (.ok graph) =
      { risk, available := reportedAvailable graph, findings, ego := graph.get? "ego" } := by
  unfold reportedRisk at hrisk
  unfold reportedFindings at h
  rw [readGraph, hrisk]
  dsimp only
  rw [h]
  rfl

theorem validateEgo_of_optionalObject {value : Json} {ego : Option JsonObj}
    (h : optionalObject? value = some ego) : validateEgo (some value) = .ok ego := by
  cases value <;> cases h <;> rfl

/-- An answer leaves no ego graph where it has none, or null. -/
theorem validateEgo_none_iff {ego : Option Json} :
    validateEgo ego = .ok none ↔ ego = none ∨ ego = some .null := by
  cases ego with
  | none => exact iff_of_true rfl (Or.inl rfl)
  | some value =>
    cases value with
    | null => exact iff_of_true rfl (Or.inr rfl)
    | bool flag => exact iff_of_false (fun h => by cases h) (by simp)
    | int n => exact iff_of_false (fun h => by cases h) (by simp)
    | float q => exact iff_of_false (fun h => by cases h) (by simp)
    | str text => exact iff_of_false (fun h => by cases h) (by simp)
    | arr items => exact iff_of_false (fun h => by cases h) (by simp)
    | obj fields => exact iff_of_false (fun h => by cases h) (by simp)

/-- The reading is what a response shows of the axis. -/
structure ScoreReading.ShownOf (reading : ScoreReading) (network : NetworkAxis) : Prop where
  risk : roundTo 4 network.risk = roundTo 4 reading.risk
  available : network.available = reading.available
  findings : network.findings = reading.findings.map Json.str
  ego : validateEgo network.ego = .ok reading.ego

/-- A well-formed answer is read as it is. -/
theorem scoreReading_axis (platform : Platform) {reading : ScoreReading}
    (h : ScoreReading.ofAnswer? graph = some reading) :
    (readGraph platform (.ok graph)).risk = reading.risk ∧
      reading.ShownOf (readGraph platform (.ok graph)) := by
  obtain ⟨axis, haxis, h⟩ := Option.bind_eq_some_iff.mp h
  obtain ⟨ego, hego, h⟩ := Option.bind_eq_some_iff.mp h
  cases h
  obtain ⟨hrisk, havailable, hfindings⟩ := axisReading_spec platform haxis
  rw [readGraph_of_findings hrisk hfindings]
  refine ⟨rfl, rfl, havailable, rfl, ?_⟩
  show validateEgo (graph.get? "ego") = .ok ego
  unfold JsonObj.typed at hego
  cases hget : graph.get? "ego" with
  | none =>
    rw [hget] at hego
    cases hego
    rfl
  | some value =>
    rw [hget] at hego
    exact validateEgo_of_optionalObject hego

/-- The defaults are what is shown exactly of an answer that has nothing else to read. -/
theorem unavailable_shownOf_iff :
    ScoreReading.ShownOf {} (readGraph platform (.ok graph)) ↔
      ∀ risk, reportedRisk platform graph = .ok risk →
        roundTo 4 risk = 0 ∧ reportedAvailable graph = false ∧
          ∀ findings, reportedFindings graph = .ok findings → findings = [] ∧
            (graph.get? "ego" = none ∨ graph.get? "ego" = some .null) := by
  have hdefault : roundTo 4 ({} : ScoreReading).risk = 0 := roundTo_zero 4
  refine showsNothing_iff ?_ ?_ ?_
  · intro e hrisk
    rw [readGraph_of_risk_error hrisk]
    exact ⟨rfl, rfl, rfl, rfl⟩
  · intro risk hrisk e hfindings
    rw [readGraph_of_findings_error hrisk hfindings]
    constructor
    · intro h
      exact ⟨h.risk.trans hdefault, h.available⟩
    · rintro ⟨hzero, hunavailable⟩
      exact ⟨hzero.trans hdefault.symm, hunavailable, rfl, rfl⟩
  · intro risk hrisk findings hfindings
    rw [readGraph_of_findings hrisk hfindings]
    constructor
    · intro h
      exact ⟨h.risk.trans hdefault, h.available, h.findings, validateEgo_none_iff.mp h.ego⟩
    · rintro ⟨hzero, hunavailable, hnone, hego⟩
      exact ⟨hzero.trans hdefault.symm, hunavailable, hnone, validateEgo_none_iff.mpr hego⟩

/-- What a response shows of the axis is whole exactly where the answer reads whole, and
fusion then scores it alike. -/
theorem readGraph_whole_iff (answer : Py JsonObj) :
    (∃ reading, IsWhole ScoreReading.ofAnswer? {} answer reading ∧
        reading.ShownOf (readGraph platform answer) ∧
        percent (readGraph platform answer).risk = percent reading.risk) ↔
      ∀ graph, answer = .ok graph → ScoreReadsWhole platform graph := by
  cases answer with
  | error e =>
    exact iff_of_true ⟨{}, Or.inr rfl, ⟨rfl, rfl, rfl, rfl⟩, rfl⟩ (fun graph h => by cases h)
  | ok graph =>
    have hformed : ∀ reading, ScoreReading.ofAnswer? graph = some reading →
        reading.ShownOf (readGraph platform (.ok graph)) ∧
          percent (readGraph platform (.ok graph)).risk = percent reading.risk := by
      intro reading hreading
      obtain ⟨hrisk, hshown⟩ := scoreReading_axis platform hreading
      exact ⟨hshown, by rw [hrisk]⟩
    have hdefault : (ScoreReading.ShownOf {} (readGraph platform (.ok graph)) ∧
        percent (readGraph platform (.ok graph)).risk = percent ({} : ScoreReading).risk) ↔
          ScoreReading.ShownOf {} (readGraph platform (.ok graph)) := by
      refine ⟨fun h => h.1, fun hshown => ⟨hshown, ?_⟩⟩
      have hzero : percent ({} : ScoreReading).risk = 0 :=
        percent_of_roundTo_eq_zero (roundTo_zero 4)
      rw [hzero]
      exact percent_of_roundTo_eq_zero (hshown.risk.trans (roundTo_zero 4))
    rw [exists_isWhole_iff hformed, hdefault, unavailable_shownOf_iff]
    constructor
    · intro h other hother
      cases hother
      exact h
    · intro h
      exact h graph rfl

end ReadScore

theorem shownBy_iff (run : analyst.ScoreRun pipeline tx) (reading : ScoreReading) :
    reading.ShownBy run.response ↔ reading.ShownOf run.network := by
  have hfigures := analyst.buildResponse_figures run.response_eq
  obtain ⟨havailable, hego, -⟩ := buildResponse_network run.response_eq
  constructor
  · intro h
    refine ⟨hfigures.risk ▸ h.risk, havailable ▸ h.available, ?_, ?_⟩
    · rw [hfigures.finding_texts, h.findings]
    · rw [hego, h.ego]
  · intro h
    refine ⟨hfigures.risk.trans h.risk, havailable.trans h.available, ?_, ?_⟩
    · have hsame := hfigures.finding_texts.symm.trans h.findings
      exact List.map_injective_iff.mpr (fun _ _ => Json.str.inj) hsame
    · exact Except.ok.inj (hego.symm.trans h.ego)

theorem fusedFrom_iff (run : analyst.ScoreRun pipeline tx) (reading : ScoreReading) :
    FusedFrom run reading ↔
      percent run.network.risk = percent reading.risk ∧
        run.network.available = reading.available := by
  simp [FusedFrom, fusionComponents]

/-- The answer reports an available axis, and a score that can be read. -/
def ReportsAvailable (platform : Platform) (graph : JsonObj) : Prop :=
  reportedAvailable graph = true ∧ ∃ risk, reportedRisk platform graph = .ok risk

theorem readGraph_available_iff {platform : Platform} {graph : JsonObj} :
    (readGraph platform (.ok graph)).available = true ↔ ReportsAvailable platform graph := by
  unfold ReportsAvailable
  cases hrisk : reportedRisk platform graph with
  | error e =>
    rw [readGraph_of_risk_error hrisk]
    exact iff_of_false (by decide) (by rintro ⟨-, risk, h⟩; cases h)
  | ok risk =>
    have havailable : (readGraph platform (.ok graph)).available = reportedAvailable graph := by
      cases hfindings : reportedFindings graph with
      | error e => rw [readGraph_of_findings_error hrisk hfindings]
      | ok findings => rw [readGraph_of_findings hrisk hfindings]
    rw [havailable]
    exact ⟨fun h => ⟨h, risk, rfl⟩, fun h => h.1⟩

/-- The axis is available in the response where the graph answered so. -/
theorem networkAvailable_iff (run : analyst.ScoreRun pipeline tx) :
    run.response.networkAvailable = true ↔
      ∃ graph, run.graphAnswer = .ok graph ∧ ReportsAvailable analyst.platform graph := by
  obtain ⟨havailable, -, -⟩ := buildResponse_network run.response_eq
  have hread : run.network = readGraph analyst.platform run.graphAnswer :=
    run.network_eq_readGraph
  rw [havailable, hread]
  cases run.graphAnswer with
  | error e => exact iff_of_false (by simp [readGraph]) (by rintro ⟨graph, h, -⟩; cases h)
  | ok graph =>
    rw [readGraph_available_iff]
    constructor
    · intro h
      exact ⟨graph, rfl, h⟩
    · rintro ⟨other, hother, h⟩
      cases hother
      exact h

/-- The graph raises, or its answer reads whole and, where it reports an available axis, the
community call raises. -/
def GraphReadsWhole (run : analyst.ScoreRun pipeline tx) : Prop :=
  ∀ graph, run.graphAnswer = .ok graph → ScoreReadsWhole analyst.platform graph ∧
    (ReportsAvailable analyst.platform graph → ∃ e, run.communityAnswer = .error e)

/-- What the response and fusion take of the axis is whole exactly where the answer reads
whole. -/
theorem responseAxis_whole_iff (run : analyst.ScoreRun pipeline tx) :
    (∃ reading, IsWhole ScoreReading.ofAnswer? {} run.graphAnswer reading ∧
        reading.ShownBy run.response ∧ FusedFrom run reading) ↔
      ∀ graph, run.graphAnswer = .ok graph → ScoreReadsWhole analyst.platform graph := by
  have hread : run.network = readGraph analyst.platform run.graphAnswer :=
    run.network_eq_readGraph
  rw [← readGraph_whole_iff]
  simp only [shownBy_iff, fusedFrom_iff, hread]
  constructor
  · rintro ⟨reading, hwhole, hshown, hpercent, -⟩
    exact ⟨reading, hwhole, hshown, hpercent⟩
  · rintro ⟨reading, hwhole, hshown, hpercent⟩
    exact ⟨reading, hwhole, hshown, hpercent, hshown.available⟩

/-- What the community call of a score returns is dropped, so the response of an available
axis is whole only where the call raises. -/
theorem responseWhole_iff (run : analyst.ScoreRun pipeline tx) :
    ResponseWhole run ↔ GraphReadsWhole run := by
  obtain ⟨-, -, hnone⟩ := buildResponse_network run.response_eq
  constructor
  · intro h graph hgraph
    refine ⟨(responseAxis_whole_iff run).mp h.axis graph hgraph, ?_⟩
    intro hreports
    have havailable := (networkAvailable_iff run).mpr ⟨graph, hgraph, hreports⟩
    cases hcommunity : run.communityAnswer with
    | error e => exact ⟨e, rfl⟩
    | ok community =>
      have hshown := h.community havailable community hcommunity
      rw [hnone] at hshown
      cases hshown
  · intro h
    refine ⟨(responseAxis_whole_iff run).mpr (fun graph hgraph => (h graph hgraph).1), ?_⟩
    intro havailable community hcommunity
    obtain ⟨graph, hgraph, hreports⟩ := (networkAvailable_iff run).mp havailable
    obtain ⟨e, herror⟩ := (h graph hgraph).2 hreports
    rw [herror] at hcommunity
    cases hcommunity

end Score

/-- A returned response is that of a score completed on the way; it is whole exactly where
the graph's answers to that score read whole, and the panel's payload where its answer does. -/
theorem graphFields_whole_iff {W : Type} (analyst : AnalystOrchestrator W)
    (graphEgo : ℕ → Effect W JsonObj) :
    (∀ world calls tx response,
      (Effect.exec (analyst.score tx) ((pipelineMachine analyst).run { world } calls)).1 =
        .ok response → ScoredAlong analyst world calls response) ∧
    (∀ pipeline tx, ∀ run : analyst.ScoreRun pipeline tx,
      ResponseWhole run ↔ GraphReadsWhole run) ∧
    ∀ pipeline ccNum, ∃ payload,
      (Effect.exec (analyst.network graphEgo ccNum) pipeline).1 = .ok payload ∧
        (PanelWhole analyst graphEgo pipeline ccNum payload ↔
          ∀ ego, egoAnswer graphEgo pipeline ccNum = .ok ego →
            EgoReadsWhole analyst.platform ego) := by
  refine ⟨?_, ?_, ?_⟩
  · intro world calls tx response hresponse
    exact score_scoredAlong hresponse
  · intro pipeline tx run
    exact responseWhole_iff run
  · intro pipeline ccNum
    have hpayload := network_ok analyst graphEgo pipeline ccNum
    exact ⟨_, hpayload, panelWhole_iff analyst graphEgo pipeline ccNum hpayload⟩

/-- A ring of one customer. -/
def ringCommunity : JsonObj := [("members", .arr [.int 1])]

/-- An analyst whose graph engine gives the answer, and the ring. -/
def graphAnalyst (graph : JsonObj) : AnalystOrchestrator Unit where
  client := { steadyClient [] [] graph fusedAnswer blockAnswer with
    graphCommunity := fun _ => pure ringCommunity }
  platform := .atNoon

/-- A well-formed answer with one finding. -/
def findingAnswer : JsonObj :=
  [("network_risk_score", .float 1), ("available", .bool true),
    ("findings", .arr [.str "shares a device"]), ("ego", .obj emptyEgo)]

/-- The panel shows it whole, with the ring; a response drops the ring. -/
theorem graphFields_whole_finding :
    (∀ run : (graphAnalyst findingAnswer).ScoreRun { world := () } noonTx,
      ¬ ResponseWhole run) ∧
    ∃ payload, (Effect.exec ((graphAnalyst findingAnswer).network (fun _ => pure findingAnswer) 1)
        { world := () }).1 = .ok payload ∧
      PanelWhole (graphAnalyst findingAnswer) (fun _ => pure findingAnswer) { world := () } 1
        payload := by
  obtain ⟨-, hscore, hpanel⟩ :=
    graphFields_whole_iff (graphAnalyst findingAnswer) (fun _ => pure findingAnswer)
  constructor
  · intro run hwhole
    obtain ⟨-, hcommunity⟩ := (hscore _ _ run).mp hwhole findingAnswer rfl
    obtain ⟨e, herror⟩ := hcommunity ⟨rfl, 1, rfl⟩
    cases herror
  · obtain ⟨payload, hpayload, hwhole⟩ := hpanel { world := () } 1
    refine ⟨payload, hpayload, hwhole.mpr ?_⟩
    intro ego hego
    cases hego
    exact Or.inl rfl

/-- The stages of the request at noon. -/
def graphStages (graph : JsonObj) (h : (readGraph .atNoon (.ok graph)).InRange) :
    (graphAnalyst graph).ScoreStages { world := () } noonTx where
  inputs := {
    before := []
    featureMode := "basic"
    features := []
    featureRows := describeFeatures .atNoon [] {}
    features16Rows := [] }
  supervised := []
  anomaly := []
  scores := { rawFraud := 0, rawAnomaly := 0, supAvailable := true, anomAvailable := true }
  adjusted := (graphAnalyst graph).adjustedFor {} 1
    { rawFraud := 0, rawAnomaly := 0, supAvailable := true, anomAvailable := true } none
  network := readGraph .atNoon (.ok graph)
  fusionObject := fusedAnswer
  fusion := { unified := 95, band := .block, tier := .high }
  decisionObject := blockAnswer
  decision := { action := .decline, tier := .high, band := .block }
  afterSupervised := ()
  afterAnomaly := ()
  afterNetwork := ()
  afterFusion := ()
  afterDecision := ()
  inputs_eq := by
    rw [AnalystOrchestrator.buildInputs, history_of_no_transactions rfl]
    rfl
  supervised_eq := rfl
  anomaly_eq := rfl
  scores_eq := rfl
  adjusted_eq := by
    rw [AnalystOrchestrator.adjust, detectDrift_of_no_transactions _ rfl]
    rfl
  network_eq := by
    rw [AnalystOrchestrator.exec_scoreNetwork]
    rfl
  components_eq :=
    AnalystOrchestrator.checkedComponents_adjustedFor _ _ _ _ _ (checkPercent_ok h.risk_bounds)
  fusion_call := rfl
  fusion_eq := rfl
  decision_call := rfl
  decision_eq := readDecision_blockAnswer

/-- Where the answer reads in range, the score completes. -/
theorem graphStages_completes {graph : JsonObj} (h : (readGraph .atNoon (.ok graph)).InRange) :
    Nonempty ((graphAnalyst graph).ScoreRun { world := () } noonTx) := by
  have hscores : (graphStages graph h).scores.InRange :=
    ⟨⟨le_rfl, zero_le_one⟩, le_rfl, zero_le_one⟩
  obtain ⟨hfraud, hanomaly⟩ := (graphStages graph h).adjusted_bounds
  have hunified : 0 ≤ (graphStages graph h).fusion.unified ∧
      (graphStages graph h).fusion.unified ≤ 100 := by
    show (0 : ℤ) ≤ 95 ∧ (95 : ℤ) ≤ 100
    decide
  obtain ⟨response, hresponse⟩ := (graphAnalyst graph).buildResponse_ok noonTx
    (graphStages graph h).inputs (graphStages graph h).decision hscores hfraud hanomaly h hunified
  exact ⟨⟨graphStages graph h, response, hresponse⟩⟩

/-- An answer whose findings are null, behind a score that reads. -/
def mixedAnswer : JsonObj :=
  [("network_risk_score", .float 1), ("available", .bool true), ("findings", .null),
    ("ego", .obj emptyEgo)]

theorem readGraph_mixedAnswer :
    readGraph .atNoon (.ok mixedAnswer) = { risk := 1, available := true } := rfl

theorem not_scoreReadsWhole_mixedAnswer : ¬ ScoreReadsWhole .atNoon mixedAnswer := by
  rintro (hformed | hnothing)
  · cases hformed
  · obtain ⟨hzero, -⟩ := hnothing 1 rfl
    rw [roundTo_one] at hzero
    norm_num at hzero

theorem not_egoReadsWhole_mixedAnswer : ¬ EgoReadsWhole .atNoon mixedAnswer := by
  rintro (hformed | hnothing)
  · cases hformed
  · obtain ⟨hzero, -⟩ := hnothing 1 rfl
    norm_num at hzero

/-- Every score on the answer shows its risk and its availability, and the defaults else. -/
theorem response_mixedAnswer (run : (graphAnalyst mixedAnswer).ScoreRun { world := () } noonTx) :
    run.response.networkAvailable = true ∧ run.response.networkRiskScore.val = 1 ∧
      run.response.networkFindings = [] ∧ run.response.networkEgo = none ∧
      run.response.networkCommunity = none := by
  have hnetwork : run.network = { risk := 1, available := true } := run.network_eq_readGraph
  have hfigures := (graphAnalyst mixedAnswer).buildResponse_figures run.response_eq
  obtain ⟨havailable, hego, hcommunity⟩ := buildResponse_network run.response_eq
  have hrisk := hfigures.risk
  have hfindings := hfigures.finding_texts
  rw [hnetwork] at havailable hego hrisk hfindings
  exact ⟨havailable, hrisk.trans (roundTo_one 4), List.map_eq_nil_iff.mp hfindings.symm,
    (Except.ok.inj hego).symm, hcommunity⟩

/-- The score and the availability of the answer are shown beside the defaults, and the ring
that was returned is not; the panel mixes its payload the same way. -/
theorem nullFindings_mixed :
    (∃ response, (Effect.exec ((graphAnalyst mixedAnswer).score noonTx) { world := () }).1 =
        .ok response ∧ response.networkAvailable = true ∧ response.networkRiskScore.val = 1 ∧
        response.networkFindings = [] ∧ response.networkEgo = none ∧
        response.networkCommunity = none) ∧
    (∀ run : (graphAnalyst mixedAnswer).ScoreRun { world := () } noonTx,
      run.graphAnswer = .ok mixedAnswer ∧ run.communityAnswer = .ok ringCommunity ∧
        (¬ ∃ reading, IsWhole ScoreReading.ofAnswer? {} run.graphAnswer reading ∧
          reading.ShownBy run.response ∧ FusedFrom run reading) ∧ ¬ ResponseWhole run) ∧
    ∃ payload, (Effect.exec ((graphAnalyst mixedAnswer).network (fun _ => pure mixedAnswer) 1)
        { world := () }).1 = .ok payload ∧
      ¬ PanelWhole (graphAnalyst mixedAnswer) (fun _ => pure mixedAnswer) { world := () } 1
        payload := by
  refine ⟨?_, ?_, ?_⟩
  · have hinRange : (readGraph .atNoon (.ok mixedAnswer)).InRange := by
      rw [readGraph_mixedAnswer]
      exact ⟨⟨zero_le_one, le_rfl⟩, by simp, none, rfl⟩
    obtain ⟨run⟩ := graphStages_completes hinRange
    refine ⟨run.response, ?_, response_mixedAnswer run⟩
    rw [exec_score_fresh _ rfl, run.exec_scoreFresh]
  · intro run
    have haxis : ¬ ∃ reading, IsWhole ScoreReading.ofAnswer? {} run.graphAnswer reading ∧
        reading.ShownBy run.response ∧ FusedFrom run reading := by
      intro h
      exact not_scoreReadsWhole_mixedAnswer
        ((responseAxis_whole_iff run).mp h mixedAnswer rfl)
    exact ⟨rfl, rfl, haxis, fun h => haxis h.axis⟩
  · have hpayload := network_ok (graphAnalyst mixedAnswer) (fun _ => pure mixedAnswer)
      { world := () } 1
    refine ⟨_, hpayload, ?_⟩
    intro hwhole
    exact not_egoReadsWhole_mixedAnswer
      ((panelWhole_iff _ _ _ _ hpayload).mp hwhole mixedAnswer rfl)

end VeriPay.AnalystApi
