import VeriPay.DisputeEngine.Reports
import VeriPay.Lib.MappedDict
import VeriPay.Portals.Requests

/-!
The portals beside the dispute engine. A portal that is told of the engine's cases and then makes
the engine's transitions on its own table keeps a mirror of the engine: the same disputes in the
same order, and on every transition the same answer. Each of the two reads its own clock, so they
may differ in when a dispute was last moved, and in nothing else.
-/

namespace VeriPay.Portals

open Lib Common DisputeEngine

variable {Currency : Type}

/-- The two tables are one. -/
theorem allowed_eq : allowed = allowedTransitions := by
  funext status
  cases status <;> rfl

/-- What a portal shows of a case whose currency it takes. -/
def viewOf (currency : String → Option Currency) (case : DisputeCase) :
    Option (DisputeView Currency) :=
  (currency case.currency).map fun currency =>
    { disputeId := case.disputeId.val
      transactionId := case.transactionId.val
      merchantId := case.merchantId
      amountMinor := case.amountMinor
      currency
      status := case.status
      reason := case.reason
      updatedAt := case.updatedAt }

/-- The business portal's currencies: `min_length=3, max_length=3`. -/
def threeLetters (currency : String) : Option Str3 :=
  if h : currency.length = 3 then some ⟨currency, h⟩ else none

/-- A view apart from its time. -/
def DisputeView.undated (view : DisputeView Currency) : DisputeView Currency :=
  { view with updatedAt := DateTime.minValue }

def undatedOf (currency : String → Option Currency) (case : DisputeCase) :
    Option (DisputeView Currency) :=
  (viewOf currency case).map DisputeView.undated

section Views

variable {currency : String → Option Currency} {case : DisputeCase} {view : DisputeView Currency}

theorem viewOf_disputeId (h : viewOf currency case = some view) :
    view.disputeId = case.disputeId.val := by
  obtain ⟨shown, -, rfl⟩ := Option.map_eq_some_iff.mp h
  rfl

theorem undatedOf_of_viewOf (h : viewOf currency case = some view) :
    undatedOf currency case = some view.undated := by
  rw [undatedOf, h, Option.map_some]

theorem undatedOf_fields (h : undatedOf currency case = some view.undated) :
    view.disputeId = case.disputeId.val ∧ view.status = case.status ∧
      view.amountMinor = case.amountMinor := by
  obtain ⟨shown, hshown, hundated⟩ := Option.map_eq_some_iff.mp h
  obtain ⟨taken, -, rfl⟩ := Option.map_eq_some_iff.mp hshown
  have hfields := congrArg
    (fun view : DisputeView Currency => (view.disputeId, view.status, view.amountMinor)) hundated
  simp only [DisputeView.undated, Prod.mk.injEq] at hfields
  exact ⟨hfields.1.symm, hfields.2.1.symm, hfields.2.2.symm⟩

/-- A view moves with its case, whatever the two clocks show. -/
theorem undatedOf_moved (h : undatedOf currency case = some view.undated)
    (status : DisputeStatus) (engineNow portalNow : DateTime) :
    undatedOf currency (DisputeService.moved case status engineNow) =
      some (view.moved status portalNow).undated := by
  have hmoved : (view.moved status portalNow).undated = { view.undated with status } := rfl
  obtain ⟨shown, hshown, hundated⟩ := Option.map_eq_some_iff.mp h
  obtain ⟨taken, htaken, rfl⟩ := Option.map_eq_some_iff.mp hshown
  rw [hmoved, ← hundated]
  show Option.map _ (Option.map _ (currency case.currency)) = _
  rw [htaken]
  rfl

theorem viewOf_isSome (h : (currency case.currency).isSome = true) :
    ∃ view, viewOf currency case = some view := by
  obtain ⟨shown, hshown⟩ := Option.isSome_iff_exists.mp h
  exact ⟨_, by rw [viewOf, hshown, Option.map_some]⟩

end Views

/-- A call of the engine, with the time that its clock shows and the time the portal's does. -/
inductive MirroredCall
  | create (case : DisputeCase)
  | transition (disputeId : String) (request : DisputeTransitionRequest)
    (engineNow portalNow : DateTime)
  | addEvidence (disputeId : String) (evidence : EvidenceSubmission)

def MirroredCall.toEngine : MirroredCall → DisputeCall
  | .create case => .create case
  | .transition disputeId request engineNow _ =>
    .transition disputeId ⟨request.status, request.actor⟩ (.ok engineNow)
  | .addEvidence disputeId evidence => .addEvidence disputeId evidence

/-- What the portal does for a call: a case that the engine answered with is saved, a transition
is made, and answered. -/
def atPortal (currency : String → Option Currency) (disputes : PyDict String (DisputeView Currency))
    (call : MirroredCall) (answer : DisputeAnswer) :
    Option (Py (DisputeView Currency)) × PyDict String (DisputeView Currency) :=
  match call, answer with
  | .create _, .case (.ok case) =>
    match viewOf currency case with
    | some view => (none, disputes.set view.disputeId view)
    | none => (none, disputes)
  | .transition disputeId request _ portalNow, _ =>
    let (answer, after) := Effect.exec (transitionDispute disputeId request portalNow) disputes
    (some answer, after)
  | _, _ => (none, disputes)

/-- The engine and the disputes of a portal. -/
structure Mirror (Currency : Type) where
  engine : InMemoryDisputeRepository := {}
  disputes : PyDict String (DisputeView Currency) := ∅

def mirrorMachine (currency : String → Option Currency) :
    Machine (Mirror Currency) MirroredCall
      (DisputeAnswer × Option (Py (DisputeView Currency))) where
  step mirror call :=
    let (answer, engine) := disputeMachine.step mirror.engine call.toEngine
    let (viewed, disputes) := atPortal currency mirror.disputes call answer
    ((answer, viewed), { engine, disputes })

/-- Apart from the times the portal has a view of every case, under its id, and no other. -/
structure Coupled (currency : String → Option Currency) (mirror : Mirror Currency) : Prop where
  indexed : Indexed mirror.engine
  alike : mirror.disputes.mapValues (fun view => some view.undated) =
    mirror.engine.cases.mapValues (undatedOf currency)

section Steps

variable {currency : String → Option Currency} {mirror : Mirror Currency}

theorem Coupled.get? (h : Coupled currency mirror) (id : String) :
    (mirror.disputes.get? id).map (fun view => some view.undated) =
      (mirror.engine.cases.get? id).map (undatedOf currency) := by
  rw [← PyDict.get?_mapValues, h.alike, PyDict.get?_mapValues]

theorem Coupled.view_of_case (h : Coupled currency mirror) {id : String} {case : DisputeCase}
    (hcase : mirror.engine.cases.get? id = some case) :
    ∃ view, undatedOf currency case = some view.undated ∧
      mirror.disputes.get? id = some view := by
  have hget := h.get? id
  rw [hcase, Option.map_some, Option.map_eq_some_iff] at hget
  obtain ⟨view, hview, hsame⟩ := hget
  exact ⟨view, hsame.symm, hview⟩

theorem Coupled.no_view (h : Coupled currency mirror) {id : String}
    (hcase : mirror.engine.cases.get? id = none) : mirror.disputes.get? id = none := by
  have hget := h.get? id
  rwa [hcase, Option.map_none, Option.map_eq_none_iff] at hget

/-- A case set in the engine and its view set at the portal keep the two alike. -/
theorem Coupled.alike_set (h : Coupled currency mirror) {case : DisputeCase}
    {view : DisputeView Currency} (hview : undatedOf currency case = some view.undated)
    (id : String) :
    (mirror.disputes.set id view).mapValues (fun view => some view.undated) =
      (mirror.engine.cases.set id case).mapValues (undatedOf currency) := by
  rw [PyDict.mapValues_set, PyDict.mapValues_set, h.alike, hview]

/-- A transition is answered alike and leaves the two alike. -/
theorem Coupled.transition (h : Coupled currency mirror) (id : String)
    (request : DisputeTransitionRequest) (engineNow portalNow : DateTime) :
    let atEngine := Effect.exec
      (DisputeService.transition id ⟨request.status, request.actor⟩ (.ok engineNow)) mirror.engine
    let viewed := Effect.exec (transitionDispute id request portalNow) mirror.disputes
    viewed.1.map (fun view => some view.undated) = atEngine.1.map (undatedOf currency) ∧
      viewed.2.mapValues (fun view => some view.undated) =
        atEngine.2.cases.mapValues (undatedOf currency) := by
  dsimp only
  rw [DisputeService.transition, Effect.exec_bind_ok (Effect.exec_get _)]
  cases hcase : mirror.engine.cases.get? id with
  | none =>
    rcases transitionDispute_cases mirror.disputes id request portalNow with ⟨-, hexec⟩ | hfound
    · rw [hexec]
      exact ⟨rfl, h.alike⟩
    · obtain ⟨view, hview, -⟩ := hfound
      rw [h.no_view hcase] at hview
      cases hview
  | some case =>
    obtain ⟨view, hviewOf, hview⟩ := h.view_of_case hcase
    obtain ⟨hid, hstatus, -⟩ := undatedOf_fields hviewOf
    rcases transitionDispute_cases mirror.disputes id request portalNow with ⟨hnone, -⟩ | hfound
    · rw [hview] at hnone
      cases hnone
    · obtain ⟨dispute, hdispute, hoption⟩ := hfound
      rw [hview] at hdispute
      cases hdispute
      rw [hstatus, allowed_eq] at hoption
      dsimp only
      rcases hoption with ⟨hsame, hexec⟩ | ⟨hother, hrefused, hexec⟩ | ⟨hother, hallowed, hexec⟩
      · rw [hexec, if_pos hsame]
        exact ⟨congrArg Except.ok hviewOf.symm, h.alike⟩
      · rw [hexec, if_neg hother, if_pos hrefused]
        exact ⟨rfl, h.alike⟩
      · have hmoved := undatedOf_moved hviewOf request.status engineNow portalNow
        have hkey : case.disputeId.val = id := h.indexed.case_id id case hcase
        rw [hexec, if_neg hother, if_neg (not_not.mpr hallowed)]
        refine ⟨congrArg Except.ok hmoved.symm, ?_⟩
        rw [← hkey]
        exact h.alike_set hmoved _

/-- A call whose case, if it is a creation, has a currency that the portal takes. -/
def Shown (currency : String → Option Currency) : MirroredCall → Prop
  | .create case => (currency case.currency).isSome = true
  | .transition _ _ _ _ => True
  | .addEvidence _ _ => True

/-- A creation is saved under its id, be it new or answered again. -/
theorem Coupled.create (h : Coupled currency mirror) {case : DisputeCase}
    (hshown : (currency case.currency).isSome = true) :
    ((mirrorMachine currency).next mirror (.create case)).disputes.mapValues
        (fun view => some view.undated) =
      ((mirrorMachine currency).next mirror (.create case)).engine.cases.mapValues
        (undatedOf currency) := by
  show (atPortal currency mirror.disputes (.create case)
      (.case (Effect.exec (DisputeService.create case) mirror.engine).1)).2.mapValues _ =
    (Effect.exec (DisputeService.create case) mirror.engine).2.cases.mapValues _
  rcases create_cases mirror.engine case with hagain | hrefused | hnew
  · obtain ⟨existing, hkey, hexec⟩ := hagain
    obtain ⟨known, hknown, -⟩ := h.indexed.case_of_key _ _ hkey
    rw [hexec, PyDict.item_of_get? hknown]
    -- The known case is saved anew: it has its view, maybe at another time.
    cases hviewOf : viewOf currency known with
    | none =>
      simp only [atPortal, hviewOf]
      exact h.alike
    | some view =>
      have hid : view.disputeId = existing :=
        (viewOf_disputeId hviewOf).trans (h.indexed.case_id _ _ hknown)
      simp only [atPortal, hviewOf, hid]
      rw [h.alike_set (undatedOf_of_viewOf hviewOf), PyDict.set_of_get? hknown]
  · obtain ⟨message, hexec⟩ := hrefused
    rw [hexec]
    exact h.alike
  · obtain ⟨-, -, -, hexec⟩ := hnew
    obtain ⟨view, hviewOf⟩ := viewOf_isSome hshown
    rw [hexec]
    simp only [atPortal, hviewOf, viewOf_disputeId hviewOf]
    exact h.alike_set (undatedOf_of_viewOf hviewOf) _

theorem Coupled.next (h : Coupled currency mirror) {call : MirroredCall}
    (hshown : Shown currency call) :
    Coupled currency ((mirrorMachine currency).next mirror call) where
  indexed := next_of_change h.indexed (fun _ hchange => hchange.indexed h.indexed) call.toEngine
  alike := by
    cases call with
    | create case => exact h.create hshown
    | transition id request engineNow portalNow =>
      exact (h.transition id request engineNow portalNow).2
    | addEvidence id evidence =>
      show mirror.disputes.mapValues _ =
        (Effect.exec (DisputeService.addEvidence id evidence) mirror.engine).2.cases.mapValues _
      rcases addEvidence_cases mirror.engine id evidence with ⟨answer, hexec⟩ | ⟨-, -, -, hexec⟩
      · rw [hexec]
        exact h.alike
      · rw [hexec]
        exact h.alike

end Steps

/-- The mirror a portal keeps over a run of the engine. -/
structure Mirrors (currency : String → Option Currency) (calls : List MirroredCall) : Prop where
  engine : ((mirrorMachine currency).run {} calls).engine =
    disputeMachine.run {} (calls.map MirroredCall.toEngine)
  records : ((mirrorMachine currency).run {} calls).disputes.mapValues
      (fun view => some view.undated) =
    ((mirrorMachine currency).run {} calls).engine.cases.mapValues (undatedOf currency)
  answers : ∀ e ∈ (mirrorMachine currency).trace {} calls, ∀ id request engineNow portalNow,
    e.call = .transition id request engineNow portalNow → ∃ answer viewed,
      e.answer = (.case answer, some viewed) ∧
        viewed.map (fun view => some view.undated) = answer.map (undatedOf currency)
  totals : ((mirrorMachine currency).run {} calls).disputes.values.length =
      ((mirrorMachine currency).run {} calls).engine.listCases.length ∧
    (((mirrorMachine currency).run {} calls).disputes.values.map DisputeView.amountMinor).sum =
      (((mirrorMachine currency).run {} calls).engine.listCases.map DisputeCase.amountMinor).sum

section Runs

variable {currency : String → Option Currency}

theorem coupled_empty (currency : String → Option Currency) : Coupled currency {} where
  indexed := indexed_empty
  alike := rfl

theorem run_engine (currency : String → Option Currency) (mirror : Mirror Currency)
    (calls : List MirroredCall) : ((mirrorMachine currency).run mirror calls).engine =
      disputeMachine.run mirror.engine (calls.map MirroredCall.toEngine) := by
  induction calls generalizing mirror with
  | nil => rfl
  | cons call rest ih => exact ih _

/-- The views of the cases have their amounts. -/
theorem Coupled.totals {mirror : Mirror Currency} (h : Coupled currency mirror) :
    mirror.disputes.values.length = mirror.engine.listCases.length ∧
      (mirror.disputes.values.map DisputeView.amountMinor).sum =
        (mirror.engine.listCases.map DisputeCase.amountMinor).sum := by
  have hvalues := congrArg PyDict.values h.alike
  rw [PyDict.values_mapValues, PyDict.values_mapValues] at hvalues
  constructor
  · simpa [InMemoryDisputeRepository.listCases] using congrArg List.length hvalues
  · have hamounts : ∀ case ∈ mirror.engine.cases.values,
        ((undatedOf currency case).elim 0 DisputeView.amountMinor) = case.amountMinor := by
      intro case hcase
      have hmem : undatedOf currency case ∈
          mirror.disputes.values.map (fun view => some view.undated) := by
        rw [hvalues]
        exact List.mem_map_of_mem hcase
      obtain ⟨view, -, hview⟩ := List.mem_map.mp hmem
      rw [← hview]
      exact (undatedOf_fields hview.symm).2.2
    have hsum := congrArg
      (List.map fun shown : Option (DisputeView Currency) =>
        shown.elim 0 DisputeView.amountMinor) hvalues
    rw [List.map_map, List.map_map] at hsum
    calc (mirror.disputes.values.map DisputeView.amountMinor).sum
        = (mirror.engine.cases.values.map
            fun case => (undatedOf currency case).elim 0 DisputeView.amountMinor).sum :=
          congrArg List.sum hsum
      _ = (mirror.engine.listCases.map DisputeCase.amountMinor).sum :=
          congrArg List.sum (List.map_congr_left hamounts)

/-- Where the portal takes the currencies of the cases, it mirrors every run of the engine. -/
theorem run_mirrors (currency : String → Option Currency) (calls : List MirroredCall)
    (hshown : ∀ call ∈ calls, Shown currency call) : Mirrors currency calls := by
  have hcoupled : ∀ pre post, calls = pre ++ post →
      Coupled currency ((mirrorMachine currency).run {} pre) := by
    intro pre post hcalls
    refine Machine.run_history_invariant _ (P := fun _ mirror => Coupled currency mirror)
      (coupled_empty currency) pre ?_
    rintro earlier call later rfl h
    exact h.next (hshown call (by simp [hcalls]))
  have hend := hcoupled calls [] (List.append_nil calls).symm
  refine ⟨run_engine currency {} calls, hend.alike, ?_, hend.totals⟩
  rintro e he id request engineNow portalNow hcall
  obtain ⟨pre, call, post, hcalls, rfl⟩ := (Machine.mem_trace_iff _ _ _ _).mp he
  change call = .transition id request engineNow portalNow at hcall
  subst hcall
  exact ⟨_, _, rfl, ((hcoupled pre _ hcalls).transition id request engineNow portalNow).1⟩

theorem ops_ne_empty : "ops" ≠ "" := by decide

/-- The business portal beside the engine, an hour behind it, where a case is opened and
represented. -/
theorem run_mirrors_represented : Mirrors threeLetters
    [.create openedCase,
      .transition "dispute_1" ⟨.represented, ⟨"ops", ops_ne_empty⟩⟩
        (.atHour true 738000 13) (.atHour true 738000 12)] := by
  refine run_mirrors threeLetters _ ?_
  simp only [List.forall_mem_cons, Shown]
  exact ⟨by rfl, trivial, by simp⟩

end Runs

end VeriPay.Portals
