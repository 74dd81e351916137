import Mathlib.Data.List.Chain
import Mathlib.Logic.Relation
import VeriPay.Lib.Machine
import VeriPay.DisputeEngine.Service

/-!
What holds of the disputes after any run of the service: the index of idempotency
keys and the cases belong to one another, statuses follow the allowed transitions,
and nothing else of a case, and no evidence, ever changes.
-/

namespace VeriPay.DisputeEngine

open Lib Common InMemoryDisputeRepository

inductive DisputeCall
  | create (case : DisputeCase)
  | transition (disputeId : String) (request : DisputeTransitionRequest) (now : Py DateTime)
  | addEvidence (disputeId : String) (evidence : EvidenceSubmission)

inductive DisputeAnswer
  | case (answer : Py DisputeCase)
  | evidence (answer : Py EvidenceSubmission)

/-- What the call raised. -/
def DisputeAnswer.error? : DisputeAnswer → Option PyErr
  | .case (.error e) => some e
  | .case (.ok _) => none
  | .evidence (.error e) => some e
  | .evidence (.ok _) => none

def disputeMachine : Machine InMemoryDisputeRepository DisputeCall DisputeAnswer where
  step repository
    | .create case =>
      let (answer, after) := Effect.exec (DisputeService.create case) repository
      (.case answer, after)
    | .transition disputeId request now =>
      let (answer, after) :=
        Effect.exec (DisputeService.transition disputeId request now) repository
      (.case answer, after)
    | .addEvidence disputeId evidence =>
      let (answer, after) := Effect.exec (DisputeService.addEvidence disputeId evidence) repository
      (.evidence answer, after)

/-- Cases and evidence are kept under their ids, and every key leads to its case. -/
structure Indexed (repository : InMemoryDisputeRepository) : Prop where
  case_id : ∀ id case, repository.cases.get? id = some case → case.disputeId.val = id
  key_of_case : ∀ id case, repository.cases.get? id = some case →
    repository.byIdempotencyKey.get? case.idempotencyKey.val = some id
  case_of_key : ∀ key id, repository.byIdempotencyKey.get? key = some id →
    ∃ case, repository.cases.get? id = some case ∧ case.idempotencyKey.val = key
  evidence_id : ∀ id evidence, repository.evidence.get? id = some evidence →
    evidence.evidenceId.val = id

/-- What one call can change of the repository. -/
inductive Change (before : InMemoryDisputeRepository) : InMemoryDisputeRepository → Prop
  | opened (case : DisputeCase)
      (hkey : before.byIdempotencyKey.get? case.idempotencyKey.val = none)
      (hid : before.cases.get? case.disputeId.val = none) (hstatus : case.status = .opened) :
      Change before (before.opened case)
  | moved (disputeId : String) (case : DisputeCase) (status : DisputeStatus)
      (updatedAt : DateTime) (hcase : before.cases.get? disputeId = some case)
      (hallowed : status ∈ allowedTransitions case.status) :
      Change before (before.saved (DisputeService.moved case status updatedAt))
  | filed (evidence : EvidenceSubmission)
      (hid : before.evidence.get? evidence.evidenceId.val = none)
      (hcase : (before.cases.get? evidence.disputeId.val).isSome = true) :
      Change before (before.filed evidence)

variable {repository : InMemoryDisputeRepository}

/-- A call leaves the repository alone, or returns after one change. -/
theorem step_cases (repository : InMemoryDisputeRepository) (call : DisputeCall) :
    disputeMachine.next repository call = repository ∨
      ((disputeMachine.event repository call).answer.error? = none ∧
        Change repository (disputeMachine.next repository call)) := by
  cases call with
  | create case =>
    show (Effect.exec (DisputeService.create case) repository).2 = repository ∨
      (DisputeAnswer.case (Effect.exec (DisputeService.create case) repository).1).error? = none ∧
        Change repository (Effect.exec (DisputeService.create case) repository).2
    rcases create_cases repository case with h | h | h
    · obtain ⟨existingId, -, hexec⟩ := h
      exact Or.inl (by rw [hexec])
    · obtain ⟨message, hexec⟩ := h
      exact Or.inl (by rw [hexec])
    · obtain ⟨hkey, hid, hstatus, hexec⟩ := h
      rw [hexec]
      exact Or.inr ⟨rfl, .opened case hkey hid hstatus⟩
  | transition disputeId request now =>
    show (Effect.exec (DisputeService.transition disputeId request now) repository).2 =
        repository ∨
      (DisputeAnswer.case (Effect.exec (DisputeService.transition disputeId request now)
        repository).1).error? = none ∧ Change repository
          (Effect.exec (DisputeService.transition disputeId request now) repository).2
    rcases transition_cases repository disputeId request now with h | h
    · obtain ⟨answer, hexec⟩ := h
      exact Or.inl (by rw [hexec])
    · obtain ⟨case, updatedAt, hcase, hallowed, hexec⟩ := h
      rw [hexec]
      exact Or.inr ⟨rfl, .moved disputeId case request.status updatedAt hcase hallowed⟩
  | addEvidence disputeId evidence =>
    show (Effect.exec (DisputeService.addEvidence disputeId evidence) repository).2 =
        repository ∨
      (DisputeAnswer.evidence (Effect.exec (DisputeService.addEvidence disputeId evidence)
        repository).1).error? = none ∧ Change repository
          (Effect.exec (DisputeService.addEvidence disputeId evidence) repository).2
    rcases addEvidence_cases repository disputeId evidence with h | h
    · obtain ⟨answer, hexec⟩ := h
      exact Or.inl (by rw [hexec])
    · obtain ⟨hid, hpath, hcase, hexec⟩ := h
      rw [hexec]
      exact Or.inr ⟨rfl, .filed evidence hid (by rwa [hpath])⟩

/-- What every change keeps, every call keeps. -/
theorem next_of_change {P : InMemoryDisputeRepository → Prop} (hsame : P repository)
    (hchange : ∀ after, Change repository after → P after) (call : DisputeCall) :
    P (disputeMachine.next repository call) := by
  rcases step_cases repository call with h | h
  · rwa [h]
  · exact hchange _ h.2

theorem indexed_empty : Indexed {} where
  case_id := fun _ _ h => by cases h
  key_of_case := fun _ _ h => by cases h
  case_of_key := fun _ _ h => by cases h
  evidence_id := fun _ _ h => by cases h

theorem Indexed.opened (h : Indexed repository) {case : DisputeCase}
    (hkey : repository.byIdempotencyKey.get? case.idempotencyKey.val = none)
    (hid : repository.cases.get? case.disputeId.val = none) :
    Indexed (repository.opened case) where
  case_id := by
    intro id found hfound
    rw [cases_opened] at hfound
    split_ifs at hfound with hsame
    · cases hfound
      exact hsame.symm
    · exact h.case_id id found hfound
  key_of_case := by
    intro id found hfound
    rw [cases_opened] at hfound
    rw [keys_opened]
    split_ifs at hfound with hsame
    · cases hfound
      rw [if_pos rfl, hsame]
    · have hindexed := h.key_of_case id found hfound
      have hother : found.idempotencyKey.val ≠ case.idempotencyKey.val := by
        intro heq
        rw [heq, hkey] at hindexed
        cases hindexed
      rw [if_neg hother]
      exact hindexed
  case_of_key := by
    intro key id hfound
    rw [keys_opened] at hfound
    rw [cases_opened]
    split_ifs at hfound with hsame
    · cases hfound
      exact ⟨case, if_pos rfl, hsame.symm⟩
    · obtain ⟨found, hcase, hown⟩ := h.case_of_key key id hfound
      have hother : id ≠ case.disputeId.val := by
        intro heq
        rw [heq, hid] at hcase
        cases hcase
      exact ⟨found, by rw [if_neg hother, hcase], hown⟩
  evidence_id := h.evidence_id

theorem Indexed.moved (h : Indexed repository) {disputeId : String} {case : DisputeCase}
    (hcase : repository.cases.get? disputeId = some case) (status : DisputeStatus)
    (updatedAt : DateTime) :
    Indexed (repository.saved (DisputeService.moved case status updatedAt)) where
  case_id := by
    intro id found hfound
    rw [cases_saved] at hfound
    split_ifs at hfound with hsame
    · cases hfound
      exact hsame.symm
    · exact h.case_id id found hfound
  key_of_case := by
    intro id found hfound
    rw [cases_saved] at hfound
    split_ifs at hfound with hsame
    · cases hfound
      have hid : disputeId = id := (h.case_id _ _ hcase).symm.trans hsame.symm
      rw [← hid]
      exact h.key_of_case disputeId case hcase
    · exact h.key_of_case id found hfound
  case_of_key := by
    intro key id hfound
    obtain ⟨found, hown, hkey⟩ := h.case_of_key key id hfound
    rw [cases_saved]
    split_ifs with hsame
    · have hid : disputeId = id := (h.case_id _ _ hcase).symm.trans hsame.symm
      rw [← hid, hcase] at hown
      cases hown
      exact ⟨_, rfl, hkey⟩
    · exact ⟨found, hown, hkey⟩
  evidence_id := h.evidence_id

theorem Indexed.filed (h : Indexed repository) (evidence : EvidenceSubmission) :
    Indexed (repository.filed evidence) where
  case_id := h.case_id
  key_of_case := h.key_of_case
  case_of_key := h.case_of_key
  evidence_id := by
    intro id found hfound
    rw [evidence_filed] at hfound
    split_ifs at hfound with hsame
    · cases hfound
      exact hsame.symm
    · exact h.evidence_id id found hfound

theorem Change.indexed {after : InMemoryDisputeRepository} (hchange : Change repository after)
    (h : Indexed repository) : Indexed after := by
  cases hchange with
  | opened case hkey hid hstatus => exact h.opened hkey hid
  | moved disputeId case status updatedAt hcase hallowed => exact h.moved hcase status updatedAt
  | filed evidence hid hcase => exact h.filed evidence

theorem run_indexed (calls : List DisputeCall) : Indexed (disputeMachine.run {} calls) := by
  refine Machine.run_history_invariant _ (P := fun _ state => Indexed state) indexed_empty calls ?_
  intro pre call post _ h
  exact next_of_change h (fun _ hchange => hchange.indexed h) call

/-- In an indexed repository a known key always finds its case. -/
theorem create_no_keyError (h : Indexed repository) (case : DisputeCase) (message : String) :
    (Effect.exec (DisputeService.create case) repository).1 ≠ .error (.keyError message) := by
  rcases create_cases repository case with hcase | hcase | hcase
  · obtain ⟨existingId, hkey, hexec⟩ := hcase
    obtain ⟨found, hfound, -⟩ := h.case_of_key _ _ hkey
    rw [hexec, PyDict.item_of_get? hfound]
    simp
  · obtain ⟨text, hexec⟩ := hcase
    rw [hexec]
    simp
  · obtain ⟨-, -, -, hexec⟩ := hcase
    rw [hexec]
    simp

/-- One step of a case's life. -/
def Follows (before after : DisputeStatus) : Prop := after ∈ allowedTransitions before

/-- What is recorded stays: cases but for their status, which follows the transitions,
and for the time of it. -/
structure Kept (before after : InMemoryDisputeRepository) : Prop where
  cases : ∀ id case, before.cases.get? id = some case → ∃ status updatedAt,
    after.cases.get? id = some (DisputeService.moved case status updatedAt) ∧
      Relation.ReflTransGen Follows case.status status
  keys : ∀ key id, before.byIdempotencyKey.get? key = some id →
    after.byIdempotencyKey.get? key = some id
  evidence : ∀ id evidence, before.evidence.get? id = some evidence →
    after.evidence.get? id = some evidence

theorem Kept.refl (repository : InMemoryDisputeRepository) : Kept repository repository where
  cases := fun _ case h => ⟨case.status, case.updatedAt, h, .refl⟩
  keys := fun _ _ h => h
  evidence := fun _ _ h => h

theorem Kept.trans {first second third : InMemoryDisputeRepository} (h : Kept first second)
    (h' : Kept second third) : Kept first third where
  cases := by
    intro id case hcase
    obtain ⟨status, updatedAt, hmoved, hpath⟩ := h.cases id case hcase
    obtain ⟨status', updatedAt', hmoved', hpath'⟩ := h'.cases id _ hmoved
    exact ⟨status', updatedAt', hmoved', hpath.trans hpath'⟩
  keys := fun key id hkey => h'.keys key id (h.keys key id hkey)
  evidence := fun id evidence hknown => h'.evidence id evidence (h.evidence id evidence hknown)

theorem Change.kept {after : InMemoryDisputeRepository} (hchange : Change repository after)
    (h : Indexed repository) : Kept repository after := by
  have hnew : ∀ {V : Type} {dict : PyDict String V} {key other : String} {value : V},
      dict.get? key = none → dict.get? other = some value → other ≠ key := by
    intro V dict key other value hnone hsome heq
    rw [heq, hnone] at hsome
    cases hsome
  cases hchange with
  | opened case hkey hid hstatus =>
    refine ⟨?_, ?_, fun _ _ hknown => hknown⟩
    · intro id found hfound
      exact ⟨found.status, found.updatedAt, by
        rw [cases_opened, if_neg (hnew hid hfound)]
        exact hfound, .refl⟩
    · intro key id hknown
      rw [keys_opened, if_neg (hnew hkey hknown), hknown]
  | moved disputeId case status updatedAt hcase hallowed =>
    refine ⟨?_, fun _ _ hknown => hknown, fun _ _ hknown => hknown⟩
    intro id found hfound
    by_cases hsame : id = case.disputeId.val
    · have hown : found = case := by
        rw [hsame, h.case_id _ _ hcase, hcase] at hfound
        exact (Option.some.inj hfound).symm
      rw [hown]
      exact ⟨status, updatedAt, by
        rw [cases_saved]
        exact if_pos hsame, .single hallowed⟩
    · exact ⟨found.status, found.updatedAt, by
        rw [cases_saved]
        exact (if_neg hsame).trans hfound, .refl⟩
  | filed evidence hid hcase =>
    refine ⟨?_, fun _ _ hknown => hknown, ?_⟩
    · intro id found hfound
      exact ⟨found.status, found.updatedAt, hfound, .refl⟩
    · intro id found hknown
      rw [evidence_filed, if_neg (hnew hid hknown), hknown]

theorem run_kept (earlier later : List DisputeCall) :
    Kept (disputeMachine.run {} earlier) (disputeMachine.run {} (earlier ++ later)) := by
  rw [Machine.run_append]
  refine (Machine.run_history_invariant _
    (P := fun _ state => Indexed state ∧ Kept (disputeMachine.run {} earlier) state)
    ⟨run_indexed earlier, .refl _⟩ later ?_).2
  intro pre call post _ h
  refine next_of_change (P := fun state => Indexed state ∧ Kept _ state) h ?_ call
  intro after hchange
  exact ⟨hchange.indexed h.1, h.2.trans (hchange.kept h.1)⟩

theorem final_of_path {status status' : DisputeStatus}
    (hpath : Relation.ReflTransGen Follows status status')
    (hfinal : allowedTransitions status = []) : status' = status := by
  rcases hpath.cases_head with heq | hstep
  · exact heq.symm
  · obtain ⟨next, hnext, -⟩ := hstep
    rw [Follows, hfinal] at hnext
    cases hnext

/-- The status a case has, if there is one. -/
def statusOf (id : String) (repository : InMemoryDisputeRepository) : Option DisputeStatus :=
  (repository.cases.get? id).map DisputeCase.status

/-- The statuses of a case after the calls of a run. -/
def statusHistory (calls : List DisputeCall) (id : String) : List DisputeStatus :=
  (disputeMachine.trace {} calls).filterMap (fun e => statusOf id e.after)

theorem statusHistory_concat (calls : List DisputeCall) (call : DisputeCall) (id : String) :
    statusHistory (calls ++ [call]) id = statusHistory calls id ++
      (statusOf id (disputeMachine.run {} (calls ++ [call]))).toList := by
  rw [statusHistory, Machine.trace_append, List.filterMap_append, Machine.run_concat]
  congr 1

/-- A case is opened, and from call to call stays as it is or takes an allowed
transition. -/
structure StatusPath (history : List DisputeStatus) : Prop where
  first : ∀ status ∈ history.head?, status = .opened
  steps : history.IsChain (fun before after => after = before ∨ Follows before after)

/-- What a change does to the status of a case. -/
theorem Change.status {after : InMemoryDisputeRepository} (hchange : Change repository after)
    (h : Indexed repository) (id : String) :
    statusOf id after = statusOf id repository ∨
      (statusOf id repository = none ∧ statusOf id after = some .opened) ∨
      ∃ before next, statusOf id repository = some before ∧ statusOf id after = some next ∧
        Follows before next := by
  unfold statusOf
  cases hchange with
  | opened case hkey hid hstatus =>
    rw [cases_opened]
    split_ifs with hsame
    · rw [hsame, hid, Option.map_some, hstatus]
      exact Or.inr (Or.inl ⟨rfl, rfl⟩)
    · exact Or.inl rfl
  | moved disputeId case status updatedAt hcase hallowed =>
    rw [cases_saved]
    split_ifs with hsame
    · have hid : disputeId = id := (h.case_id _ _ hcase).symm.trans hsame.symm
      rw [← hid, hcase]
      exact Or.inr (Or.inr ⟨case.status, status, rfl, rfl, hallowed⟩)
    · exact Or.inl rfl
  | filed evidence hid hcase => exact Or.inl rfl

theorem StatusPath.concat {history : List DisputeStatus} (h : StatusPath history)
    {next : DisputeStatus} (hfirst : history = [] → next = .opened)
    (hstep : ∀ last ∈ history.getLast?, next = last ∨ Follows last next) :
    StatusPath (history ++ [next]) where
  first := by
    intro status hstatus
    cases history with
    | nil =>
      cases hstatus
      exact hfirst rfl
    | cons first rest => exact h.first status hstatus
  steps := by
    refine List.isChain_append.mpr ⟨h.steps, .singleton _, ?_⟩
    intro last hlast status hstatus
    cases hstatus
    exact hstep last hlast

/-- A path that ends with the status before a change goes on with the one after it. -/
theorem StatusPath.extend {history : List DisputeStatus} (h : StatusPath history)
    {status : Option DisputeStatus}
    (hchange : status = history.getLast? ∨
      (history.getLast? = none ∧ status = some .opened) ∨
      ∃ before next, history.getLast? = some before ∧ status = some next ∧ Follows before next) :
    (history ++ status.toList).getLast? = status ∧ StatusPath (history ++ status.toList) := by
  cases status with
  | none =>
    rw [Option.toList_none, List.append_nil]
    rcases hchange with hsame | hopened | ⟨before, next, -, hnext, -⟩
    · exact ⟨hsame.symm, h⟩
    · cases hopened.2
    · cases hnext
  | some status =>
    refine ⟨List.getLast?_concat, h.concat ?_ ?_⟩
    · intro hempty
      rw [hempty, List.getLast?_nil] at hchange
      rcases hchange with hsame | hopened | ⟨before, next, hbefore, -, -⟩
      · cases hsame
      · exact Option.some.inj hopened.2
      · cases hbefore
    · intro last hlast
      rw [hlast] at hchange
      rcases hchange with hsame | hopened | ⟨before, next, hbefore, hnext, hfollows⟩
      · exact Or.inl (Option.some.inj hsame)
      · cases hopened.1
      · cases hbefore
        cases hnext
        exact Or.inr hfollows

/-- The history ends with the status the case has, and is a path. -/
theorem run_statusPath (calls : List DisputeCall) (id : String) :
    (statusHistory calls id).getLast? = statusOf id (disputeMachine.run {} calls) ∧
      StatusPath (statusHistory calls id) := by
  induction calls using List.reverseRecOn with
  | nil => exact ⟨rfl, by simp [statusHistory], .nil⟩
  | append_singleton calls call ih =>
    obtain ⟨hlast, hpath⟩ := ih
    rw [statusHistory_concat, Machine.run_concat]
    refine next_of_change (P := fun state => (statusHistory calls id ++
      (statusOf id state).toList).getLast? = statusOf id state ∧
        StatusPath (statusHistory calls id ++ (statusOf id state).toList)) ?_ ?_ call
    · exact hpath.extend (Or.inl hlast.symm)
    · intro after hchange
      have hstatus := hchange.status (run_indexed calls) id
      rw [← hlast] at hstatus
      exact hpath.extend hstatus

/-- The life of the disputes over a run from the empty repository. -/
structure Lifecycle (calls : List DisputeCall) : Prop where
  indexed : Indexed (disputeMachine.run {} calls)
  lookup : ∀ e ∈ disputeMachine.trace {} calls, ∀ case, e.call = .create case →
    ∀ message, e.answer.error? ≠ some (.keyError message)
  path : ∀ id, StatusPath (statusHistory calls id)
  final : ∀ earlier later, calls = earlier ++ later → ∀ id case,
    (disputeMachine.run {} earlier).cases.get? id = some case →
      (case.status = .reversed ∨ case.status = .expired) →
      statusOf id (disputeMachine.run {} calls) = some case.status
  kept : ∀ earlier later, calls = earlier ++ later →
    Kept (disputeMachine.run {} earlier) (disputeMachine.run {} calls)
  clean : ∀ e ∈ disputeMachine.trace {} calls, e.answer.error? ≠ none → e.after = e.before

/-- Every run keeps the lifecycle of its disputes. -/
theorem run_lifecycle (calls : List DisputeCall) : Lifecycle calls where
  indexed := run_indexed calls
  lookup := by
    intro e he case hcall message herror
    obtain ⟨pre, call, post, -, rfl⟩ := (Machine.mem_trace_iff _ _ _ _).mp he
    change call = .create case at hcall
    subst hcall
    refine create_no_keyError (run_indexed pre) case message ?_
    change (DisputeAnswer.case (Effect.exec (DisputeService.create case)
      (disputeMachine.run {} pre)).1).error? = _ at herror
    cases hanswer : (Effect.exec (DisputeService.create case) (disputeMachine.run {} pre)).1 with
    | ok answer =>
      rw [hanswer] at herror
      cases herror
    | error e =>
      rw [hanswer] at herror
      cases herror
      rfl
  path := fun id => (run_statusPath calls id).2
  final := by
    intro earlier later hcalls id case hcase hfinal
    obtain ⟨status, updatedAt, hmoved, hpath⟩ := (run_kept earlier later).cases id case hcase
    have hstuck : allowedTransitions case.status = [] := by
      rcases hfinal with h | h
      · rw [h]
        rfl
      · rw [h]
        rfl
    rw [hcalls, statusOf, hmoved, ← final_of_path hpath hstuck]
    rfl
  kept := by
    intro earlier later hcalls
    rw [hcalls]
    exact run_kept earlier later
  clean := by
    intro e he herror
    obtain ⟨pre, call, post, -, rfl⟩ := (Machine.mem_trace_iff _ _ _ _).mp he
    rcases step_cases (disputeMachine.run {} pre) call with h | h
    · exact h
    · exact absurd h.1 herror

end VeriPay.DisputeEngine
