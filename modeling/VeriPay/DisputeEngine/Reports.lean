import VeriPay.Lib.Classes
import VeriPay.DisputeEngine.Retries

/-!
The regulatory report: the cases under two filters, counted by status and by reason. Every
case has one status and one reason, so the counts and the filtered reports are partitions.
-/

namespace VeriPay.DisputeEngine

open Lib Common

inductive DisputeSyncStatus
  | pending | submitted | failed
  deriving DecidableEq, Repr

structure DisputeReport where
  generatedAt : DateTime
  caseCount : ℕ
  amountMinor : ℕ
  countsByStatus : PyDict DisputeStatus ℕ
  countsByReason : PyDict DisputeReason ℕ
  syncStatus : DisputeSyncStatus

/-- The members of `DisputeStatus`, in their order. -/
def disputeStatuses : List DisputeStatus := [.opened, .represented, .accepted, .reversed, .expired]

/-- The members of `DisputeReason`, in their order. -/
def disputeReasons : List DisputeReason :=
  [.fraud, .authorization, .processingError, .consumer, .merchant]

theorem mem_disputeStatuses (status : DisputeStatus) : status ∈ disputeStatuses := by
  cases status <;> decide

theorem mem_disputeReasons (reason : DisputeReason) : reason ∈ disputeReasons := by
  cases reason <;> decide

/-- The sync provider's answer on each case of a report, and the clock. -/
structure ReportEnv where
  submit : DisputeCase → Py DisputeSyncStatus
  now : Py DateTime

namespace InMemoryDisputeRepository

def listCases (repository : InMemoryDisputeRepository) : List DisputeCase :=
  repository.cases.values

end InMemoryDisputeRepository

def byStatus (status : Option DisputeStatus) (cases : List DisputeCase) : List DisputeCase :=
  match status with
  | none => cases
  | some status => cases.filter fun case => case.status = status

def byReason (reason : Option DisputeReason) (cases : List DisputeCase) : List DisputeCase :=
  match reason with
  | none => cases
  | some reason => cases.filter fun case => case.reason = reason

/-- `sync_status`: the worst of the results. -/
def syncStatusOf (results : List DisputeSyncStatus) : DisputeSyncStatus :=
  if .failed ∈ results then .failed
  else if .pending ∈ results then .pending
  else .submitted

/-- `{value: sum(case.status == value for case in cases) for value in DisputeStatus}`. -/
def countsByStatus (cases : List DisputeCase) : PyDict DisputeStatus ℕ :=
  .collect disputeStatuses fun value =>
    some (cases.filter fun case => case.status = value).length

def countsByReason (cases : List DisputeCase) : PyDict DisputeReason ℕ :=
  .collect disputeReasons fun value =>
    some (cases.filter fun case => case.reason = value).length

namespace DisputeService

def report (repository : InMemoryDisputeRepository) (env : ReportEnv)
    (status : Option DisputeStatus := none) (reason : Option DisputeReason := none) :
    Py DisputeReport := do
  let cases := byReason reason (byStatus status repository.listCases)
  let syncResults ← cases.mapM env.submit
  let generatedAt ← env.now
  return {
    generatedAt
    caseCount := cases.length
    amountMinor := (cases.map DisputeCase.amountMinor).sum
    countsByStatus := countsByStatus cases
    countsByReason := countsByReason cases
    syncStatus := syncStatusOf syncResults }

end DisputeService

theorem countsByStatus_sum (cases : List DisputeCase) :
    (countsByStatus cases).values.sum = cases.length := by
  rw [← sum_length_filter (by decide : disputeStatuses.Nodup)
    (fun case : DisputeCase => mem_disputeStatuses case.status) cases]
  rfl

theorem countsByReason_sum (cases : List DisputeCase) :
    (countsByReason cases).values.sum = cases.length := by
  rw [← sum_length_filter (by decide : disputeReasons.Nodup)
    (fun case : DisputeCase => mem_disputeReasons case.reason) cases]
  rfl

/-- The cases a report is about. -/
def reported (repository : InMemoryDisputeRepository) (status : Option DisputeStatus)
    (reason : Option DisputeReason) : List DisputeCase :=
  byReason reason (byStatus status repository.listCases)

theorem reported_status (repository : InMemoryDisputeRepository) (status : DisputeStatus)
    (reason : Option DisputeReason) :
    reported repository (some status) reason =
      (reported repository none reason).filter fun case => case.status = status := by
  cases reason with
  | none => rfl
  | some reason =>
    show List.filter _ (List.filter _ repository.listCases) =
      List.filter _ (List.filter _ repository.listCases)
    rw [List.filter_filter, List.filter_filter]
    refine List.filter_congr ?_
    intro case _
    exact Bool.and_comm _ _

theorem reported_reason (repository : InMemoryDisputeRepository) (status : Option DisputeStatus)
    (reason : DisputeReason) :
    reported repository status (some reason) =
      (reported repository status none).filter fun case => case.reason = reason := rfl

/-- What a report that is made says of its cases. -/
theorem report_eq_ok {repository : InMemoryDisputeRepository} {env : ReportEnv}
    {status : Option DisputeStatus} {reason : Option DisputeReason} {report : DisputeReport}
    (h : DisputeService.report repository env status reason = .ok report) :
    report.caseCount = (reported repository status reason).length ∧
      report.amountMinor =
        ((reported repository status reason).map DisputeCase.amountMinor).sum ∧
      report.countsByStatus = countsByStatus (reported repository status reason) ∧
      report.countsByReason = countsByReason (reported repository status reason) := by
  obtain ⟨syncResults, -, h⟩ := Py.bind_eq_ok.mp h
  obtain ⟨generatedAt, -, h⟩ := Py.bind_eq_ok.mp h
  cases h
  exact ⟨rfl, rfl, rfl, rfl⟩

/-- A report is made when the provider answers on its cases and the clock can be read. -/
theorem report_returns (repository : InMemoryDisputeRepository) {env : ReportEnv}
    {generatedAt : DateTime} (status : Option DisputeStatus) (reason : Option DisputeReason)
    (hnow : env.now = .ok generatedAt)
    (hsubmit : ∀ case ∈ reported repository status reason, ∃ answer, env.submit case = .ok answer) :
    ∃ report, DisputeService.report repository env status reason = .ok report := by
  obtain ⟨syncResults, hresults⟩ := Py.mapM_ok hsubmit
  rw [reported] at hresults
  rw [DisputeService.report, hresults, Py.ok_bind, hnow, Py.ok_bind]
  exact ⟨_, rfl⟩

/-- The reports of a repository are partitions: the counts of each report add up, and so do the
reports over all statuses and over all reasons. -/
structure Partitioned (repository : InMemoryDisputeRepository) : Prop where
  returns : ∀ env generatedAt, env.now = .ok generatedAt →
    (∀ case, ∃ answer, env.submit case = .ok answer) → ∀ status reason,
      ∃ report, DisputeService.report repository env status reason = .ok report
  counts : ∀ env status reason report,
    DisputeService.report repository env status reason = .ok report →
      report.countsByStatus.values.sum = report.caseCount ∧
        report.countsByReason.values.sum = report.caseCount
  statuses : ∀ (envs : DisputeStatus → ReportEnv) (parts : DisputeStatus → DisputeReport) env
    reason whole, DisputeService.report repository env none reason = .ok whole →
      (∀ status, DisputeService.report repository (envs status) (some status) reason =
        .ok (parts status)) →
      (disputeStatuses.map fun status => (parts status).caseCount).sum = whole.caseCount ∧
        (disputeStatuses.map fun status => (parts status).amountMinor).sum = whole.amountMinor
  reasons : ∀ (envs : DisputeReason → ReportEnv) (parts : DisputeReason → DisputeReport) env
    status whole, DisputeService.report repository env status none = .ok whole →
      (∀ reason, DisputeService.report repository (envs reason) status (some reason) =
        .ok (parts reason)) →
      (disputeReasons.map fun reason => (parts reason).caseCount).sum = whole.caseCount ∧
        (disputeReasons.map fun reason => (parts reason).amountMinor).sum = whole.amountMinor

theorem partitioned (repository : InMemoryDisputeRepository) : Partitioned repository where
  returns := by
    intro env generatedAt hnow hsubmit status reason
    exact report_returns repository status reason hnow fun case _ => hsubmit case
  counts := by
    intro env status reason report h
    obtain ⟨hcount, -, hstatus, hreason⟩ := report_eq_ok h
    rw [hcount, hstatus, hreason]
    exact ⟨countsByStatus_sum _, countsByReason_sum _⟩
  statuses := by
    intro envs parts env reason whole hwhole hparts
    obtain ⟨hcount, hamount, -, -⟩ := report_eq_ok hwhole
    have hpart := fun status => report_eq_ok (hparts status)
    constructor
    · simp only [fun status => (hpart status).1, reported_status]
      rw [hcount]
      exact sum_length_filter (by decide) (fun case : DisputeCase => mem_disputeStatuses _) _
    · simp only [fun status => (hpart status).2.1, reported_status]
      rw [hamount]
      exact sum_map_sum_filter (by decide) (fun case : DisputeCase => mem_disputeStatuses _) _ _
  reasons := by
    intro envs parts env status whole hwhole hparts
    obtain ⟨hcount, hamount, -, -⟩ := report_eq_ok hwhole
    have hpart := fun reason => report_eq_ok (hparts reason)
    constructor
    · simp only [fun reason => (hpart reason).1, reported_reason]
      rw [hcount]
      exact sum_length_filter (by decide) (fun case : DisputeCase => mem_disputeReasons _) _
    · simp only [fun reason => (hpart reason).2.1, reported_reason]
      rw [hamount]
      exact sum_map_sum_filter (by decide) (fun case : DisputeCase => mem_disputeReasons _) _ _

/-- After any run, the reports are partitions of the cases. -/
theorem reports_partition (calls : List DisputeCall) :
    Partitioned (disputeMachine.run {} calls) := partitioned _

end VeriPay.DisputeEngine
