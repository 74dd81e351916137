import VeriPay.GraphEngine.Service
import VeriPay.GraphEngine.Windows

/-!
When the graph engine answers. One timestamp of the history decides for every
customer: the window is measured from the latest transaction of the whole graph.
-/

namespace VeriPay.GraphEngine

open Lib

/-- The graph after these requests. -/
def received (requests : List GraphObserveRequest) : GraphStore :=
  GraphStore.observing (requests.map GraphObserveRequest.observed)

namespace GraphStore

/-- Both queries of a customer return with this window. -/
def Answers (store : GraphStore) (customer : ℤ) (days : ℤ) : Prop :=
  (∃ context, store.networkContext customer (some days) = .ok context) ∧
    ∃ community, store.community customer (some days) = .ok community

/-- Something was recorded, its timestamps are all naive or all aware, and the first of
the latest of them lies at least the window after the start of the calendar. -/
def WindowDefined (store : GraphStore) (days : ℤ) : Prop :=
  store.SameKind ∧ ∃ last ∈ store.txns.argmax ObservedTransaction.instant,
    DateTime.InCalendar (last.timestamp.wall - days * DateTime.microsPerDay)

variable {store : GraphStore} {days : ℤ}

theorem WindowDefined.answers (h : store.WindowDefined days) (hprojected : store.Projected)
    (customer : ℤ) : store.Answers customer days := by
  obtain ⟨hsame, last, hlast, hcalendar⟩ := h
  have hscoped := scoped_some hprojected hsame hlast hcalendar
  have hagree : Agree store store (some days) Set.univ Set.univ :=
    agree_of_visits hscoped hscoped (fun _ _ => rfl) (fun _ _ => rfl) (fun _ _ => by simp)
      (fun _ _ => rfl)
  exact ⟨(hagree.networkContext (Set.mem_univ customer)).returns,
    (hagree.community 60 (Set.mem_univ customer)).returns⟩

theorem cutoff_ok_of_networkContext_ok {customer : ℤ} {windowDays : Option ℤ} {context : JsonObj}
    (h : store.networkContext customer windowDays = .ok context) :
    ∃ cut, store.cutoff windowDays = .ok cut := by
  obtain ⟨score, hscore, -⟩ := Py.bind_eq_ok.mp h
  obtain ⟨features, hfeatures, -⟩ := Py.bind_eq_ok.mp hscore
  obtain ⟨merchants, hmerchants, -⟩ := Py.bind_eq_ok.mp hfeatures
  obtain ⟨cut, hcut, -⟩ := Py.bind_eq_ok.mp hmerchants
  exact ⟨cut, hcut⟩

theorem windowDefined_of_cutoff_ok {cut : Option DateTime} (hdays : 0 < days)
    (h : store.cutoff (some days) = .ok cut) : store.WindowDefined days := by
  obtain ⟨last, hlatest, hmoved⟩ := Py.bind_eq_ok.mp h
  obtain ⟨moved, hmoved, -⟩ := Py.bind_eq_ok.mp hmoved
  have hcalendar := DateTime.inCalendar_of_addMicros_ok hmoved
  have hsame := sameKind_of_latest_ok hlatest
  cases hlast : store.txns.argmax ObservedTransaction.instant with
  | none =>
    -- an empty graph takes the window off `datetime.min`
    have hempty : store.latest = .ok DateTime.minValue := by
      rw [GraphStore.latest, List.argmax_eq_none.mp hlast]
      rfl
    rw [hempty] at hlatest
    cases hlatest
    have hlow := hcalendar.1
    have hday : 0 < days * DateTime.microsPerDay := Int.mul_pos hdays (by decide)
    simp only [DateTime.minValue] at hlow
    omega
  | some last =>
    rw [latest_ok hsame hlast] at hlatest
    cases hlatest
    exact ⟨hsame, last, hlast, hcalendar⟩

end GraphStore

/-- After any requests, the engine answers a customer exactly when its window is
defined. -/
theorem received_answers_iff (requests : List GraphObserveRequest)
    (customer : {n : ℕ // 1 ≤ n}) :
    (received requests).Answers customer.val 30 ↔ (received requests).WindowDefined 30 := by
  constructor
  · intro h
    obtain ⟨⟨context, hcontext⟩, -⟩ := h
    obtain ⟨cut, hcut⟩ := GraphStore.cutoff_ok_of_networkContext_ok hcontext
    exact GraphStore.windowDefined_of_cutoff_ok (by decide) hcut
  · intro h
    exact h.answers (GraphStore.projected_observing _) customer.val

/-- Before the first request, no customer is answered. -/
theorem received_nil_raises : ¬ (received []).Answers 1 30 := by
  intro h
  obtain ⟨⟨context, hcontext⟩, -⟩ := h
  cases hcontext

end VeriPay.GraphEngine
