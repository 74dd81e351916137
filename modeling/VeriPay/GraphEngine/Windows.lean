import Mathlib.Data.Int.ConditionallyCompleteOrder
import Mathlib.Data.List.MinMax
import VeriPay.GraphEngine.Agreement

/-!
What the helpers of a query answer: they read the transactions of the window, and
nothing else of the graph. A graph built by observing keeps its projections in
step with its transactions, so this also holds where no window is asked for.
-/

namespace VeriPay.GraphEngine

open Lib

namespace ObservedTransaction

def event (tx : ObservedTransaction) : DateTime × ℤ × String :=
  (tx.timestamp, tx.ccNum, tx.transactionId)

def instant (tx : ObservedTransaction) : ℤ := tx.timestamp.instant

end ObservedTransaction

/-- The timestamp is in the window that starts at this instant, if one is asked for. -/
def InWindow (start : Option ℤ) (timestamp : DateTime) : Prop :=
  ∀ instant ∈ start, instant ≤ timestamp.instant

instance (start : Option ℤ) (timestamp : DateTime) : Decidable (InWindow start timestamp) :=
  inferInstanceAs (Decidable (∀ instant ∈ start, instant ≤ timestamp.instant))

@[simp] theorem inWindow_none (timestamp : DateTime) : InWindow none timestamp := by
  intro instant h
  cases h

@[simp] theorem inWindow_some (instant : ℤ) (timestamp : DateTime) :
    InWindow (some instant) timestamp ↔ instant ≤ timestamp.instant := by
  simp [InWindow]

namespace GraphStore

/-- The projections are those of the transactions. -/
structure Projected (store : GraphStore) : Prop where
  customerMerchants : ∀ c, store.customerMerchants c =
    ((store.txns.filter (fun tx => tx.ccNum = c)).map (fun tx => tx.merchant)).toFinset
  merchantCustomers : ∀ m, store.merchantCustomers m =
    ((store.txns.filter (fun tx => tx.merchant = m)).map (fun tx => tx.ccNum)).toFinset
  merchantEvents : ∀ m, store.merchantEvents m =
    (store.txns.filter (fun tx => tx.merchant = m)).map ObservedTransaction.event
  flaggedCount : ∀ c, store.flaggedCount c =
    (store.txns.filter (fun tx => tx.ccNum = c ∧ tx.flagged)).length

theorem projected_empty : Projected {} where
  customerMerchants := fun _ => rfl
  merchantCustomers := fun _ => rfl
  merchantEvents := fun _ => rfl
  flaggedCount := fun _ => rfl

theorem observe_new {store : GraphStore} {tx : ObservedTransaction}
    (h : store.knows tx.transactionId = false) : (store.observe tx).txns = store.txns ++ [tx] := by
  rw [observe, if_neg (by rw [h]; exact Bool.false_ne_true)]

theorem Projected.observe {store : GraphStore} (h : store.Projected) (tx : ObservedTransaction) :
    (store.observe tx).Projected := by
  cases hknown : store.knows tx.transactionId with
  | true =>
    rw [observe_known hknown]
    exact h
  | false =>
    have htxns := observe_new hknown
    rw [GraphStore.observe, if_neg (by rw [hknown]; exact Bool.false_ne_true)] at htxns ⊢
    refine ⟨?_, ?_, ?_, ?_⟩
    · intro c
      by_cases hc : tx.ccNum = c
      · subst hc
        simp [h.customerMerchants, List.filter_append]
      · simp [h.customerMerchants, List.filter_append, Ne.symm hc, hc]
    · intro m
      by_cases hm : tx.merchant = m
      · subst hm
        simp [h.merchantCustomers, List.filter_append]
      · simp [h.merchantCustomers, List.filter_append, Ne.symm hm, hm]
    · intro m
      by_cases hm : tx.merchant = m
      · subst hm
        simp [h.merchantEvents, List.filter_append, ObservedTransaction.event]
      · simp [h.merchantEvents, List.filter_append, Ne.symm hm, hm]
    · intro c
      by_cases hc : tx.ccNum = c
      · subst hc
        cases hflagged : tx.flagged <;> simp [h.flaggedCount, List.filter_append, hflagged]
      · cases hflagged : tx.flagged <;>
          simp [h.flaggedCount, List.filter_append, hflagged, Ne.symm hc, hc]

/-- The graph of a sequence of transactions. -/
def observing (txs : List ObservedTransaction) : GraphStore := txs.foldl observe {}

theorem projected_foldl {store : GraphStore} (h : store.Projected)
    (txs : List ObservedTransaction) : (txs.foldl GraphStore.observe store).Projected := by
  induction txs generalizing store with
  | nil => exact h
  | cons tx rest ih => exact ih (h.observe tx)

theorem projected_observing (txs : List ObservedTransaction) : (observing txs).Projected :=
  projected_foldl projected_empty txs

/-- Any two timestamps of the graph can be compared. -/
def SameKind (store : GraphStore) : Prop :=
  ∀ a ∈ store.txns, ∀ b ∈ store.txns, a.timestamp.Comparable b.timestamp

/-- The loop of `max` over comparable timestamps is the first largest of Mathlib. -/
theorem foldlM_later (best : ObservedTransaction) (rest : List ObservedTransaction)
    (h : ∀ tx ∈ rest, best.timestamp.Comparable tx.timestamp) :
    ∃ last, rest.foldl (List.argAux fun b c => ObservedTransaction.instant c < b.instant)
        (some best) = some last ∧
      rest.foldlM (fun best (tx : ObservedTransaction) => do
        let later ← best.lt tx.timestamp
        return if later then tx.timestamp else best) best.timestamp = .ok last.timestamp := by
  induction rest generalizing best with
  | nil => exact ⟨best, rfl, rfl⟩
  | cons tx rest ih =>
    have hfirst := h tx List.mem_cons_self
    have hrest : ∀ other ∈ rest, best.timestamp.Comparable other.timestamp :=
      fun other hother => h other (List.mem_cons_of_mem tx hother)
    rw [List.foldl_cons, List.foldlM_cons, DateTime.lt_ok hfirst, Py.ok_bind]
    by_cases hlater : best.timestamp.instant < tx.timestamp.instant
    · obtain ⟨last, hlast, hloop⟩ := ih tx
        (fun other hother => hfirst.symm.trans (hrest other hother))
      refine ⟨last, ?_, ?_⟩
      · rw [← hlast]
        congr 1
        exact if_pos hlater
      · rw [← hloop]
        simp [hlater]
    · obtain ⟨last, hlast, hloop⟩ := ih best hrest
      refine ⟨last, ?_, ?_⟩
      · rw [← hlast]
        congr 1
        exact if_neg hlater
      · rw [← hloop]
        simp [hlater]

theorem latest_ok {store : GraphStore} (h : store.SameKind) {last : ObservedTransaction}
    (hlast : last ∈ store.txns.argmax ObservedTransaction.instant) :
    store.latest = .ok last.timestamp := by
  unfold latest
  unfold SameKind at h
  cases htxns : store.txns with
  | nil =>
    rw [htxns] at hlast
    cases hlast
  | cons first rest =>
    rw [htxns] at h hlast
    obtain ⟨found, hfound, hloop⟩ := foldlM_later first rest
      (fun tx htx => h first List.mem_cons_self tx (List.mem_cons_of_mem first htx))
    have hsame : found = last := by
      have hargmax : (first :: rest).argmax ObservedTransaction.instant = some found := hfound
      rw [hargmax] at hlast
      exact Option.some.inj hlast
    rw [← hsame]
    exact hloop

/-- A loop that compares every timestamp only ends where all of them compare. -/
theorem comparable_of_foldlM_later {best : DateTime} {rest : List ObservedTransaction}
    {answer : DateTime}
    (h : rest.foldlM (fun best (tx : ObservedTransaction) => do
        let later ← best.lt tx.timestamp
        return if later then tx.timestamp else best) best = .ok answer) :
    ∀ tx ∈ rest, best.Comparable tx.timestamp := by
  induction rest generalizing best with
  | nil => simp
  | cons first rest ih =>
    rw [List.foldlM_cons] at h
    obtain ⟨next, hnext, h⟩ := Py.bind_eq_ok.mp h
    obtain ⟨later, hlater, hround⟩ := Py.bind_eq_ok.mp hnext
    have hfirst := DateTime.comparable_of_lt_ok hlater
    have hbest : best.Comparable next := by
      cases hround
      cases later with
      | true => exact hfirst
      | false => rfl
    intro tx htx
    rcases List.mem_cons.mp htx with rfl | htx
    · exact hfirst
    · exact hbest.trans (ih h tx htx)

theorem sameKind_of_latest_ok {store : GraphStore} {answer : DateTime}
    (h : store.latest = .ok answer) : store.SameKind := by
  unfold latest at h
  unfold SameKind
  cases htxns : store.txns with
  | nil => simp
  | cons first rest =>
    rw [htxns] at h
    have hfirst := comparable_of_foldlM_later h
    have hall : ∀ tx ∈ first :: rest, first.timestamp.Comparable tx.timestamp := by
      intro tx htx
      rcases List.mem_cons.mp htx with rfl | htx
      · rfl
      · exact hfirst tx htx
    intro a ha b hb
    exact (hall a ha).symm.trans (hall b hb)

/-- The transactions of the window. -/
def visits (store : GraphStore) (start : Option ℤ) : List ObservedTransaction :=
  store.txns.filter (fun tx => InWindow start tx.timestamp)

theorem mem_visits {store : GraphStore} {start : Option ℤ} {tx : ObservedTransaction} :
    tx ∈ store.visits start ↔ tx ∈ store.txns ∧ InWindow start tx.timestamp := by
  simp [visits]

/-- The graph answers a query about this window, which starts at this instant. -/
structure Scoped (store : GraphStore) (windowDays : Option ℤ) (start : Option ℤ) : Prop where
  projected : store.Projected
  sameKind : store.SameKind
  cutoff : ∃ cut, store.cutoff windowDays = .ok cut ∧ cut.map DateTime.instant = start ∧
    ∀ d ∈ cut, ∀ tx ∈ store.txns, d.Comparable tx.timestamp

/-- A comprehension over a property and the window. -/
theorem filterPy_le {store : GraphStore} {cut : DateTime} {p : ObservedTransaction → Prop}
    [DecidablePred p] (h : ∀ tx ∈ store.txns, cut.Comparable tx.timestamp) :
    filterPy (fun tx => if p tx then cut.le tx.timestamp else return false) store.txns =
      .ok ((store.visits (some cut.instant)).filter (fun tx => p tx)) := by
  rw [visits, List.filter_filter]
  refine filterPy_ok ?_
  intro tx htx
  rw [DateTime.le_ok (h tx htx)]
  by_cases hp : p tx
  · simp [hp]
  · simp only [hp, if_false]
    rfl

variable {store : GraphStore} {windowDays start : Option ℤ}

theorem Scoped.scopedMerchants (h : store.Scoped windowDays start) (c : ℤ) :
    store.scopedMerchants c windowDays =
      .ok (((store.visits start).filter (fun tx => tx.ccNum = c)).map
        (fun tx => tx.merchant)).toFinset := by
  obtain ⟨cut, hcut, rfl, hcomparable⟩ := h.cutoff
  rw [GraphStore.scopedMerchants, hcut, Py.ok_bind]
  cases cut with
  | none =>
    simp only [visits, Option.map_none, inWindow_none, decide_true, List.filter_true,
      h.projected.customerMerchants]
    rfl
  | some cut =>
    simp only [Option.map_some]
    rw [filterPy_le (hcomparable cut rfl), Py.ok_bind]
    rfl

theorem Scoped.scopedCustomers (h : store.Scoped windowDays start) (m : String) :
    store.scopedCustomers m windowDays =
      .ok (((store.visits start).filter (fun tx => tx.merchant = m)).map
        (fun tx => tx.ccNum)).toFinset := by
  obtain ⟨cut, hcut, rfl, hcomparable⟩ := h.cutoff
  rw [GraphStore.scopedCustomers, hcut, Py.ok_bind]
  cases cut with
  | none =>
    simp only [visits, Option.map_none, inWindow_none, decide_true, List.filter_true,
      h.projected.merchantCustomers]
    rfl
  | some cut =>
    simp only [Option.map_some]
    rw [filterPy_le (hcomparable cut rfl), Py.ok_bind]
    rfl

theorem Scoped.edgeVolume (h : store.Scoped windowDays start) (c : ℤ) (m : String) :
    store.edgeVolume c m windowDays =
      .ok (((store.visits start).filter (fun tx => tx.ccNum = c ∧ tx.merchant = m)).map
        (fun tx => tx.amount)).sum := by
  obtain ⟨cut, hcut, rfl, hcomparable⟩ := h.cutoff
  rw [GraphStore.edgeVolume, hcut, Py.ok_bind]
  cases cut with
  | none =>
    have hall : ∀ tx ∈ store.txns,
        (if tx.ccNum = c ∧ tx.merchant = m then (return true) else return false : Py Bool) =
          .ok (decide (tx.ccNum = c ∧ tx.merchant = m)) := by
      intro tx _
      by_cases hp : tx.ccNum = c ∧ tx.merchant = m
      · rw [if_pos hp, decide_eq_true hp]
        rfl
      · rw [if_neg hp, decide_eq_false hp]
        rfl
    simp only [Option.map_none]
    rw [filterPy_ok hall, Py.ok_bind]
    simp only [visits, inWindow_none, decide_true, List.filter_true]
    rfl
  | some cut =>
    simp only [Option.map_some]
    rw [filterPy_le (hcomparable cut rfl), Py.ok_bind]
    rfl

/-- The events of a merchant in the window. -/
def windowEvents (store : GraphStore) (start : Option ℤ) (m : String) :
    List (DateTime × ℤ × String) :=
  ((store.visits start).filter (fun tx => tx.merchant = m)).map ObservedTransaction.event

/-- The events of others with one of this customer's close to them. -/
def closeEvents (ccNum : ℤ) (events : List (DateTime × ℤ × String)) :
    List (DateTime × ℤ × String) :=
  events.filter (fun event => event.2.1 ≠ ccNum ∧
    events.any (fun own =>
      own.2.1 = ccNum ∧ |own.1.instant - event.1.instant| ≤ coOccurrenceWindow))

theorem isBefore_ok {cut : Option DateTime} {timestamp : DateTime}
    (h : ∀ d ∈ cut, d.Comparable timestamp) :
    isBefore cut timestamp = .ok (!decide (InWindow (cut.map DateTime.instant) timestamp)) := by
  cases cut with
  | none =>
    simp only [Option.map_none, inWindow_none, decide_true]
    rfl
  | some cut =>
    have hcut := (h cut rfl).symm
    simp only [isBefore, Option.map_some, DateTime.lt_ok hcut, inWindow_some]
    congr 1
    rw [← decide_not]
    simp only [not_le]

theorem coOccurs_ok {cut : Option DateTime} {ccNum : ℤ} {events : List (DateTime × ℤ × String)}
    (hcut : ∀ d ∈ cut, ∀ event ∈ events, d.Comparable event.1)
    (hsame : ∀ a ∈ events, ∀ b ∈ events, a.1.Comparable b.1)
    {event : DateTime × ℤ × String} (hevent : event ∈ events) :
    coOccurs cut ccNum events event =
      .ok ((event.2.1 ≠ ccNum ∧ InWindow (cut.map DateTime.instant) event.1) &&
        events.any (fun own => (own.2.1 = ccNum ∧ InWindow (cut.map DateTime.instant) own.1) &&
          |own.1.instant - event.1.instant| ≤ coOccurrenceWindow)) := by
  unfold coOccurs
  dsimp only
  by_cases hown : event.2.1 = ccNum
  · rw [if_pos hown]
    simp only [hown, ne_eq, not_true_eq_false, false_and, decide_false, Bool.false_and]
    rfl
  · rw [if_neg hown, isBefore_ok (fun d hd => hcut d hd event hevent), Py.ok_bind]
    by_cases hin : InWindow (cut.map DateTime.instant) event.1
    · simp only [hin, hown, decide_true, Bool.not_true, Bool.false_eq_true, if_false, ne_eq,
        not_false_eq_true, and_self, Bool.true_and]
      refine anyPy_ok ?_
      intro own hmem
      by_cases hother : own.2.1 = ccNum
      · rw [if_neg (not_not.mpr hother), isBefore_ok (fun d hd => hcut d hd own hmem), Py.ok_bind]
        by_cases hownIn : InWindow (cut.map DateTime.instant) own.1
        · simp only [hownIn, decide_true, Bool.not_true, Bool.false_eq_true, if_false, hother,
            and_self, Bool.true_and, DateTime.sub_ok (hsame own hmem event hevent), Py.ok_bind]
          rfl
        · simp only [hownIn, decide_false, Bool.not_false, if_true, and_false, Bool.false_and]
          rfl
      · rw [if_pos hother]
        simp only [hother, false_and, decide_false, Bool.false_and]
        rfl
    · simp only [hin, decide_false, Bool.not_false, if_true, and_false, Bool.false_and]
      rfl

/-- An event of a merchant is that of a transaction. -/
theorem Projected.exists_of_mem_merchantEvents (h : store.Projected) {m : String}
    {event : DateTime × ℤ × String} (hevent : event ∈ store.merchantEvents m) :
    ∃ tx ∈ store.txns, tx.timestamp = event.1 := by
  rw [h.merchantEvents m] at hevent
  obtain ⟨tx, htx, rfl⟩ := List.mem_map.mp hevent
  exact ⟨tx, (List.mem_filter.mp htx).1, rfl⟩

theorem Projected.windowEvents_eq (h : store.Projected) (start : Option ℤ) (m : String) :
    store.windowEvents start m =
      (store.merchantEvents m).filter (fun event => InWindow start event.1) := by
  rw [windowEvents, visits, h.merchantEvents m, List.filter_map, List.filter_filter,
    List.filter_filter]
  congr 1
  refine List.filter_congr ?_
  intro tx _
  rw [Bool.and_comm]
  rfl

/-- The co-occurrences at a merchant depend on its events in the window. -/
theorem Scoped.filterPy_coOccurs (h : store.Scoped windowDays start) (c : ℤ) (m : String)
    {cut : Option DateTime} (hcut : store.cutoff windowDays = .ok cut) :
    filterPy (coOccurs cut c (store.merchantEvents m)) (store.merchantEvents m) =
      .ok (closeEvents c (store.windowEvents start m)) := by
  obtain ⟨found, hfound, rfl, hcomparable⟩ := h.cutoff
  rw [hcut] at hfound
  cases hfound
  have hcutEvents : ∀ d ∈ cut, ∀ event ∈ store.merchantEvents m, d.Comparable event.1 := by
    intro d hd event hevent
    obtain ⟨tx, htx, heq⟩ := h.projected.exists_of_mem_merchantEvents hevent
    rw [← heq]
    exact hcomparable d hd tx htx
  have hsame : ∀ a ∈ store.merchantEvents m, ∀ b ∈ store.merchantEvents m,
      a.1.Comparable b.1 := by
    intro a ha b hb
    obtain ⟨first, hfirst, heq⟩ := h.projected.exists_of_mem_merchantEvents ha
    obtain ⟨second, hsecond, heq'⟩ := h.projected.exists_of_mem_merchantEvents hb
    rw [← heq, ← heq']
    exact h.sameKind first hfirst second hsecond
  rw [filterPy_ok (fun event hevent => coOccurs_ok hcutEvents hsame hevent)]
  rw [h.projected.windowEvents_eq, closeEvents, List.filter_filter]
  congr 1
  refine List.filter_congr ?_
  intro event _
  simp only [List.any_filter]
  by_cases hown : event.2.1 = c
  · simp [hown]
  · by_cases hevent : InWindow (cut.map DateTime.instant) event.1
    · simp only [hown, hevent, ne_eq, not_false_eq_true, and_self, decide_true, Bool.true_and,
        true_and, Bool.and_true, Bool.decide_eq_true]
      congr 1
      funext own
      by_cases hother : own.2.1 = c <;>
        by_cases hin : InWindow (cut.map DateTime.instant) own.1 <;> simp [hother, hin]
    · simp [hevent]

theorem scoped_none (hprojected : store.Projected) (hsame : store.SameKind) :
    store.Scoped none none where
  projected := hprojected
  sameKind := hsame
  cutoff := ⟨none, rfl, rfl, by simp⟩

theorem cutoff_some {days : ℤ} {last : ObservedTransaction} (hsame : store.SameKind)
    (hlast : last ∈ store.txns.argmax ObservedTransaction.instant) :
    store.cutoff (some days) =
      (do return some (← last.timestamp.addMicros (-(days * DateTime.microsPerDay)))) := by
  unfold cutoff
  dsimp only
  rw [latest_ok hsame hlast, Py.ok_bind]

/-- A window that starts outside the calendar raises, whatever it ends with. -/
theorem cutoff_raises {days : ℤ} {last : ObservedTransaction} (hsame : store.SameKind)
    (hlast : last ∈ store.txns.argmax ObservedTransaction.instant)
    (hcalendar : ¬ DateTime.InCalendar (last.timestamp.wall - days * DateTime.microsPerDay)) :
    store.cutoff (some days) = .error (.overflowError "date value out of range") := by
  rw [cutoff_some hsame hlast, DateTime.addMicros_error hcalendar]
  rfl

theorem scoped_some {days : ℤ} {last : ObservedTransaction} (hprojected : store.Projected)
    (hsame : store.SameKind) (hlast : last ∈ store.txns.argmax ObservedTransaction.instant)
    (hcalendar : DateTime.InCalendar (last.timestamp.wall - days * DateTime.microsPerDay)) :
    store.Scoped (some days) (some (last.instant - days * DateTime.microsPerDay)) where
  projected := hprojected
  sameKind := hsame
  cutoff := by
    have hcutoff : store.cutoff (some days) = _ := cutoff_some hsame hlast
    rw [DateTime.addMicros_ok hcalendar, Py.ok_bind] at hcutoff
    refine ⟨_, hcutoff, ?_, ?_⟩
    · simp only [Option.map_some, DateTime.instant, ObservedTransaction.instant]
      congr 1
      omega
    · intro d hd tx htx
      cases hd
      exact hsame last (List.argmax_mem hlast) tx htx

/-- Two graphs agree on a region whose transactions in the window are the same in both,
and where no transaction of the window leads out of the region. -/
theorem agree_of_visits {other : GraphStore} {start' : Option ℤ} {customers : Set ℤ}
    {merchants : Set String} (h : store.Scoped windowDays start)
    (h' : other.Scoped windowDays start')
    (hcustomers : ∀ c ∈ customers, (store.visits start).filter (fun tx => tx.ccNum = c) =
      (other.visits start').filter (fun tx => tx.ccNum = c))
    (hmerchants : ∀ m ∈ merchants, (store.visits start).filter (fun tx => tx.merchant = m) =
      (other.visits start').filter (fun tx => tx.merchant = m))
    (hregion : ∀ tx ∈ store.visits start, tx.ccNum ∈ customers ↔ tx.merchant ∈ merchants)
    (hflags : ∀ c ∈ customers, store.isFlagged c = other.isFlagged c) :
    Agree store other windowDays customers merchants where
  scopedMerchants := by
    intro c hc
    rw [h.scopedMerchants, h'.scopedMerchants, ← hcustomers c hc]
    refine .ok ?_
    intro m hm
    obtain ⟨tx, htx, rfl⟩ := List.mem_map.mp (List.mem_toFinset.mp hm)
    obtain ⟨htx, heq⟩ := List.mem_filter.mp htx
    rw [decide_eq_true_eq] at heq
    exact (hregion tx htx).mp (by rw [heq]; exact hc)
  scopedCustomers := by
    intro m hm
    rw [h.scopedCustomers, h'.scopedCustomers, ← hmerchants m hm]
    refine .ok ?_
    intro c hc
    obtain ⟨tx, htx, rfl⟩ := List.mem_map.mp (List.mem_toFinset.mp hc)
    obtain ⟨htx, heq⟩ := List.mem_filter.mp htx
    rw [decide_eq_true_eq] at heq
    exact (hregion tx htx).mpr (by rw [heq]; exact hm)
  edgeVolume := by
    intro c hc m
    have hedge : ∀ txs : List ObservedTransaction,
        txs.filter (fun tx => tx.ccNum = c ∧ tx.merchant = m) =
          (txs.filter (fun tx => tx.ccNum = c)).filter (fun tx => tx.merchant = m) := by
      intro txs
      rw [List.filter_filter]
      refine List.filter_congr ?_
      intro tx _
      rw [Bool.decide_and, Bool.and_comm]
    rw [h.edgeVolume, h'.edgeVolume, hedge, hedge, hcustomers c hc]
    exact .ok trivial
  coOccurrence := by
    intro c hc found hfound
    obtain ⟨cut, hcut, -, -⟩ := h.cutoff
    obtain ⟨cut', hcut', -, -⟩ := h'.cutoff
    rw [GraphStore.coOccurrence, GraphStore.coOccurrence, hcut, hcut', Py.ok_bind, Py.ok_bind]
    refine .foldlM trivial ?_
    intro count _ m hm
    dsimp only
    have hm := hfound m ((Finset.mem_sort _).mp hm)
    rw [h.filterPy_coOccurs c m hcut, h'.filterPy_coOccurs c m hcut', windowEvents, windowEvents,
      hmerchants m hm]
    exact .ok trivial
  isFlagged := hflags

end GraphStore

end VeriPay.GraphEngine
