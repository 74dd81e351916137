import Mathlib.Logic.Relation
import VeriPay.GraphEngine.Totality

/-!
What a transaction of somebody else does to a customer's network context. The
window ends with the latest transaction of the whole graph, so a later transaction
moves it for everybody; the context of a customer stays as it was as long as
nothing of the customer's community leaves the window.
-/

namespace VeriPay.GraphEngine

open Lib

/-- Two customers with a merchant in common among these transactions. -/
def SharesMerchant (visits : List ObservedTransaction) (a b : ℤ) : Prop :=
  ∃ x ∈ visits, ∃ y ∈ visits, x.ccNum = a ∧ y.ccNum = b ∧ x.merchant = y.merchant

/-- The customer's community: a chain of shared merchants leads to its members. -/
def Linked (visits : List ObservedTransaction) : ℤ → ℤ → Prop :=
  Relation.ReflTransGen (SharesMerchant visits)

namespace GraphStore

/-- A new transaction of another customer, who has no other, at a merchant without any. -/
structure Unrelated (store : GraphStore) (customer : ℤ) (tx : ObservedTransaction) : Prop where
  fresh : store.knows tx.transactionId = false
  otherCustomer : customer ≠ tx.ccNum
  newCustomer : ∀ known ∈ store.txns, known.ccNum ≠ tx.ccNum
  newMerchant : ∀ known ∈ store.txns, known.merchant ≠ tx.merchant
  comparable : ∀ known ∈ store.txns, known.timestamp.Comparable tx.timestamp

/-- The start of the window that ends with this transaction. -/
def windowStart (last : ObservedTransaction) (days : ℤ) : ℤ :=
  last.instant - days * DateTime.microsPerDay

def WindowInCalendar (last : ObservedTransaction) (days : ℤ) : Prop :=
  DateTime.InCalendar (last.timestamp.wall - days * DateTime.microsPerDay)

/-- The transaction moves nothing of the customer's community out of the window: no
window is asked for, the transaction is not the latest, neither window is one of the
calendar, or what was in the window stays in the moved one. -/
def KeepsWindow (store : GraphStore) (customer : ℤ) (tx : ObservedTransaction) :
    Option ℤ → Prop
  | none => True
  | some days =>
    (∃ known ∈ store.txns, tx.instant ≤ known.instant) ∨
      ∃ last ∈ store.txns.argmax ObservedTransaction.instant,
        (¬ WindowInCalendar last days ∧ ¬ WindowInCalendar tx days) ∨
          (WindowInCalendar last days ∧ WindowInCalendar tx days ∧
            ∀ visit ∈ store.visits (some (windowStart last days)),
              Linked (store.visits (some (windowStart last days))) customer visit.ccNum →
                windowStart tx days ≤ visit.instant)

/-- The transaction is the latest, and it moves the window out of the calendar or into
it, or away from all the customer's visits to one of the merchants. -/
def LosesWindow (store : GraphStore) (customer : ℤ) (tx : ObservedTransaction) :
    Option ℤ → Prop
  | none => False
  | some days =>
    ∃ last ∈ store.txns.argmax ObservedTransaction.instant, last.instant < tx.instant ∧
      (¬ (WindowInCalendar last days ↔ WindowInCalendar tx days) ∨
        (WindowInCalendar last days ∧ WindowInCalendar tx days ∧
          ∃ visit ∈ store.visits (some (windowStart last days)), visit.ccNum = customer ∧
            ∀ other ∈ store.txns, other.ccNum = customer → other.merchant = visit.merchant →
              other.instant < windowStart tx days))

variable {store : GraphStore} {customer : ℤ} {tx : ObservedTransaction}
  {windowDays start start' : Option ℤ}

theorem Unrelated.linked_ne (h : store.Unrelated customer tx) {member : ℤ}
    (hlinked : Linked (store.visits start) customer member) : member ≠ tx.ccNum := by
  cases hlinked with
  | refl => exact h.otherCustomer
  | tail _ hlast =>
    obtain ⟨-, -, visit, hvisit, -, rfl, -⟩ := hlast
    exact h.newCustomer visit (mem_visits.mp hvisit).1

/-- Whoever shares a merchant with the community belongs to it. -/
theorem linked_of_sameMerchant {visits : List ObservedTransaction}
    {visit other : ObservedTransaction} (hlinked : Linked visits customer visit.ccNum)
    (hvisit : visit ∈ visits) (hother : other ∈ visits) (h : visit.merchant = other.merchant) :
    Linked visits customer other.ccNum :=
  hlinked.tail ⟨visit, hvisit, other, hother, rfl, rfl, h⟩

/-- A property of the transactions already known reads the same off the new window. -/
theorem Unrelated.filter_visits (h : store.Unrelated customer tx)
    {p : ObservedTransaction → Prop} [DecidablePred p] (htx : ¬ p tx)
    (hsame : ∀ known ∈ store.txns, p known →
      (InWindow start known.timestamp ↔ InWindow start' known.timestamp)) :
    (store.visits start).filter (fun known => p known) =
      ((store.observe tx).visits start').filter (fun known => p known) := by
  have hlast : [tx].filter (fun known => decide (p known) &&
      decide (InWindow start' known.timestamp)) = [] := by simp [htx]
  rw [visits, visits, observe_new h.fresh, List.filter_filter, List.filter_filter,
    List.filter_append, hlast, List.append_nil]
  refine List.filter_congr ?_
  intro known hknown
  by_cases hp : p known
  · simp only [hp, decide_true, Bool.true_and, hsame known hknown hp]
  · simp only [hp, decide_false, Bool.false_and]

/-- The two graphs agree on the community when its visits stay in a window that only
got shorter. -/
theorem Unrelated.agree (h : store.Unrelated customer tx) (hscoped : store.Scoped windowDays start)
    (hscoped' : (store.observe tx).Scoped windowDays start')
    (hshorter : ∀ known ∈ store.txns, InWindow start' known.timestamp →
      InWindow start known.timestamp)
    (hkeep : ∀ visit ∈ store.visits start, Linked (store.visits start) customer visit.ccNum →
      InWindow start' visit.timestamp) :
    Agree store (store.observe tx) windowDays
      {member | Linked (store.visits start) customer member}
      {merchant | ∃ visit ∈ store.visits start, visit.merchant = merchant ∧
        Linked (store.visits start) customer visit.ccNum} := by
  refine agree_of_visits hscoped hscoped' ?_ ?_ ?_ ?_
  · intro member hmember
    refine h.filter_visits (h.linked_ne hmember).symm ?_
    intro known hknown heq
    constructor
    · intro hin
      exact hkeep known (mem_visits.mpr ⟨hknown, hin⟩) (by rw [heq]; exact hmember)
    · exact hshorter known hknown
  · intro merchant hmerchant
    obtain ⟨visit, hvisit, rfl, hlinked⟩ := hmerchant
    refine h.filter_visits (h.newMerchant visit (mem_visits.mp hvisit).1).symm ?_
    intro known hknown heq
    constructor
    · intro hin
      have hmem := mem_visits.mpr ⟨hknown, hin⟩
      exact hkeep known hmem (linked_of_sameMerchant hlinked hvisit hmem heq.symm)
    · exact hshorter known hknown
  · intro visit hvisit
    constructor
    · intro hlinked
      exact ⟨visit, hvisit, rfl, hlinked⟩
    · intro hmerchant
      obtain ⟨other, hother, heq, hlinked⟩ := hmerchant
      exact linked_of_sameMerchant hlinked hother hvisit heq
  · intro member hmember
    rw [Bool.eq_iff_iff, isFlagged_observe]
    constructor
    · exact Or.inl
    · intro hflagged
      rcases hflagged with hflagged | ⟨heq, -, -⟩
      · exact hflagged
      · exact absurd heq (h.linked_ne hmember)

theorem Unrelated.sameKind (h : store.Unrelated customer tx) : store.SameKind :=
  fun a ha b hb => (h.comparable a ha).trans (h.comparable b hb).symm

theorem Unrelated.sameKind_observe (h : store.Unrelated customer tx) :
    (store.observe tx).SameKind := by
  have hall : ∀ known ∈ (store.observe tx).txns, known.timestamp.Comparable tx.timestamp := by
    intro known hknown
    rw [observe_new h.fresh] at hknown
    rcases List.mem_append.mp hknown with hknown | hknown
    · exact h.comparable known hknown
    · rw [List.mem_singleton.mp hknown]
      rfl
  exact fun a ha b hb => (hall a ha).trans (hall b hb).symm

/-- A transaction that is not the latest leaves the latest as it is. -/
theorem Unrelated.argmax_of_le (h : store.Unrelated customer tx) {last : ObservedTransaction}
    (hlast : last ∈ store.txns.argmax ObservedTransaction.instant)
    (hle : tx.instant ≤ last.instant) :
    last ∈ (store.observe tx).txns.argmax ObservedTransaction.instant := by
  rw [observe_new h.fresh, List.argmax_concat, hlast]
  exact if_neg (not_lt.mpr hle)

theorem Unrelated.argmax_of_lt (h : store.Unrelated customer tx) {last : ObservedTransaction}
    (hlast : last ∈ store.txns.argmax ObservedTransaction.instant)
    (hlt : last.instant < tx.instant) :
    tx ∈ (store.observe tx).txns.argmax ObservedTransaction.instant := by
  rw [observe_new h.fresh, List.argmax_concat, hlast]
  exact if_pos hlt

theorem networkContext_error {e : PyErr} (h : store.cutoff windowDays = .error e) :
    store.networkContext customer windowDays = .error e := by
  have hfeatures : store.features customer windowDays = .error e := by
    rw [features, scopedMerchants, h]
    rfl
  rw [networkContext, networkRiskScore, hfeatures]
  rfl

theorem linked_refl (visits : List ObservedTransaction) (customer : ℤ) :
    Linked visits customer customer := Relation.ReflTransGen.refl

/-- An unrelated transaction within the window, or before it, changes nothing. -/
theorem Unrelated.networkContext_of_le {days : ℤ} (h : store.Unrelated customer tx)
    (hprojected : store.Projected) {last : ObservedTransaction}
    (hlast : last ∈ store.txns.argmax ObservedTransaction.instant)
    (hle : tx.instant ≤ last.instant) :
    (store.observe tx).networkContext customer (some days) =
      store.networkContext customer (some days) := by
  have hlast' := h.argmax_of_le hlast hle
  by_cases hcalendar : WindowInCalendar last days
  · have hscoped := scoped_some hprojected h.sameKind hlast hcalendar
    have hscoped' := scoped_some (hprojected.observe tx) h.sameKind_observe hlast' hcalendar
    have hagree := h.agree hscoped hscoped' (fun _ _ hin => hin)
      (fun visit hvisit _ => (mem_visits.mp hvisit).2)
    exact (hagree.networkContext (linked_refl _ customer)).eq.symm
  · rw [networkContext_error (cutoff_raises h.sameKind_observe hlast' hcalendar),
      networkContext_error (cutoff_raises h.sameKind hlast hcalendar)]

/-- An unrelated transaction that is the latest changes nothing when the community's
visits stay in the window it moves. -/
theorem Unrelated.networkContext_of_lt {days : ℤ} (h : store.Unrelated customer tx)
    (hprojected : store.Projected) {last : ObservedTransaction}
    (hlast : last ∈ store.txns.argmax ObservedTransaction.instant)
    (hlt : last.instant < tx.instant) (hcalendar : WindowInCalendar last days)
    (hcalendar' : WindowInCalendar tx days)
    (hkeep : ∀ visit ∈ store.visits (some (windowStart last days)),
      Linked (store.visits (some (windowStart last days))) customer visit.ccNum →
        windowStart tx days ≤ visit.instant) :
    (store.observe tx).networkContext customer (some days) =
      store.networkContext customer (some days) := by
  have hscoped := scoped_some hprojected h.sameKind hlast hcalendar
  have hscoped' := scoped_some (hprojected.observe tx) h.sameKind_observe
    (h.argmax_of_lt hlast hlt) hcalendar'
  have hagree := h.agree hscoped hscoped' ?_ ?_
  · exact (hagree.networkContext (linked_refl _ customer)).eq.symm
  · intro known _ hin
    rw [inWindow_some] at hin ⊢
    omega
  · intro visit hvisit hlinked
    rw [inWindow_some]
    exact hkeep visit hvisit hlinked

theorem Unrelated.networkContext_of_keepsWindow (h : store.Unrelated customer tx)
    (hprojected : store.Projected) (hkeep : store.KeepsWindow customer tx windowDays) :
    (store.observe tx).networkContext customer windowDays =
      store.networkContext customer windowDays := by
  cases windowDays with
  | none =>
    have hagree := h.agree (scoped_none hprojected h.sameKind)
      (scoped_none (hprojected.observe tx) h.sameKind_observe) (fun _ _ hin => hin)
      (fun visit _ _ => inWindow_none visit.timestamp)
    exact (hagree.networkContext (linked_refl _ customer)).eq.symm
  | some days =>
    rcases hkeep with ⟨known, hknown, hle⟩ | ⟨last, hlast, hwindow⟩
    · cases hlast : store.txns.argmax ObservedTransaction.instant with
      | none =>
        rw [List.argmax_eq_none.mp hlast] at hknown
        cases hknown
      | some last =>
        exact h.networkContext_of_le hprojected hlast
          (hle.trans (List.le_of_mem_argmax hknown hlast))
    · rcases le_or_gt tx.instant last.instant with hle | hlt
      · exact h.networkContext_of_le hprojected hlast hle
      · rcases hwindow with ⟨hbefore, hafter⟩ | ⟨hbefore, hafter, hvisits⟩
        · rw [networkContext_error
              (cutoff_raises h.sameKind_observe (h.argmax_of_lt hlast hlt) hafter),
            networkContext_error (cutoff_raises h.sameKind hlast hbefore)]
        · exact h.networkContext_of_lt hprojected hlast hlt hbefore hafter hvisits

/-- The context tells the number of the customer's merchants. -/
theorem merchantDegree_of_features_ok {f : NodeFeatures}
    (h : store.features customer windowDays = .ok f) :
    ∃ found, store.scopedMerchants customer windowDays = .ok found ∧
      f.merchantDegree = found.card := by
  obtain ⟨found, hfound, hrest⟩ := Py.bind_eq_ok.mp h
  refine ⟨found, hfound, ?_⟩
  by_cases hempty : found = ∅
  · rw [if_pos hempty] at hrest
    cases hrest
    rw [hempty]
    rfl
  · rw [if_neg hempty] at hrest
    obtain ⟨⟨peers, fanIn⟩, -, hrest⟩ := Py.bind_eq_ok.mp hrest
    obtain ⟨count, -, hrest⟩ := Py.bind_eq_ok.mp hrest
    obtain ⟨⟨size, ratio⟩, -, hrest⟩ := Py.bind_eq_ok.mp hrest
    cases hrest
    rfl

theorem features_of_networkContext_ok {context : JsonObj}
    (h : store.networkContext customer windowDays = .ok context) :
    ∃ f, store.features customer windowDays = .ok f ∧
      context.get? "features" = some (.obj f.fields) := by
  obtain ⟨score, -, hrest⟩ := Py.bind_eq_ok.mp h
  obtain ⟨findings, -, hrest⟩ := Py.bind_eq_ok.mp hrest
  obtain ⟨f, hf, hrest⟩ := Py.bind_eq_ok.mp hrest
  obtain ⟨ego, -, hrest⟩ := Py.bind_eq_ok.mp hrest
  cases hrest
  exact ⟨f, hf, by simp⟩

/-- Two graphs with the same context for a customer see as many merchants of it. -/
theorem card_scopedMerchants_of_same {other : GraphStore} {found found' : Finset String}
    (hsame : other.networkContext customer windowDays = store.networkContext customer windowDays)
    (hreturns : ∃ context, store.networkContext customer windowDays = .ok context)
    (hfound : store.scopedMerchants customer windowDays = .ok found)
    (hfound' : other.scopedMerchants customer windowDays = .ok found') :
    found'.card = found.card := by
  obtain ⟨context, hcontext⟩ := hreturns
  obtain ⟨f, hf, hget⟩ := features_of_networkContext_ok hcontext
  obtain ⟨f', hf', hget'⟩ := features_of_networkContext_ok (hsame.trans hcontext)
  obtain ⟨merchants, hmerchants, hdegree⟩ := merchantDegree_of_features_ok hf
  obtain ⟨merchants', hmerchants', hdegree'⟩ := merchantDegree_of_features_ok hf'
  rw [hfound] at hmerchants
  cases hmerchants
  rw [hfound'] at hmerchants'
  cases hmerchants'
  rw [hget] at hget'
  have hfields := Json.obj.inj (Option.some.inj hget')
  have hint := Json.int.inj (Prod.mk.inj (List.cons.inj hfields).1).2
  omega

/-- A later transaction that leaves some merchant without a visit of the customer in
the window changes the context. -/
theorem Unrelated.networkContext_ne_of_lost {days : ℤ} (h : store.Unrelated customer tx)
    (hprojected : store.Projected) {last visit : ObservedTransaction}
    (hlast : last ∈ store.txns.argmax ObservedTransaction.instant)
    (hlt : last.instant < tx.instant) (hbefore : WindowInCalendar last days)
    (hafter : WindowInCalendar tx days)
    (hvisit : visit ∈ store.visits (some (windowStart last days)))
    (hcustomer : visit.ccNum = customer)
    (hgone : ∀ other ∈ store.txns, other.ccNum = customer → other.merchant = visit.merchant →
      other.instant < windowStart tx days) :
    (store.observe tx).networkContext customer (some days) ≠
      store.networkContext customer (some days) := by
  have hdefined : store.WindowDefined days := ⟨h.sameKind, last, hlast, hbefore⟩
  have hscoped := scoped_some hprojected h.sameKind hlast hbefore
  have hscoped' := scoped_some (hprojected.observe tx) h.sameKind_observe
    (h.argmax_of_lt hlast hlt) hafter
  have hknown : ∀ known ∈ (store.observe tx).txns, known.ccNum = customer →
      known ∈ store.txns := by
    intro known hknown hown
    rw [observe_new h.fresh] at hknown
    rcases List.mem_append.mp hknown with hknown | hknown
    · exact hknown
    · rw [List.mem_singleton.mp hknown] at hown
      exact absurd hown.symm h.otherCustomer
  intro hsame
  have hcard := card_scopedMerchants_of_same hsame (hdefined.answers hprojected customer).1
    (hscoped.scopedMerchants customer) (hscoped'.scopedMerchants customer)
  refine absurd hcard (Nat.ne_of_lt (Finset.card_lt_card ?_))
  rw [Finset.ssubset_iff_of_subset]
  · refine ⟨visit.merchant, ?_, ?_⟩
    · simp only [List.mem_toFinset, List.mem_map, List.mem_filter, decide_eq_true_eq]
      exact ⟨visit, ⟨hvisit, hcustomer⟩, rfl⟩
    · simp only [List.mem_toFinset, List.mem_map, List.mem_filter, decide_eq_true_eq, mem_visits,
        inWindow_some]
      intro hstill
      obtain ⟨known, ⟨⟨hmem, hin⟩, hown⟩, hmerchant⟩ := hstill
      have hleft := hgone known (hknown known hmem hown) hown hmerchant
      exact absurd hin (not_le.mpr hleft)
  · intro merchant
    simp only [List.mem_toFinset, List.mem_map, List.mem_filter, decide_eq_true_eq, mem_visits,
      inWindow_some]
    intro hmem
    obtain ⟨known, ⟨⟨hmem, hin⟩, hown⟩, hmerchant⟩ := hmem
    refine ⟨known, ⟨⟨hknown known hmem hown, ?_⟩, hown⟩, hmerchant⟩
    omega

theorem Unrelated.networkContext_ne_of_losesWindow (h : store.Unrelated customer tx)
    (hprojected : store.Projected) (hlose : store.LosesWindow customer tx windowDays) :
    (store.observe tx).networkContext customer windowDays ≠
      store.networkContext customer windowDays := by
  cases windowDays with
  | none => exact False.elim hlose
  | some days =>
    obtain ⟨last, hlast, hlt, hwindow⟩ := hlose
    have hlast' := h.argmax_of_lt hlast hlt
    rcases hwindow with hcalendar | ⟨hbefore, hafter, visit, hvisit, hcustomer, hgone⟩
    · -- one of the two windows starts outside the calendar, and only its query raises
      intro hsame
      by_cases hbefore : WindowInCalendar last days
      · have hafter : ¬ WindowInCalendar tx days := by
          intro hin
          exact hcalendar ⟨fun _ => hin, fun _ => hbefore⟩
        have hdefined : store.WindowDefined days := ⟨h.sameKind, last, hlast, hbefore⟩
        obtain ⟨context, hcontext⟩ := (hdefined.answers hprojected customer).1
        rw [networkContext_error (cutoff_raises h.sameKind_observe hlast' hafter), hcontext]
          at hsame
        cases hsame
      · have hafter : WindowInCalendar tx days := by
          by_contra hout
          exact hcalendar ⟨fun hin => absurd hin hbefore, fun hin => absurd hin hout⟩
        have hdefined : (store.observe tx).WindowDefined days :=
          ⟨h.sameKind_observe, tx, hlast', hafter⟩
        obtain ⟨context, hcontext⟩ := (hdefined.answers (hprojected.observe tx) customer).1
        rw [networkContext_error (cutoff_raises h.sameKind hlast hbefore), hcontext] at hsame
        cases hsame
    · exact h.networkContext_ne_of_lost hprojected hlast hlt hbefore hafter hvisit hcustomer hgone

end GraphStore

open GraphStore

/-- After any history, an unrelated transaction leaves the context of a customer as it
was when the community keeps its window, and changes it when the window is lost. -/
theorem networkContext_observe_unrelated (txs : List ObservedTransaction) {customer : ℤ}
    {tx : ObservedTransaction} (windowDays : Option ℤ)
    (h : (observing txs).Unrelated customer tx) :
    ((observing txs).KeepsWindow customer tx windowDays →
      ((observing txs).observe tx).networkContext customer windowDays =
        (observing txs).networkContext customer windowDays) ∧
    ((observing txs).LosesWindow customer tx windowDays →
      ((observing txs).observe tx).networkContext customer windowDays ≠
        (observing txs).networkContext customer windowDays) := by
  constructor
  · exact h.networkContext_of_keepsWindow (projected_observing txs)
  · exact h.networkContext_ne_of_losesWindow (projected_observing txs)

/-- A customer's only visit. -/
def onlyVisit : ObservedTransaction where
  transactionId := "tx-1"
  ccNum := 1
  merchant := "m"
  amount := 10
  timestamp := .atHour true 100 12

/-- A visit of somebody else, elsewhere, on a later day. -/
def strangersVisit (day : ℤ) : ObservedTransaction where
  transactionId := "tx-2"
  ccNum := 2
  merchant := "n"
  amount := 10
  timestamp := .atHour true day 12

theorem txns_onlyVisit : (observing [onlyVisit]).txns = [onlyVisit] := rfl

theorem unrelated_strangersVisit (day : ℤ) :
    (observing [onlyVisit]).Unrelated 1 (strangersVisit day) where
  fresh := by
    rw [knows, txns_onlyVisit]
    simp [onlyVisit, strangersVisit]
  otherCustomer := by simp [strangersVisit]
  newCustomer := by
    rw [txns_onlyVisit]
    simp [onlyVisit, strangersVisit]
  newMerchant := by
    rw [txns_onlyVisit]
    simp [onlyVisit, strangersVisit]
  comparable := by
    rw [txns_onlyVisit]
    simp [onlyVisit, strangersVisit, DateTime.Comparable]

/-- The next day everything is still in the window. -/
theorem networkContext_strangersVisit_next_day :
    ((observing [onlyVisit]).observe (strangersVisit 101)).networkContext 1 =
      (observing [onlyVisit]).networkContext 1 := by
  refine (networkContext_observe_unrelated [onlyVisit] (some 30)
    (unrelated_strangersVisit 101)).1 (Or.inr ⟨onlyVisit, rfl, Or.inr ⟨?_, ?_, ?_⟩⟩)
  · unfold WindowInCalendar
    decide
  · unfold WindowInCalendar
    decide
  · intro visit hvisit _
    have hmem := (mem_visits.mp hvisit).1
    rw [txns_onlyVisit, List.mem_singleton] at hmem
    rw [hmem]
    decide

/-- Two months later the customer's own history is gone from the window. -/
theorem networkContext_strangersVisit_later :
    (∃ known ∈ (observing [onlyVisit]).txns, known.ccNum = 1) ∧
      (observing [onlyVisit]).Unrelated 1 (strangersVisit 160) ∧
      ((observing [onlyVisit]).observe (strangersVisit 160)).networkContext 1 ≠
        (observing [onlyVisit]).networkContext 1 := by
  refine ⟨⟨onlyVisit, List.mem_singleton_self onlyVisit, rfl⟩, unrelated_strangersVisit 160, ?_⟩
  have hlast : onlyVisit ∈ (observing [onlyVisit]).txns.argmax ObservedTransaction.instant := rfl
  have hvisit : onlyVisit ∈ (observing [onlyVisit]).visits (some (windowStart onlyVisit 30)) := by
    rw [mem_visits, txns_onlyVisit, inWindow_some]
    exact ⟨List.mem_singleton_self onlyVisit, by decide⟩
  refine (unrelated_strangersVisit 160).networkContext_ne_of_lost (projected_observing _) hlast
    ?_ ?_ ?_ hvisit rfl ?_
  · decide
  · unfold WindowInCalendar
    decide
  · unfold WindowInCalendar
    decide
  · intro other hother _ _
    rw [txns_onlyVisit, List.mem_singleton] at hother
    rw [hother]
    decide

end VeriPay.GraphEngine
