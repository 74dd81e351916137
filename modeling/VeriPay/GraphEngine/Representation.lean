import VeriPay.GraphEngine.ObservationOrder
import VeriPay.GraphEngine.Pictures

/-!
The graph as its transactions. Observing keeps the first transaction of each id and, of the
recorded ones, exactly the projections; so the queries that read the projections and those
that scan a window of the transactions answer alike once the window holds them all.
-/

namespace VeriPay.GraphEngine

open Lib

/-- The graph records the first transaction seen of each id, and projects what it records. -/
structure Represents (store : GraphStore) (txs : List ObservedTransaction) : Prop where
  first_seen : ∀ id, store.txns.find? (fun tx => tx.transactionId = id) =
    txs.find? (fun tx => tx.transactionId = id)
  ids_nodup : (store.txns.map ObservedTransaction.transactionId).Nodup
  projected : store.Projected
  events_nodup : ∀ m, ((store.merchantEvents m).map (fun event => event.2.2)).Nodup

/-- The queries about the customer without a window and with this one, each under its own
order of the sets, return and agree; the community graph does up to its listing. -/
structure WindowIrrelevant (store : GraphStore) (days : ℤ) (order order' : DrawOrder)
    (customer : ℤ) : Prop where
  features : ∃ f, order.features store customer none = .ok f ∧
    order'.features store customer (some days) = .ok f
  score : ∃ score, order.networkRiskScore store customer none = .ok score ∧
    order'.networkRiskScore store customer (some days) = .ok score
  findings : ∃ findings, order.findings store customer none = .ok findings ∧
    order'.findings store customer (some days) = .ok findings
  egoGraph : ∀ limit, ∃ ego, store.egoGraph customer none limit = .ok ego ∧
    store.egoGraph customer (some days) limit = .ok ego
  community : ∀ nodeLimit, ∃ overview, order.community store customer none nodeLimit =
      .ok overview ∧
    order'.community store customer (some days) nodeLimit = .ok overview
  communityGraph : ∀ nodeLimit, ∃ picture picture',
    order.communityGraph store customer none nodeLimit = .ok picture ∧
      order'.communityGraph store customer (some days) nodeLimit = .ok picture' ∧
      picture.nodes.Perm picture'.nodes ∧ picture.edges.Perm picture'.edges

namespace GraphStore

variable {store : GraphStore}

theorem find?_observe (store : GraphStore) (tx : ObservedTransaction) (id : String) :
    (store.observe tx).txns.find? (fun tx => tx.transactionId = id) =
      (store.txns.find? (fun tx => tx.transactionId = id)).or
        ([tx].find? (fun tx => tx.transactionId = id)) := by
  cases hknown : store.knows tx.transactionId with
  | true =>
    rw [observe_known hknown]
    by_cases hid : tx.transactionId = id
    · have hfound : (store.txns.find? (fun tx => tx.transactionId = id)).isSome := by
        rw [List.find?_isSome, ← List.any_eq_true, ← hid]
        exact hknown
      rw [Option.or_of_isSome hfound]
    · rw [List.find?_singleton, if_neg (by simpa using hid), Option.or_none]
  | false => rw [observe_new hknown, List.find?_append]

theorem find?_foldl (txs : List ObservedTransaction) (store : GraphStore) (id : String) :
    (txs.foldl observe store).txns.find? (fun tx => tx.transactionId = id) =
      (store.txns.find? (fun tx => tx.transactionId = id)).or
        (txs.find? (fun tx => tx.transactionId = id)) := by
  induction txs generalizing store with
  | nil => rw [List.foldl_nil, List.find?_nil, Option.or_none]
  | cons tx rest ih =>
    rw [List.foldl_cons, ih, find?_observe, Option.or_assoc, ← List.find?_append,
      List.singleton_append]

theorem nodup_foldl (txs : List ObservedTransaction)
    (h : (store.txns.map ObservedTransaction.transactionId).Nodup) :
    ((txs.foldl observe store).txns.map ObservedTransaction.transactionId).Nodup := by
  induction txs generalizing store with
  | nil => exact h
  | cons tx rest ih => exact ih (nodup_observe h tx)

theorem Projected.events_nodup (h : store.Projected)
    (hnodup : (store.txns.map ObservedTransaction.transactionId).Nodup) (m : String) :
    ((store.merchantEvents m).map (fun event => event.2.2)).Nodup := by
  rw [h.merchantEvents, List.map_map]
  exact hnodup.sublist (List.filter_sublist.map _)

theorem represents_observing (txs : List ObservedTransaction) :
    Represents (observing txs) txs where
  first_seen id := find?_foldl txs {} id
  ids_nodup := nodup_foldl txs List.nodup_nil
  projected := projected_observing txs
  events_nodup := (projected_observing txs).events_nodup (nodup_foldl txs List.nodup_nil)

/-- Only observed transactions are recorded. -/
theorem mem_of_mem_foldl {txs : List ObservedTransaction} {tx : ObservedTransaction}
    (h : tx ∈ (txs.foldl observe store).txns) : tx ∈ store.txns ∨ tx ∈ txs := by
  induction txs generalizing store with
  | nil => exact Or.inl h
  | cons first rest ih =>
    rcases ih h with hstored | hrest
    · cases hknown : store.knows first.transactionId with
      | true =>
        rw [observe_known hknown] at hstored
        exact Or.inl hstored
      | false =>
        rw [observe_new hknown, List.mem_append, List.mem_singleton] at hstored
        rcases hstored with hold | rfl
        · exact Or.inl hold
        · exact Or.inr List.mem_cons_self
    · exact Or.inr (List.mem_cons_of_mem _ hrest)

theorem sameKind_observing {txs : List ObservedTransaction} (h : AllComparable txs) :
    (observing txs).SameKind := by
  have hmem : ∀ tx ∈ (observing txs).txns, tx ∈ txs := fun tx htx =>
    (mem_of_mem_foldl htx).resolve_left List.not_mem_nil
  exact fun a ha b hb => h a (hmem a ha) b (hmem b hb)

/-- A window whose start can be told is one the queries answer about. -/
theorem scoped_of_cutoff {days : ℤ} {cut : DateTime} (hprojected : store.Projected)
    (hsame : store.SameKind) (hcut : store.cutoff (some days) = .ok (some cut)) :
    store.Scoped (some days) (some cut.instant) := by
  cases hlast : store.txns.argmax ObservedTransaction.instant with
  | none => exact scoped_of_nil hprojected (List.argmax_eq_none.mp hlast) hcut
  | some last =>
    have hmoved := hcut
    rw [cutoff_some hsame hlast] at hmoved
    obtain ⟨moved, hmoved, hsome⟩ := Py.bind_eq_ok.mp hmoved
    cases hsome
    have hscoped := scoped_some hprojected hsame hlast (DateTime.inCalendar_of_addMicros_ok hmoved)
    obtain ⟨cut', hcut', hstart, hcomparable⟩ := hscoped.cutoff
    rw [hcut] at hcut'
    cases hcut'
    exact ⟨hprojected, hsame, some cut, hcut, rfl, hcomparable⟩

/-- A window that holds every transaction reads what the projections say. -/
theorem readings_of_covering {start : ℤ} (h : ∀ tx ∈ store.txns, start ≤ tx.instant) :
    store.readings (some start) = store.readings none := by
  have hvisits : store.visits (some start) = store.visits none := by
    unfold visits
    refine List.filter_congr fun tx htx => ?_
    rw [decide_eq_true ((inWindow_some start tx.timestamp).mpr (h tx htx)),
      decide_eq_true (inWindow_none tx.timestamp)]
  unfold readings windowEvents
  rw [hvisits]

theorem windowIrrelevant {days : ℤ} {cut : DateTime} (hprojected : store.Projected)
    (hsame : store.SameKind) (hcut : store.cutoff (some days) = .ok (some cut))
    (hcovers : ∀ tx ∈ store.txns, cut.le tx.timestamp = .ok true) (order order' : DrawOrder)
    (customer : ℤ) : WindowIrrelevant store days order order' customer := by
  have hstart : ∀ tx ∈ store.txns, cut.instant ≤ tx.instant := by
    intro tx htx
    have hle := hcovers tx htx
    unfold DateTime.le at hle
    split_ifs at hle
    exact of_decide_eq_true (Except.ok.inj hle)
  have hreads := (scoped_none hprojected hsame).reads
  have hreads' := (scoped_of_cutoff hprojected hsame hcut).reads
  rw [readings_of_covering hstart] at hreads'
  constructor
  · exact ⟨_, hreads.features _ _, hreads'.features _ _⟩
  · exact ⟨_, hreads.networkRiskScore _ _, hreads'.networkRiskScore _ _⟩
  · exact ⟨_, hreads.findings _ _, hreads'.findings _ _⟩
  · exact fun limit => ⟨_, hreads.egoGraph _ _, hreads'.egoGraph _ _⟩
  · exact fun nodeLimit => ⟨_, hreads.community _ _ _, hreads'.community _ _ _⟩
  · intro nodeLimit
    obtain ⟨hnodes, hedges⟩ :=
      (store.readings none).communityGraph_perm order order' customer nodeLimit
    exact ⟨_, _, hreads.communityGraph _ _ _, hreads'.communityGraph _ _ _, hnodes, hedges⟩

end GraphStore

/-- Whatever was observed, the graph is the first transaction of each id and its projections,
and a window long enough for all of them changes no answer. -/
theorem representation (txs : List ObservedTransaction) (hcomparable : AllComparable txs) :
    Represents (GraphStore.observing txs) txs ∧
      ∀ days cut, (GraphStore.observing txs).cutoff (some days) = .ok (some cut) →
        (∀ tx ∈ (GraphStore.observing txs).txns, cut.le tx.timestamp = .ok true) →
          ∀ order order' customer,
            WindowIrrelevant (GraphStore.observing txs) days order order' customer :=
  ⟨GraphStore.represents_observing txs, fun _ _ hcut hcovers order order' customer =>
    GraphStore.windowIrrelevant (GraphStore.projected_observing txs)
      (GraphStore.sameKind_observing hcomparable) hcut hcovers order order' customer⟩

/-- A week holds both observations of the same midnight. -/
theorem representation_week :
    WindowIrrelevant (GraphStore.observing [inLondon, inAzores]) 7 DrawOrder.ascending
      DrawOrder.ascending 1 :=
  (representation [inLondon, inAzores] allComparable_two).2 7
    { wall := 23 * DateTime.microsPerDay, utcOffset := some 0 } (by decide) (by decide) _ _ 1

end VeriPay.GraphEngine
