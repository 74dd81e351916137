import VeriPay.GraphEngine.Readings
import VeriPay.GraphEngine.Windows

/-!
The graph does not remember the order of its observations. Two orders of the same
transactions leave the same transactions recorded, and a window of them reads the same.
Only the wall clock that the window is counted back from is that of the first of the
latest transactions.
-/

namespace VeriPay.GraphEngine

open Lib

namespace GraphStore

variable {store other : GraphStore} {windowDays start : Option ℤ}

/-- The readings of the transactions of a window. -/
def readings (store : GraphStore) (start : Option ℤ) : Readings where
  merchants c :=
    (((store.visits start).filter (fun tx => tx.ccNum = c)).map (fun tx => tx.merchant)).toFinset
  customers m :=
    (((store.visits start).filter (fun tx => tx.merchant = m)).map (fun tx => tx.ccNum)).toFinset
  volume c m := (((store.visits start).filter (fun tx => tx.ccNum = c ∧ tx.merchant = m)).map
    (fun tx => tx.amount)).sum
  close c m := (closeEvents c (store.windowEvents start m)).length
  flagged c := store.isFlagged c

theorem Scoped.reads (h : store.Scoped windowDays start) :
    Reads store windowDays (store.readings start) where
  scopedMerchants := h.scopedMerchants
  scopedCustomers := h.scopedCustomers
  edgeVolume := h.edgeVolume
  coOccurs := by
    obtain ⟨cutoff, hcutoff, -, -⟩ := h.cutoff
    exact ⟨cutoff, hcutoff, fun c m => ⟨_, h.filterPy_coOccurs c m hcutoff, rfl⟩⟩
  isFlagged := fun _ => rfl

theorem closeEvents_length_perm {events others : List (DateTime × ℤ × String)}
    (h : events.Perm others) (c : ℤ) :
    (closeEvents c events).length = (closeEvents c others).length := by
  have hany : ∀ p : DateTime × ℤ × String → Bool, events.any p = others.any p :=
    fun _ => h.any_eq
  unfold closeEvents
  simp only [hany]
  exact (h.filter _).length_eq

/-- The readings depend on the transactions, not on their order. -/
theorem readings_perm (hprojected : store.Projected) (hprojected' : other.Projected)
    (h : store.txns.Perm other.txns) (start : Option ℤ) :
    store.readings start = other.readings start := by
  have hvisits : (store.visits start).Perm (other.visits start) := h.filter _
  unfold readings
  congr 1
  · funext c
    exact List.toFinset_eq_of_perm _ _ ((hvisits.filter _).map _)
  · funext m
    exact List.toFinset_eq_of_perm _ _ ((hvisits.filter _).map _)
  · funext c m
    exact ((hvisits.filter _).map _).sum_eq
  · funext c m
    exact closeEvents_length_perm ((hvisits.filter _).map _) c
  · funext c
    rw [isFlagged, isFlagged, hprojected.flaggedCount, hprojected'.flaggedCount,
      (h.filter _).length_eq]

/-- The ids of the transactions recorded. -/
theorem nodup_observe (h : (store.txns.map ObservedTransaction.transactionId).Nodup)
    (tx : ObservedTransaction) :
    ((store.observe tx).txns.map ObservedTransaction.transactionId).Nodup := by
  cases hknown : store.knows tx.transactionId with
  | true => rwa [observe_known hknown]
  | false =>
    rw [observe_new hknown, List.map_append]
    refine h.append (List.nodup_singleton _) ?_
    intro id hid hnew
    obtain ⟨other, hother, rfl⟩ := List.mem_map.mp hid
    rw [List.map_singleton, List.mem_singleton] at hnew
    have hsome : store.knows tx.transactionId = true :=
      List.any_eq_true.mpr ⟨other, hother, decide_eq_true hnew⟩
    rw [hknown] at hsome
    cases hsome

end GraphStore

/-- Equal ids mean equal transactions. -/
def IdsDetermine (txs : List ObservedTransaction) : Prop :=
  ∀ a ∈ txs, ∀ b ∈ txs, a.transactionId = b.transactionId → a = b

/-- Any two of the timestamps can be compared. -/
def AllComparable (txs : List ObservedTransaction) : Prop :=
  ∀ a ∈ txs, ∀ b ∈ txs, a.timestamp.Comparable b.timestamp

/-- Nothing of the collection is later. -/
def IsLatest (txs : List ObservedTransaction) (tx : ObservedTransaction) : Prop :=
  tx ∈ txs ∧ ∀ other ∈ txs, other.instant ≤ tx.instant

/-- Counted back from the latest transactions, the window starts on a date of the calendar
for all of them or for none. -/
def WindowAgrees (txs : List ObservedTransaction) (windowDays : Option ℤ) : Prop :=
  ∀ days ∈ windowDays, ∀ a b, IsLatest txs a → IsLatest txs b →
    (DateTime.InCalendar (a.timestamp.wall - days * DateTime.microsPerDay) ↔
      DateTime.InCalendar (b.timestamp.wall - days * DateTime.microsPerDay))

namespace GraphStore

theorem txns_foldl (store : GraphStore) (txs : List ObservedTransaction)
    (hids : IdsDetermine (store.txns ++ txs))
    (hnodup : (store.txns.map ObservedTransaction.transactionId).Nodup) :
    ((txs.foldl observe store).txns.map ObservedTransaction.transactionId).Nodup ∧
      ∀ tx, tx ∈ (txs.foldl observe store).txns ↔ tx ∈ store.txns ∨ tx ∈ txs := by
  induction txs generalizing store with
  | nil => exact ⟨hnodup, by simp⟩
  | cons first rest ih =>
    have hrecorded : ∀ tx, tx ∈ (store.observe first).txns ↔ tx ∈ store.txns ∨ tx = first := by
      intro tx
      cases hknown : store.knows first.transactionId with
      | true =>
        obtain ⟨known, hmem, hid⟩ := List.any_eq_true.mp hknown
        have hsame : known = first := hids known (List.mem_append_left _ hmem) first
          (List.mem_append_right _ List.mem_cons_self) (of_decide_eq_true hid)
        rw [observe_known hknown]
        exact ⟨Or.inl, fun h => h.elim id fun heq => heq ▸ hsame ▸ hmem⟩
      | false => rw [observe_new hknown, List.mem_append, List.mem_singleton]
    have hrest : IdsDetermine ((store.observe first).txns ++ rest) := by
      have hwithin : ∀ tx ∈ (store.observe first).txns ++ rest,
          tx ∈ store.txns ++ first :: rest := by
        intro tx htx
        rw [List.mem_append, hrecorded] at htx
        rw [List.mem_append, List.mem_cons]
        tauto
      exact fun a ha b hb => hids a (hwithin a ha) b (hwithin b hb)
    obtain ⟨hdistinct, hmem⟩ := ih (store.observe first) hrest (nodup_observe hnodup first)
    refine ⟨hdistinct, ?_⟩
    intro tx
    rw [List.foldl_cons, hmem, hrecorded, List.mem_cons, or_assoc]

theorem mem_observing {txs : List ObservedTransaction} (hids : IdsDetermine txs)
    (tx : ObservedTransaction) : tx ∈ (observing txs).txns ↔ tx ∈ txs := by
  rw [observing, (txns_foldl {} txs hids List.nodup_nil).2]
  simp

/-- What is recorded of a collection does not depend on the order or on repetitions. -/
theorem txns_perm {txs txs' : List ObservedTransaction} (hsame : ∀ tx, tx ∈ txs ↔ tx ∈ txs')
    (hids : IdsDetermine txs) : (observing txs).txns.Perm (observing txs').txns := by
  have hids' : IdsDetermine txs' := fun a ha b hb =>
    hids a ((hsame a).mpr ha) b ((hsame b).mpr hb)
  have hnodup := (txns_foldl {} txs hids List.nodup_nil).1
  have hnodup' := (txns_foldl {} txs' hids' List.nodup_nil).1
  refine (List.perm_ext_iff_of_nodup hnodup.of_map hnodup'.of_map).mpr ?_
  intro tx
  exact (mem_observing hids tx).trans ((hsame tx).trans (mem_observing hids' tx).symm)

variable {store other : GraphStore} {windowDays : Option ℤ}

/-- Without transactions the window is counted back from `datetime.min`. -/
theorem scoped_of_nil (hprojected : store.Projected) (hempty : store.txns = [])
    {cut : Option DateTime} (hcut : store.cutoff windowDays = .ok cut) :
    store.Scoped windowDays (cut.map DateTime.instant) where
  projected := hprojected
  sameKind := by
    unfold SameKind
    simp [hempty]
  cutoff := ⟨cut, hcut, rfl, by simp [hempty]⟩

/-- Both graphs have latest transactions, of one instant. -/
theorem exists_latest (hperm : store.txns.Perm other.txns) {last : ObservedTransaction}
    (hlast : last ∈ store.txns.argmax ObservedTransaction.instant) :
    ∃ last' ∈ other.txns.argmax ObservedTransaction.instant, last.instant = last'.instant ∧
      IsLatest store.txns last ∧ IsLatest store.txns last' := by
  obtain ⟨last', hlast'⟩ : ∃ last', last' ∈ other.txns.argmax ObservedTransaction.instant := by
    refine Option.ne_none_iff_exists'.mp ?_
    intro hnone
    rw [List.argmax_eq_none.mp hnone] at hperm
    rw [hperm.eq_nil] at hlast
    cases hlast
  have hlatest : IsLatest store.txns last :=
    ⟨List.argmax_mem hlast, fun tx htx => List.le_of_mem_argmax htx hlast⟩
  have hlatest' : IsLatest store.txns last' :=
    ⟨hperm.mem_iff.mpr (List.argmax_mem hlast'),
      fun tx htx => List.le_of_mem_argmax (hperm.mem_iff.mp htx) hlast'⟩
  have hinstant : last.instant = last'.instant :=
    le_antisymm (hlatest'.2 last hlatest.1) (hlatest.2 last' hlatest'.1)
  exact ⟨last', hlast', hinstant, hlatest, hlatest'⟩

/-- The same transactions in two orders: the window is defined for both and starts at one
instant, or counting it back raises for both. -/
theorem scoped_or_raises (hprojected : store.Projected) (hprojected' : other.Projected)
    (hperm : store.txns.Perm other.txns) (hsame : store.SameKind)
    (hwindow : WindowAgrees store.txns windowDays) :
    (∃ start, store.Scoped windowDays start ∧ other.Scoped windowDays start) ∨
      ∃ e, store.cutoff windowDays = .error e ∧ other.cutoff windowDays = .error e := by
  have hsame' : other.SameKind := fun a ha b hb =>
    hsame a (hperm.mem_iff.mpr ha) b (hperm.mem_iff.mpr hb)
  cases windowDays with
  | none => exact Or.inl ⟨none, scoped_none hprojected hsame, scoped_none hprojected' hsame'⟩
  | some days =>
    cases hlast : store.txns.argmax ObservedTransaction.instant with
    | none =>
      have hempty := List.argmax_eq_none.mp hlast
      have hempty' : other.txns = [] := by
        rw [hempty] at hperm
        exact hperm.symm.eq_nil
      have hcutoff : other.cutoff (some days) = store.cutoff (some days) := by
        rw [cutoff, cutoff, latest, latest, hempty, hempty']
      cases hcut : store.cutoff (some days) with
      | error e => exact Or.inr ⟨e, rfl, hcutoff.trans hcut⟩
      | ok cut =>
        exact Or.inl ⟨_, scoped_of_nil hprojected hempty hcut,
          scoped_of_nil hprojected' hempty' (hcutoff.trans hcut)⟩
    | some last =>
      obtain ⟨last', hlast', hinstant, hlatest, hlatest'⟩ := exists_latest hperm hlast
      have hagree := hwindow days rfl last last' hlatest hlatest'
      by_cases hcalendar :
          DateTime.InCalendar (last.timestamp.wall - days * DateTime.microsPerDay)
      · refine Or.inl ⟨_, scoped_some hprojected hsame hlast hcalendar, ?_⟩
        rw [hinstant]
        exact scoped_some hprojected' hsame' hlast' (hagree.mp hcalendar)
      · exact Or.inr ⟨_, cutoff_raises hsame hlast hcalendar,
          cutoff_raises hsame' hlast' (mt hagree.mpr hcalendar)⟩

end GraphStore

section Raises

variable {store : GraphStore} {windowDays : Option ℤ} {e : PyErr} (order : SetOrder)

/-- Where counting back the window raises, every query does. -/
theorem features_error (h : store.cutoff windowDays = .error e) (c : ℤ) :
    order.features store c windowDays = .error e := by
  rw [SetOrder.features, GraphStore.scopedMerchants, h]
  rfl

theorem communityMembers_error (h : store.cutoff windowDays = .error e) (c : ℤ) :
    order.communityMembers store c windowDays = .error e := by
  have hvisit : ∀ customer, order.visit store windowDays (∅, ∅) customer = .error e := by
    intro customer
    rw [SetOrder.visit, if_neg (Finset.notMem_empty customer), GraphStore.scopedMerchants, h]
    rfl
  have hvisits := order.visits_customers (communityMaxNodes + 3) {c}
  rw [SetOrder.communityMembers, SetOrder.communityFrom, if_neg (Finset.singleton_ne_empty c)]
  cases hcustomers : order.customers (communityMaxNodes + 3) {c} with
  | nil =>
    rw [hcustomers] at hvisits
    exact absurd (hvisits.mem_iff.mpr (Finset.mem_singleton_self c)) List.not_mem_nil
  | cons customer rest =>
    rw [List.foldlM_cons, hvisit]
    rfl

theorem community_error (h : store.cutoff windowDays = .error e) (c : ℤ) (nodeLimit : ℤ) :
    order.community store c windowDays nodeLimit = .error e := by
  rw [SetOrder.community, communityMembers_error order h]
  rfl

end Raises

/-- Two orders of one collection of transactions, and any order of the sets, give the same
answers. -/
theorem answers_of_same_transactions {txs txs' : List ObservedTransaction}
    (hsame : ∀ tx, tx ∈ txs ↔ tx ∈ txs') (hids : IdsDetermine txs)
    (hcomparable : AllComparable txs) {windowDays : Option ℤ}
    (hwindow : WindowAgrees txs windowDays) (order order' : SetOrder) (customer : ℤ)
    (nodeLimit : ℤ) :
    let store := GraphStore.observing txs
    let other := GraphStore.observing txs'
    order.features store customer windowDays = order'.features other customer windowDays ∧
      order.networkRiskScore store customer windowDays =
        order'.networkRiskScore other customer windowDays ∧
      order.findings store customer windowDays = order'.findings other customer windowDays ∧
      order.community store customer windowDays nodeLimit =
        order'.community other customer windowDays nodeLimit := by
  intro store other
  have hperm : store.txns.Perm other.txns := GraphStore.txns_perm hsame hids
  have hrecorded := GraphStore.mem_observing hids
  have hkind : store.SameKind := fun a ha b hb =>
    hcomparable a ((hrecorded a).mp ha) b ((hrecorded b).mp hb)
  have hlatest : ∀ tx, IsLatest store.txns tx → IsLatest txs tx := fun tx h =>
    ⟨(hrecorded tx).mp h.1, fun later hlater => h.2 later ((hrecorded later).mpr hlater)⟩
  have hwindow : WindowAgrees store.txns windowDays := fun days hdays a b ha hb =>
    hwindow days hdays a b (hlatest a ha) (hlatest b hb)
  have hprojected := GraphStore.projected_observing txs
  have hprojected' := GraphStore.projected_observing txs'
  have hanswers : order.features store customer windowDays =
        order'.features other customer windowDays ∧
      order.community store customer windowDays nodeLimit =
        order'.community other customer windowDays nodeLimit := by
    rcases GraphStore.scoped_or_raises hprojected hprojected' hperm hkind hwindow with
      ⟨start, hscoped, hscoped'⟩ | ⟨e, hraises, hraises'⟩
    · have hreads := hscoped.reads
      have hreads' := hscoped'.reads
      rw [← GraphStore.readings_perm hprojected hprojected' hperm] at hreads'
      rw [hreads.features, hreads'.features, hreads.community, hreads'.community]
      exact ⟨rfl, rfl⟩
    · rw [features_error order hraises, features_error order' hraises',
        community_error order hraises, community_error order' hraises']
      exact ⟨rfl, rfl⟩
  obtain ⟨hfeatures, hcommunity⟩ := hanswers
  refine ⟨hfeatures, ?_, ?_, hcommunity⟩
  · rw [SetOrder.networkRiskScore, SetOrder.networkRiskScore, hfeatures]
  · rw [SetOrder.findings, SetOrder.findings, hfeatures]

/-- Midnight on the thirty-first of January of year 1, in London. -/
def inLondon : ObservedTransaction where
  transactionId := "tx-london"
  ccNum := 1
  merchant := "shop"
  amount := 10
  timestamp := { wall := 30 * DateTime.microsPerDay, utcOffset := some 0 }

/-- The same instant, on a clock an hour behind. -/
def inAzores : ObservedTransaction where
  transactionId := "tx-azores"
  ccNum := 1
  merchant := "shop"
  amount := 10
  timestamp := {
    wall := 30 * DateTime.microsPerDay - DateTime.microsPerHour
    utcOffset := some (-DateTime.microsPerHour) }

theorem idsDetermine_two : IdsDetermine [inLondon, inAzores] := by
  unfold IdsDetermine
  decide

theorem allComparable_two : AllComparable [inLondon, inAzores] := by
  unfold AllComparable DateTime.Comparable
  decide

/-- Thirty days before midnight in London the calendar begins; on the other clock there is
no such date. -/
theorem order_decides_window :
    IdsDetermine [inLondon, inAzores] ∧ AllComparable [inLondon, inAzores] ∧
      [inLondon, inAzores].Perm [inAzores, inLondon] ∧
      (∃ features, SetOrder.ascending.features (GraphStore.observing [inLondon, inAzores]) 1
        (some 30) = .ok features) ∧
      SetOrder.ascending.features (GraphStore.observing [inAzores, inLondon]) 1 (some 30) =
        .error (.overflowError "date value out of range") := by
  refine ⟨idsDetermine_two, allComparable_two, List.Perm.swap _ _ _, ?_, ?_⟩
  · have hkind : (GraphStore.observing [inLondon, inAzores]).SameKind := by
      unfold GraphStore.SameKind DateTime.Comparable
      decide
    have hlast : inLondon ∈ (GraphStore.observing [inLondon, inAzores]).txns.argmax
        ObservedTransaction.instant := by
      decide
    have hscoped : (GraphStore.observing [inLondon, inAzores]).Scoped (some 30) _ :=
      GraphStore.scoped_some (GraphStore.projected_observing _) hkind hlast (by decide)
    exact ⟨_, hscoped.reads.features _ 1⟩
  · exact features_error _ (by decide) 1

theorem answers_of_same_transactions_week :
    let store := GraphStore.observing [inLondon, inAzores]
    let other := GraphStore.observing [inAzores, inLondon]
    let order := SetOrder.ascending
    order.features store 1 (some 7) = order.features other 1 (some 7) ∧
      order.networkRiskScore store 1 (some 7) = order.networkRiskScore other 1 (some 7) ∧
      order.findings store 1 (some 7) = order.findings other 1 (some 7) ∧
      order.community store 1 (some 7) (-1) = order.community other 1 (some 7) (-1) := by
  have hwindow : WindowAgrees [inLondon, inAzores] (some 7) := by
    intro days hdays a b ha hb
    cases hdays
    have hcalendar : ∀ tx ∈ [inLondon, inAzores],
        DateTime.InCalendar (tx.timestamp.wall - 7 * DateTime.microsPerDay) := by decide
    exact iff_of_true (hcalendar a ha.1) (hcalendar b hb.1)
  exact answers_of_same_transactions (fun tx => (List.Perm.swap inAzores inLondon []).mem_iff)
    idsDetermine_two allComparable_two hwindow SetOrder.ascending SetOrder.ascending 1 (-1)

end VeriPay.GraphEngine
