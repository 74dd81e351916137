import VeriPay.AnalystApi.Scoring

/-!
What a transaction without coordinates does to sudden drift. The check looks at neighbours
in the window of thirty days, so such a transaction hides exactly the jump that it is sorted
into.
-/

namespace VeriPay.AnalystApi

open Lib

/-- A pair of transactions that is minutes apart and a jump away from each other. -/
def SuddenPair (platform : Platform) (pair : StoredTransaction × StoredTransaction) : Prop :=
  pair.2.timestamp.instant - pair.1.timestamp.instant ≤
      suddenTimeMinutes * DateTime.microsPerMinute ∧
    ∃ prevPoint ∈ pair.1.point, ∃ currPoint ∈ pair.2.point,
      suddenDistanceKm ≤ platform.haversineKm prevPoint currPoint

/-- A transaction that is sorted between the two of a pair. -/
def Separates (tx : StoredTransaction) (pair : StoredTransaction × StoredTransaction) : Prop :=
  pair.1.timestamp.instant ≤ tx.timestamp.instant ∧
    tx.timestamp.instant < pair.2.timestamp.instant

/-- The transactions of a history that are at most so many days older than a given one. -/
def window (days : ℤ) (last : StoredTransaction) (history : List StoredTransaction) :
    List StoredTransaction :=
  history.filter fun tx =>
    last.timestamp.instant - days * DateTime.microsPerDay ≤ tx.timestamp.instant

theorem window_append (days : ℤ) (last : StoredTransaction)
    (front back : List StoredTransaction) :
    window days last (front ++ back) = window days last front ++ window days last back :=
  List.filter_append ..

theorem window_cons (days : ℤ) (last tx : StoredTransaction) (rest : List StoredTransaction) :
    window days last (tx :: rest) =
      if last.timestamp.instant - days * DateTime.microsPerDay ≤ tx.timestamp.instant then
        tx :: window days last rest
      else window days last rest := by
  rw [window, List.filter_cons]
  simp only [decide_eq_true_eq]
  rfl

theorem SuddenPair.left_point {platform : Platform} {pair : StoredTransaction × StoredTransaction}
    (h : SuddenPair platform pair) : pair.1.point ≠ none := by
  obtain ⟨-, prevPoint, hprev, -⟩ := h
  rw [Option.mem_def] at hprev
  rw [hprev]
  exact Option.some_ne_none prevPoint

theorem SuddenPair.right_point {platform : Platform} {pair : StoredTransaction × StoredTransaction}
    (h : SuddenPair platform pair) : pair.2.point ≠ none := by
  obtain ⟨-, -, -, currPoint, hcurr, -⟩ := h
  rw [Option.mem_def] at hcurr
  rw [hcurr]
  exact Option.some_ne_none currPoint

/-- The loop over pairs that compare finds a jump exactly when one of them is one. -/
theorem suddenDrift_spec (platform : Platform)
    {pairs : List (StoredTransaction × StoredTransaction)}
    (hcompare : ∀ pair ∈ pairs, pair.2.timestamp.Comparable pair.1.timestamp) :
    ∃ found, ProfileStore.suddenDrift platform pairs = .ok found ∧
      (∀ report ∈ found, report.kind = "sudden") ∧
      (found.isSome = true ↔ ∃ pair ∈ pairs, SuddenPair platform pair) := by
  induction pairs with
  | nil => exact ⟨none, rfl, by simp, by simp⟩
  | cons pair rest ih =>
    obtain ⟨prev, curr⟩ := pair
    obtain ⟨found, hfound, hkind, hiff⟩ :=
      ih (fun other hother => hcompare other (List.mem_cons_of_mem _ hother))
    -- A first pair that is no jump leaves the answer to the rest.
    have hskip : ¬ SuddenPair platform (prev, curr) →
        (found.isSome = true ↔ ∃ pair ∈ (prev, curr) :: rest, SuddenPair platform pair) := by
      intro hnot
      rw [hiff, List.exists_mem_cons_iff, or_iff_right hnot]
    rw [ProfileStore.suddenDrift, DateTime.sub_ok (hcompare _ List.mem_cons_self), Py.ok_bind]
    split
    next hgap =>
      refine ⟨found, hfound, hkind, hskip ?_⟩
      intro hpair
      exact absurd hpair.1 (not_le.mpr hgap)
    next hgap =>
      split
      next prevPoint currPoint hprev hcurr =>
        dsimp only
        split
        next hfar =>
          refine ⟨_, rfl, ?_, iff_of_true rfl ⟨_, List.mem_cons_self, not_lt.mp hgap, ?_⟩⟩
          · intro report hreport
            cases hreport
            rfl
          · exact ⟨prevPoint, hprev, currPoint, hcurr, hfar⟩
        next hnear =>
          refine ⟨found, hfound, hkind, hskip ?_⟩
          rintro ⟨-, p, hp, q, hq, hfar⟩
          cases hprev.symm.trans hp
          cases hcurr.symm.trans hq
          exact hnear hfar
      next hnone =>
        refine ⟨found, hfound, hkind, hskip ?_⟩
        rintro ⟨-, p, hp, q, hq, -⟩
        exact hnone p q hp hq

theorem gradualDrift_kind {platform : Platform} {recent longTerm : List StoredTransaction}
    {report : DriftReport}
    (h : ProfileStore.gradualDrift platform recent longTerm = some report) :
    report.kind = "gradual" := by
  unfold ProfileStore.gradualDrift at h
  extract_lets resetMetrics baselineMetrics at h
  split at h
  · split at h
    · cases h
    · cases h
      rfl
  · cases h

namespace ProfileStore

variable {platform : Platform} {store : ProfileStore} {customer : ℕ}
  {history : List StoredTransaction} {last : StoredTransaction}

theorem recent_eq (hhistory : store.history customer = .ok history)
    (hlast : history.getLast? = some last) {days : ℤ}
    (hcalendar : DateTime.InCalendar (last.timestamp.wall + -(days * DateTime.microsPerDay))) :
    store.recent customer days = .ok (window days last history) := by
  rw [ProfileStore.recent, hhistory, Py.ok_bind, hlast]
  simp only [DateTime.addMicros_ok hcalendar, Py.ok_bind]
  refine filterPy_ok ?_
  intro tx htx
  have hcompare := DateTime.comparable_of_sortedBy_ok hhistory (List.mem_of_getLast? hlast) htx
  have hinstant : ({ last.timestamp with
      wall := last.timestamp.wall + -(days * DateTime.microsPerDay) } : DateTime).instant =
      last.timestamp.instant - days * DateTime.microsPerDay := by
    simp only [DateTime.instant]
    omega
  rw [← hinstant]
  exact DateTime.le_ok hcompare

theorem filterPy_longTerm_ok (hhistory : store.history customer = .ok history)
    (hlast : history.getLast? = some last) :
    filterPy (fun tx => do
        let age ← last.timestamp.sub tx.timestamp
        return DateTime.days age ≤ 90) history =
      .ok (history.filter fun tx =>
        DateTime.days (last.timestamp.instant - tx.timestamp.instant) ≤ 90) := by
  refine filterPy_ok ?_
  intro tx htx
  rw [DateTime.sub_ok (DateTime.comparable_of_sortedBy_ok hhistory
    (List.mem_of_getLast? hlast) htx)]
  rfl

/-- Neighbours in a window of a history compare. -/
theorem comparable_of_adjacent (hhistory : store.history customer = .ok history) (days : ℤ) :
    ∀ pair ∈ (window days last history).zip (window days last history).tail,
      pair.2.timestamp.Comparable pair.1.timestamp := by
  intro pair hpair
  obtain ⟨hprev, hcurr⟩ := List.of_mem_zip hpair
  exact DateTime.comparable_of_sortedBy_ok hhistory
    (List.mem_of_mem_filter (List.mem_of_mem_tail hcurr)) (List.mem_of_mem_filter hprev)

/-- The drift check reports a jump exactly when the history is long enough, thirty days
back is a date, and two neighbours of the window are a jump. -/
theorem detectDrift_sudden_iff (hhistory : store.history customer = .ok history)
    (hlast : history.getLast? = some last) :
    (∃ report, store.detectDrift platform customer = .ok (some report) ∧
        report.kind = "sudden") ↔
      5 ≤ history.length ∧
        DateTime.InCalendar (last.timestamp.wall - 30 * DateTime.microsPerDay) ∧
        ∃ pair ∈ (window 30 last history).zip (window 30 last history).tail,
          SuddenPair platform pair := by
  rw [ProfileStore.detectDrift, hhistory, Py.ok_bind, hlast]
  simp only
  by_cases hshort : history.length < 5
  · rw [if_pos hshort]
    constructor
    · rintro ⟨report, hreport, -⟩
      cases hreport
    · rintro ⟨hlong, -⟩
      omega
  rw [if_neg hshort]
  by_cases hcalendar : DateTime.InCalendar
      (last.timestamp.wall - 30 * DateTime.microsPerDay)
  · obtain ⟨found, hfound, hkind, hiff⟩ :=
      suddenDrift_spec platform (comparable_of_adjacent hhistory 30)
    rw [recent_eq hhistory hlast hcalendar, Py.ok_bind,
      filterPy_longTerm_ok hhistory hlast, Py.ok_bind, hfound, Py.ok_bind, ← hiff]
    constructor
    · rintro ⟨report, hreport, hsudden⟩
      refine ⟨not_lt.mp hshort, hcalendar, ?_⟩
      cases found with
      | some report => rfl
      | none =>
        -- What the loop does not find is at most gradual.
        have hgradual := gradualDrift_kind (Except.ok.inj hreport)
        rw [hsudden] at hgradual
        exact absurd hgradual (by decide)
    · rintro ⟨-, -, hsome⟩
      obtain ⟨report, rfl⟩ := Option.isSome_iff_exists.mp hsome
      exact ⟨report, rfl, hkind report rfl⟩
  · constructor
    · rintro ⟨report, hreport, -⟩
      rw [ProfileStore.recent, hhistory, Py.ok_bind, hlast] at hreport
      simp only at hreport
      rw [DateTime.addMicros_error hcalendar] at hreport
      cases hreport
    · rintro ⟨-, hcal, -⟩
      exact absurd hcal hcalendar

/-- A transaction that is no earlier than all goes behind those that are not later. -/
theorem history_addTransaction (hhistory : store.history customer = .ok history)
    {first tx : StoredTransaction} (hfirst : first ∈ history) (hcustomer : tx.ccNum = customer)
    (hcompare : tx.timestamp.Comparable first.timestamp) :
    (store.addTransaction tx).history customer =
      .ok (history.filter (fun t => t.timestamp.instant ≤ tx.timestamp.instant) ++
        tx :: history.filter (fun t => tx.timestamp.instant < t.timestamp.instant)) := by
  subst hcustomer
  unfold ProfileStore.history at hhistory ⊢
  rw [transactions_addTransaction_self]
  exact DateTime.sortedBy_concat hhistory ((DateTime.sortedBy_perm hhistory).mem_iff.mp hfirst)
    hcompare

/-- The last of the extended history: the new transaction if it ties with the old last. -/
theorem getLast?_extended (hlast : history.getLast? = some last) {tx : StoredTransaction}
    (hsorted : history.Pairwise (fun a b => a.timestamp.instant ≤ b.timestamp.instant))
    (hbefore : tx.timestamp.instant ≤ last.timestamp.instant) :
    (history.filter (fun t => t.timestamp.instant ≤ tx.timestamp.instant) ++
        tx :: history.filter (fun t => tx.timestamp.instant < t.timestamp.instant)).getLast? =
      some (if tx.timestamp.instant = last.timestamp.instant then tx else last) := by
  obtain ⟨before, rfl⟩ := List.getLast?_eq_some_iff.mp hlast
  split_ifs with htie
  · have hnone : (before ++ [last]).filter
        (fun t => tx.timestamp.instant < t.timestamp.instant) = [] := by
      rw [List.filter_eq_nil_iff]
      intro t ht hlate
      have hle : t.timestamp.instant ≤ last.timestamp.instant := by
        rcases List.mem_append.mp ht with hmem | hmem
        · exact (List.pairwise_append.mp hsorted).2.2 t hmem last (List.mem_singleton_self last)
        · rw [List.mem_singleton.mp hmem]
      have hlt := of_decide_eq_true hlate
      omega
    rw [hnone, List.getLast?_append, List.getLast?_singleton, Option.some_or]
  · have hlt : tx.timestamp.instant < last.timestamp.instant := by omega
    have hkept : (before ++ [last]).filter
        (fun t => tx.timestamp.instant < t.timestamp.instant) =
          before.filter (fun t => tx.timestamp.instant < t.timestamp.instant) ++ [last] := by
      rw [List.filter_append, List.filter_cons, if_pos (decide_eq_true hlt), List.filter_nil]
    rw [hkept, ← List.cons_append, ← List.append_assoc, List.getLast?_append,
      List.getLast?_singleton, Option.some_or]

/-- Where a transaction is before the window, so is all that is not later. -/
theorem window_filter_eq_nil {days : ℤ} {tx : StoredTransaction}
    (hold : tx.timestamp.instant < last.timestamp.instant - days * DateTime.microsPerDay) :
    window days last (history.filter fun t => t.timestamp.instant ≤ tx.timestamp.instant) =
      [] := by
  rw [window, List.filter_eq_nil_iff]
  intro t ht hin
  have hle := of_decide_eq_true (List.mem_filter.mp ht).2
  have hge := of_decide_eq_true hin
  omega

/-- The window of the extended history holds the same jumps, but for those that the new
transaction is sorted into. -/
theorem exists_sudden_extended_iff {tx newest : StoredTransaction}
    (hsorted : history.Pairwise (fun a b => a.timestamp.instant ≤ b.timestamp.instant))
    (hnewest : newest.timestamp.instant = last.timestamp.instant) (hpoint : tx.point = none)
    {extended : List StoredTransaction}
    (hextended : extended =
      history.filter (fun t => t.timestamp.instant ≤ tx.timestamp.instant) ++
        tx :: history.filter (fun t => tx.timestamp.instant < t.timestamp.instant)) :
    (∃ pair ∈ (window 30 newest extended).zip (window 30 newest extended).tail,
        SuddenPair platform pair) ↔
      ∃ pair ∈ (window 30 last history).zip (window 30 last history).tail,
        SuddenPair platform pair ∧ ¬ Separates tx pair := by
  have hsplit := filter_append_filter_of_sorted hsorted tx.timestamp.instant
  have hwindow : window 30 newest extended = window 30 last extended := by
    unfold window
    rw [hnewest]
  have hfront : ∀ t ∈ window 30 last
      (history.filter (fun t => t.timestamp.instant ≤ tx.timestamp.instant)),
      t.timestamp.instant ≤ tx.timestamp.instant := fun t ht =>
    of_decide_eq_true (List.mem_filter.mp (List.mem_of_mem_filter ht)).2
  have hback : ∀ t ∈ window 30 last
      (history.filter (fun t => tx.timestamp.instant < t.timestamp.instant)),
      tx.timestamp.instant < t.timestamp.instant := fun t ht =>
    of_decide_eq_true (List.mem_filter.mp (List.mem_of_mem_filter ht)).2
  have hold : window 30 last history =
      window 30 last (history.filter (fun t => t.timestamp.instant ≤ tx.timestamp.instant)) ++
        window 30 last (history.filter
          (fun t => tx.timestamp.instant < t.timestamp.instant)) := by
    rw [← window_append, hsplit]
  rw [hwindow, hold]
  refine Iff.trans ?_ (exists_adjacent_apart_iff hfront hback).symm
  subst hextended
  rw [window_append, window_cons]
  split_ifs with hrecent
  · exact exists_adjacent_insert_iff (fun t h => h.left_point hpoint)
      (fun t h => h.right_point hpoint) _ _
  · -- A transaction before the window has nothing of the window before it.
    rw [window_filter_eq_nil (not_le.mp hrecent)]
    simp

end ProfileStore

/-- A transaction without coordinates leaves a jump reported exactly when it is not sorted
into every one of them (and, where it becomes the last, thirty days back is a date). -/
theorem detectDrift_addTransaction_iff {platform : Platform} {store : ProfileStore}
    {customer : ℕ} {history : List StoredTransaction} {first last tx : StoredTransaction}
    {report : DriftReport}
    (hreport : store.detectDrift platform customer = .ok (some report))
    (hkind : report.kind = "sudden") (hhistory : store.history customer = .ok history)
    (hfirst : history.head? = some first) (hlast : history.getLast? = some last)
    (hcustomer : tx.ccNum = customer) (hlocation : tx.location = none)
    (hmerchant : tx.merchantLocation = none)
    (hafter : first.timestamp.le tx.timestamp = .ok true)
    (hbefore : tx.timestamp.le last.timestamp = .ok true) :
    (∃ report, (store.addTransaction tx).detectDrift platform customer = .ok (some report) ∧
        report.kind = "sudden") ↔
      (tx.timestamp.instant = last.timestamp.instant →
        DateTime.InCalendar (tx.timestamp.wall - 30 * DateTime.microsPerDay)) ∧
      ∃ pair ∈ (window 30 last history).zip (window 30 last history).tail,
        SuddenPair platform pair ∧ ¬ Separates tx pair := by
  have hpoint : tx.point = none := by
    rw [StoredTransaction.point, hlocation, hmerchant]
    rfl
  have hsorted := DateTime.sortedBy_pairwise hhistory
  have hcompare := (DateTime.comparable_of_le_ok hafter).symm
  have hextended := ProfileStore.history_addTransaction hhistory (List.mem_of_head? hfirst)
    hcustomer hcompare
  have hle := DateTime.instant_le_of_le hbefore
  have hnewest := ProfileStore.getLast?_extended hlast hsorted hle
  obtain ⟨hlong, hcalendar, -⟩ :=
    (ProfileStore.detectDrift_sudden_iff hhistory hlast).mp ⟨report, hreport, hkind⟩
  have hlength := congrArg List.length
    (filter_append_filter_of_sorted hsorted tx.timestamp.instant)
  have hinstant : (if tx.timestamp.instant = last.timestamp.instant then tx
      else last).timestamp.instant = last.timestamp.instant := by
    split_ifs with htie
    · exact htie
    · rfl
  rw [ProfileStore.detectDrift_sudden_iff hextended hnewest,
    ProfileStore.exists_sudden_extended_iff hsorted hinstant hpoint rfl]
  simp only [List.length_append, List.length_cons] at hlength ⊢
  constructor
  · rintro ⟨-, hcal, hpair⟩
    refine ⟨?_, hpair⟩
    intro htie
    rwa [if_pos htie] at hcal
  · rintro ⟨hcal, hpair⟩
    refine ⟨by omega, ?_, hpair⟩
    split_ifs with htie
    · exact hcal htie
    · exact hcalendar

section Masking

/-- A platform that measures distances along a meridian. -/
def Platform.alongMeridian : Platform :=
  { Platform.atNoon with haversineKm := fun a b => |a.lat - b.lat| * 11119 / 100 }

def equator : GeoPoint where
  lat := 0
  lon := 0
  lat_bounds := by norm_num
  lon_bounds := by norm_num

def farNorth : GeoPoint := { equator with lat := 50, lat_bounds := by norm_num }

/-- A payment of customer 7, so many minutes after the first of April 2026. -/
def paymentAt (name : String) (minute : ℤ) (location : Option GeoPoint) : StoredTransaction where
  transactionId := ⟨"payment " ++ name, by simp⟩
  ccNum := 7
  amount := 20
  merchant := "Corner shop"
  category := "grocery"
  timestamp := ⟨739706 * DateTime.microsPerDay + minute * DateTime.microsPerMinute, some 0⟩
  location := location
  merchantLocation := none
  decision := .pass

/-- An hour apart each, and then a jump to the north within ten minutes. -/
def jumpHistory : List StoredTransaction :=
  [paymentAt "one" 0 equator, paymentAt "two" 60 equator, paymentAt "three" 120 equator,
    paymentAt "four" 180 equator, paymentAt "five" 190 farNorth]

def jumpStore : ProfileStore := ProfileStore.addAll {} jumpHistory

theorem jumpStore_history : jumpStore.history 7 = .ok jumpHistory := by
  have hstored : jumpStore.transactions 7 = jumpHistory :=
    ProfileStore.transactions_addAll {} (by decide)
  rw [ProfileStore.history, hstored]
  exact DateTime.sortedBy_of_pairwise (by decide) (by decide)

theorem jump_suddenPair : SuddenPair .alongMeridian
    (paymentAt "four" 180 equator, paymentAt "five" 190 farNorth) := by
  refine ⟨by decide, equator, rfl, farNorth, rfl, ?_⟩
  norm_num [Platform.alongMeridian, suddenDistanceKm, equator, farNorth]

theorem jump_mem_window :
    (paymentAt "four" 180 equator, paymentAt "five" 190 farNorth) ∈
      (window 30 (paymentAt "five" 190 farNorth) jumpHistory).zip
        (window 30 (paymentAt "five" 190 farNorth) jumpHistory).tail := by
  have hwindow : window 30 (paymentAt "five" 190 farNorth) jumpHistory = jumpHistory := rfl
  rw [hwindow]
  simp [jumpHistory]

theorem jumpStore_sudden : ∃ report,
    jumpStore.detectDrift .alongMeridian 7 = .ok (some report) ∧ report.kind = "sudden" :=
  (ProfileStore.detectDrift_sudden_iff jumpStore_history rfl).mpr
    ⟨by decide, by decide, _, jump_mem_window, jump_suddenPair⟩

/-- A payment without coordinates before the jump leaves it reported. -/
theorem detectDrift_addTransaction_before_jump : ∃ report,
    (jumpStore.addTransaction (paymentAt "quiet" 90 none)).detectDrift .alongMeridian 7 =
      .ok (some report) ∧ report.kind = "sudden" := by
  obtain ⟨report, hreport, hkind⟩ := jumpStore_sudden
  exact (detectDrift_addTransaction_iff hreport hkind jumpStore_history rfl rfl rfl rfl rfl
    (by decide) (by decide)).mpr
      ⟨fun h => absurd h (by decide), _, jump_mem_window, jump_suddenPair, by
        rintro ⟨h, -⟩
        exact absurd h (by decide)⟩

/-- The same payments with one without coordinates five minutes into the jump. -/
def maskedHistory : List StoredTransaction :=
  [paymentAt "one" 0 equator, paymentAt "two" 60 equator, paymentAt "three" 120 equator,
    paymentAt "four" 180 equator, paymentAt "masking" 185 none, paymentAt "five" 190 farNorth]

theorem maskedStore_history :
    (jumpStore.addTransaction (paymentAt "masking" 185 none)).history 7 = .ok maskedHistory := by
  have hfirst : paymentAt "one" 0 equator ∈ jumpHistory := List.mem_cons_self
  have hcustomer : (paymentAt "masking" 185 none).ccNum = 7 := rfl
  rw [ProfileStore.history_addTransaction jumpStore_history hfirst hcustomer rfl]
  rfl

/-- There it hides the jump. -/
theorem jump_masked : ∃ tx first last : StoredTransaction,
    tx.location = none ∧ tx.merchantLocation = none ∧ tx.ccNum = 7 ∧
      jumpStore.history 7 = .ok jumpHistory ∧
      jumpHistory.head? = some first ∧ jumpHistory.getLast? = some last ∧
      first.timestamp.le tx.timestamp = .ok true ∧ tx.timestamp.le last.timestamp = .ok true ∧
      (∃ report, jumpStore.detectDrift .alongMeridian 7 = .ok (some report) ∧
        report.kind = "sudden") ∧
      ¬ ∃ report, (jumpStore.addTransaction tx).detectDrift .alongMeridian 7 =
        .ok (some report) ∧ report.kind = "sudden" := by
  refine ⟨paymentAt "masking" 185 none, paymentAt "one" 0 equator,
    paymentAt "five" 190 farNorth, rfl, rfl, rfl, jumpStore_history, rfl, rfl, by decide,
    by decide, jumpStore_sudden, ?_⟩
  intro hsudden
  have hlast : maskedHistory.getLast? = some (paymentAt "five" 190 farNorth) := rfl
  obtain ⟨-, -, pair, hpair, hclose, hpoints⟩ :=
    (ProfileStore.detectDrift_sudden_iff maskedStore_history hlast).mp hsudden
  have hwindow : window 30 (paymentAt "five" 190 farNorth) maskedHistory = maskedHistory := rfl
  rw [hwindow] at hpair
  simp only [maskedHistory, List.tail_cons, List.zip_cons_cons, List.zip_nil_right,
    List.mem_cons, List.not_mem_nil, or_false] at hpair
  rcases hpair with rfl | rfl | rfl | rfl | rfl
  · exact absurd hclose (by decide)
  · exact absurd hclose (by decide)
  · exact absurd hclose (by decide)
  · obtain ⟨_, _, _, h, _⟩ := hpoints
    cases h
  · obtain ⟨_, h, _⟩ := hpoints
    cases h

end Masking

end VeriPay.AnalystApi
