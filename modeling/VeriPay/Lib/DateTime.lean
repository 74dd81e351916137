import Mathlib.Data.Int.Basic
import VeriPay.Lib.PyError
import VeriPay.Lib.StableSort

/-!
Python's `datetime`: a wall clock in microseconds since the start of year 1 and
the timezone's offset, missing when the value is naive. Ordering a naive and an
aware value raises, and so does arithmetic that leaves years 1 to 9999.
-/

namespace VeriPay.Lib

structure DateTime where
  wall : ℤ
  utcOffset : Option ℤ := none
  deriving DecidableEq, Repr

namespace DateTime

/-- `datetime.min`. -/
def minValue : DateTime where
  wall := 0

def microsPerSecond : ℤ := 1000000
def microsPerDay : ℤ := 86400 * microsPerSecond

/-- `datetime.max`, the last microsecond of year 9999. -/
def maxWall : ℤ := 3652059 * microsPerDay - 1

/-- The point in time an aware value names; the wall clock of a naive one. -/
def instant (d : DateTime) : ℤ := d.wall - d.utcOffset.getD 0

def isAware (d : DateTime) : Bool := d.utcOffset.isSome

/-- `value if value.tzinfo else value.replace(tzinfo=UTC)`. -/
def orUtc (d : DateTime) : DateTime := { d with utcOffset := some (d.utcOffset.getD 0) }

@[simp] theorem orUtc_isAware (d : DateTime) : d.orUtc.isAware = true := rfl

@[simp] theorem orUtc_instant (d : DateTime) : d.orUtc.instant = d.instant := rfl

@[simp] theorem orUtc_wall (d : DateTime) : d.orUtc.wall = d.wall := rfl

/-- `a <= b`. -/
def le (a b : DateTime) : Py Bool :=
  if a.isAware = b.isAware then .ok (a.instant ≤ b.instant)
  else .error (.typeError "can't compare offset-naive and offset-aware datetimes")

/-- `a < b`. -/
def lt (a b : DateTime) : Py Bool :=
  if a.isAware = b.isAware then .ok (a.instant < b.instant)
  else .error (.typeError "can't compare offset-naive and offset-aware datetimes")

/-- `a - b`, in microseconds. -/
def sub (a b : DateTime) : Py ℤ :=
  if a.isAware = b.isAware then .ok (a.instant - b.instant)
  else .error (.typeError "can't subtract offset-naive and offset-aware datetimes")

/-- Two values that Python can order and subtract. -/
def Comparable (a b : DateTime) : Prop := a.isAware = b.isAware

theorem lt_ok {a b : DateTime} (h : a.Comparable b) : a.lt b = .ok (a.instant < b.instant) :=
  if_pos h

theorem le_ok {a b : DateTime} (h : a.Comparable b) : a.le b = .ok (a.instant ≤ b.instant) :=
  if_pos h

theorem sub_ok {a b : DateTime} (h : a.Comparable b) : a.sub b = .ok (a.instant - b.instant) :=
  if_pos h

theorem comparable_of_lt_ok {a b : DateTime} {answer : Bool} (h : a.lt b = .ok answer) :
    a.Comparable b := by
  unfold lt at h
  split_ifs at h with hsame
  exact hsame

theorem comparable_of_le_ok {a b : DateTime} {answer : Bool} (h : a.le b = .ok answer) :
    a.Comparable b := by
  unfold le at h
  split_ifs at h with hsame
  exact hsame

theorem instant_le_of_le {a b : DateTime} (h : a.le b = .ok true) : a.instant ≤ b.instant := by
  rw [le_ok (comparable_of_le_ok h)] at h
  exact of_decide_eq_true (Except.ok.inj h)

theorem Comparable.symm {a b : DateTime} (h : a.Comparable b) : b.Comparable a := Eq.symm h

theorem orUtc_comparable (a b : DateTime) : a.orUtc.Comparable b.orUtc := rfl

def microsPerMinute : ℤ := 60 * microsPerSecond
def microsPerHour : ℤ := 3600 * microsPerSecond

/-- `timedelta.days`. -/
def days (delta : ℤ) : ℤ := delta / microsPerDay

/-- `d.date()`, as a day number. -/
def date (d : DateTime) : ℤ := d.wall / microsPerDay

def hour (d : DateTime) : ℕ := (d.wall % microsPerDay / microsPerHour).toNat

theorem hour_lt (d : DateTime) : d.hour < 24 := by
  simp only [hour, microsPerDay, microsPerHour, microsPerSecond]
  omega

/-- `d.weekday()`: the first of January of year 1 was a Monday. -/
def weekday (d : DateTime) : ℕ := (d.date % 7).toNat

/-- `sorted(items, key=timestamp)`: any two timestamps that do not compare make
the sort raise. -/
def sortedBy {α : Type} (timestamp : α → DateTime) (items : List α) : Py (List α) :=
  if items.all (fun a => (timestamp a).isAware) ∨ items.all (fun a => !(timestamp a).isAware) then
    .ok (items.mergeSort (fun a b => (timestamp a).instant ≤ (timestamp b).instant))
  else .error (.typeError "can't compare offset-naive and offset-aware datetimes")

theorem sortedBy_perm {α : Type} {timestamp : α → DateTime} {items sorted : List α}
    (h : sortedBy timestamp items = .ok sorted) : sorted.Perm items := by
  unfold sortedBy at h
  split_ifs at h
  cases h
  exact List.mergeSort_perm _ _

/-- What could be sorted compares. -/
theorem comparable_of_sortedBy_ok {α : Type} {timestamp : α → DateTime} {items sorted : List α}
    (h : sortedBy timestamp items = .ok sorted) {a b : α} (ha : a ∈ sorted) (hb : b ∈ sorted) :
    (timestamp a).Comparable (timestamp b) := by
  have hperm := sortedBy_perm h
  unfold sortedBy at h
  split_ifs at h with hsame
  rcases hsame with haware | hnaive
  · have hall := List.all_eq_true.mp haware
    exact (hall a (hperm.subset ha)).trans (hall b (hperm.subset hb)).symm
  · have hall := List.all_eq_true.mp hnaive
    have hfirst := hall a (hperm.subset ha)
    have hsecond := hall b (hperm.subset hb)
    simp only [Bool.not_eq_true'] at hfirst hsecond
    exact hfirst.trans hsecond.symm

theorem sortedBy_ok_of_same {α : Type} {timestamp : α → DateTime} {items : List α} {aware : Bool}
    (h : ∀ item ∈ items, (timestamp item).isAware = aware) :
    ∃ sorted, sortedBy timestamp items = .ok sorted := by
  cases aware with
  | true => exact ⟨_, if_pos (Or.inl (List.all_eq_true.mpr h))⟩
  | false =>
    refine ⟨_, if_pos (Or.inr (List.all_eq_true.mpr ?_))⟩
    intro item hitem
    rw [h item hitem]
    rfl

theorem sortedBy_ok {α : Type} {timestamp : α → DateTime} {items : List α}
    (h : ∀ item ∈ items, (timestamp item).isAware = true) :
    ∃ sorted, sortedBy timestamp items = .ok sorted := sortedBy_ok_of_same h

/-- What is in order already stays as it is. -/
theorem sortedBy_of_pairwise {α : Type} {timestamp : α → DateTime} {items : List α}
    (haware : ∀ item ∈ items, (timestamp item).isAware = true)
    (hsorted : items.Pairwise (fun a b => (timestamp a).instant ≤ (timestamp b).instant)) :
    sortedBy timestamp items = .ok items := by
  rw [sortedBy, if_pos (Or.inl (List.all_eq_true.mpr haware)),
    List.mergeSort_of_pairwise (hsorted.imp decide_eq_true)]

theorem sortedBy_pairwise {α : Type} {timestamp : α → DateTime} {items sorted : List α}
    (h : sortedBy timestamp items = .ok sorted) :
    sorted.Pairwise (fun a b => (timestamp a).instant ≤ (timestamp b).instant) := by
  unfold sortedBy at h
  split_ifs at h
  cases h
  exact pairwise_mergeSort_key items

/-- The last of a sorted list is a latest one. -/
theorem instant_le_getLast {α : Type} {timestamp : α → DateTime} {items sorted : List α}
    (h : sortedBy timestamp items = .ok sorted) {item last : α} (hitem : item ∈ sorted)
    (hlast : sorted.getLast? = some last) :
    (timestamp item).instant ≤ (timestamp last).instant := by
  have hpairwise := sortedBy_pairwise h
  obtain ⟨before, hbefore⟩ := List.getLast?_eq_some_iff.mp hlast
  rw [hbefore] at hitem hpairwise
  rcases List.mem_append.mp hitem with hmem | hmem
  · exact (List.pairwise_append.mp hpairwise).2.2 item hmem last (List.mem_singleton_self last)
  · rw [List.mem_singleton.mp hmem]

/-- An item that is added goes behind everything that is not later. -/
theorem sortedBy_concat {α : Type} {timestamp : α → DateTime} {items sorted : List α}
    (h : sortedBy timestamp items = .ok sorted) {item other : α} (hother : other ∈ items)
    (hcompare : (timestamp item).Comparable (timestamp other)) :
    sortedBy timestamp (items ++ [item]) =
      .ok (sorted.filter (fun a => (timestamp a).instant ≤ (timestamp item).instant) ++
        item :: sorted.filter (fun a => (timestamp item).instant < (timestamp a).instant)) := by
  have hsame : ∀ a ∈ items ++ [item], (timestamp a).isAware = (timestamp other).isAware := by
    intro a ha
    have hperm := sortedBy_perm h
    rcases List.mem_append.mp ha with hmem | hmem
    · exact comparable_of_sortedBy_ok h (hperm.mem_iff.mpr hmem) (hperm.mem_iff.mpr hother)
    · rw [List.mem_singleton.mp hmem]
      exact hcompare
  obtain ⟨extended, hextended⟩ := sortedBy_ok_of_same hsame
  rw [hextended]
  unfold sortedBy at h hextended
  split_ifs at h
  split_ifs at hextended
  cases h
  cases hextended
  rw [mergeSort_concat]

/-- `d + timedelta(microseconds=delta)`. -/
def addMicros (d : DateTime) (delta : ℤ) : Py DateTime :=
  if 0 ≤ d.wall + delta ∧ d.wall + delta ≤ maxWall then
    .ok { d with wall := d.wall + delta }
  else .error (.overflowError "date value out of range")

/-- The wall clock of a date from year 1 to year 9999. -/
def InCalendar (wall : ℤ) : Prop := 0 ≤ wall ∧ wall ≤ maxWall

instance (wall : ℤ) : Decidable (InCalendar wall) := inferInstanceAs (Decidable (_ ∧ _))

theorem addMicros_ok {d : DateTime} {delta : ℤ} (h : InCalendar (d.wall + delta)) :
    d.addMicros delta = .ok { d with wall := d.wall + delta } := if_pos h

theorem addMicros_error {d : DateTime} {delta : ℤ} (h : ¬ InCalendar (d.wall + delta)) :
    d.addMicros delta = .error (.overflowError "date value out of range") := if_neg h

theorem inCalendar_of_addMicros_ok {d moved : DateTime} {delta : ℤ}
    (h : d.addMicros delta = .ok moved) : InCalendar (d.wall + delta) := by
  unfold addMicros at h
  split_ifs at h with hcalendar
  exact hcalendar

/-- A value that Python can hold: a date of the calendar, less than a day off UTC. -/
structure Representable (d : DateTime) : Prop where
  calendar : InCalendar d.wall
  offset : ∀ offset ∈ d.utcOffset, -microsPerDay < offset ∧ offset < microsPerDay

theorem Representable.instant_bounds {d : DateTime} (h : d.Representable) :
    d.wall - microsPerDay < d.instant ∧ d.instant < d.wall + microsPerDay := by
  obtain ⟨wall, utcOffset⟩ := d
  have hday : 0 < microsPerDay := by decide
  cases utcOffset with
  | none =>
    simp only [instant, Option.getD_none]
    omega
  | some offset =>
    have hoffset := h.offset offset rfl
    simp only [instant, Option.getD_some]
    omega

/-- An hour of a day, in UTC or naive. -/
def atHour (aware : Bool) (day : ℤ) (hour : ℕ) : DateTime where
  wall := day * microsPerDay + hour * microsPerHour
  utcOffset := if aware then some 0 else none

@[simp] theorem atHour_isAware (aware : Bool) (day : ℤ) (hour : ℕ) :
    (atHour aware day hour).isAware = aware := by
  cases aware <;> rfl

theorem atHour_instant (aware : Bool) (day : ℤ) (hour : ℕ) :
    (atHour aware day hour).instant = day * microsPerDay + hour * microsPerHour := by
  cases aware <;> simp [atHour, instant]

theorem atHour_hour (aware : Bool) (day : ℤ) {hour : ℕ} (h : hour < 24) :
    (atHour aware day hour).hour = hour := by
  simp only [DateTime.hour, atHour, microsPerDay, microsPerHour, microsPerSecond]
  omega

theorem atHour_representable (aware : Bool) {day : ℤ} {hour : ℕ}
    (h : InCalendar (day * microsPerDay + hour * microsPerHour)) :
    (atHour aware day hour).Representable where
  calendar := h
  offset := by
    intro offset hoffset
    cases aware with
    | true =>
      cases hoffset
      decide
    | false => cases hoffset

theorem date_bounds (d : DateTime) :
    d.date * microsPerDay ≤ d.wall ∧ d.wall < (d.date + 1) * microsPerDay := by
  simp only [date, microsPerDay, microsPerSecond]
  omega

end DateTime

end VeriPay.Lib
