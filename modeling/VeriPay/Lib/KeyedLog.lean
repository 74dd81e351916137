import Mathlib.Data.List.Basic
import Mathlib.Data.List.Induction
import Mathlib.Data.List.Nodup
import Mathlib.Logic.Function.Basic

/-!
Two ways to keep a log of key-value entries: a map that every entry overwrites,
and an append-only log that drops an entry it already has. Read by last entry,
they agree exactly on the keys whose values settle.
-/

namespace VeriPay.Lib

variable {K V : Type*} [DecidableEq K]

/-- The values logged under a key, oldest first. -/
def valuesFor (log : List (K × V)) (key : K) : List V :=
  (log.filter (fun entry => entry.1 = key)).map Prod.snd

/-- The map that every entry overwrites. -/
def lastWins (log : List (K × V)) : K → Option V :=
  log.foldl (fun held entry => Function.update held entry.1 (some entry.2)) (fun _ => none)

@[simp] theorem valuesFor_nil (key : K) : valuesFor ([] : List (K × V)) key = [] := rfl

theorem valuesFor_concat (log : List (K × V)) (entry : K × V) (key : K) :
    valuesFor (log ++ [entry]) key =
      if entry.1 = key then valuesFor log key ++ [entry.2] else valuesFor log key := by
  unfold valuesFor
  split_ifs with hkey <;> simp [hkey]

theorem mem_valuesFor {log : List (K × V)} {key : K} {value : V} :
    value ∈ valuesFor log key ↔ (key, value) ∈ log := by
  constructor
  · intro hvalue
    obtain ⟨entry, hentry, rfl⟩ := List.mem_map.mp hvalue
    obtain ⟨hmem, hkey⟩ := List.mem_filter.mp hentry
    rwa [← of_decide_eq_true hkey]
  · intro hmem
    exact List.mem_map.mpr ⟨_, List.mem_filter.mpr ⟨hmem, decide_eq_true rfl⟩, rfl⟩

theorem lastWins_concat (log : List (K × V)) (entry : K × V) :
    lastWins (log ++ [entry]) = Function.update (lastWins log) entry.1 (some entry.2) := by
  rw [lastWins, List.foldl_append]
  rfl

theorem lastWins_eq_getLast? (log : List (K × V)) (key : K) :
    lastWins log key = (valuesFor log key).getLast? := by
  induction log using List.reverseRecOn with
  | nil => rfl
  | append_singleton log entry ih =>
    rw [lastWins_concat, valuesFor_concat]
    by_cases hkey : entry.1 = key
    · rw [if_pos hkey, ← hkey, Function.update_self, List.getLast?_concat]
    · rw [if_neg hkey, Function.update_of_ne (Ne.symm hkey), ih]

theorem mem_of_lastWins {log : List (K × V)} {key : K} {value : V}
    (h : lastWins log key = some value) : (key, value) ∈ log := by
  rw [lastWins_eq_getLast?] at h
  exact mem_valuesFor.mp (List.mem_of_getLast? h)

/-- Where no key comes twice, its only entry is the last. -/
theorem lastWins_eq_some_iff_of_nodup {log : List (K × V)} (h : (log.map Prod.fst).Nodup)
    {key : K} {value : V} : lastWins log key = some value ↔ (key, value) ∈ log := by
  refine ⟨mem_of_lastWins, ?_⟩
  intro hmem
  have hne : valuesFor log key ≠ [] := List.ne_nil_of_mem (mem_valuesFor.mpr hmem)
  obtain ⟨last, hlast⟩ := Option.ne_none_iff_exists'.mp
    (fun hnone => hne (List.getLast?_eq_none_iff.mp hnone))
  rw [lastWins_eq_getLast?, hlast]
  have hlog := mem_valuesFor.mp (List.mem_of_getLast? hlast)
  exact congrArg (some ∘ Prod.snd) (List.inj_on_of_nodup_map h hlog hmem rfl)

variable [DecidableEq V]

omit [DecidableEq K] in
/-- Appending to a log without repetitions. -/
theorem eraseDups_concat {α : Type*} [BEq α] [LawfulBEq α] (items : List α) (item : α) :
    (items ++ [item]).eraseDups =
      if item ∈ items then items.eraseDups else items.eraseDups ++ [item] := by
  rw [List.eraseDups_append]
  split_ifs with hmem <;> simp [List.removeAll, hmem, List.eraseDups_cons]

theorem valuesFor_eraseDups (log : List (K × V)) (key : K) :
    valuesFor log.eraseDups key = (valuesFor log key).eraseDups := by
  induction log using List.reverseRecOn with
  | nil => rfl
  | append_singleton log entry ih =>
    rw [eraseDups_concat, valuesFor_concat]
    by_cases hkey : entry.1 = key
    · have hmem : entry.2 ∈ valuesFor log key ↔ entry ∈ log := by
        rw [mem_valuesFor, ← hkey]
      rw [if_pos hkey, eraseDups_concat]
      by_cases hentry : entry ∈ log
      · rw [if_pos hentry, if_pos (hmem.mpr hentry), ih]
      · rw [if_neg hentry, if_neg (fun h => hentry (hmem.mp h)), valuesFor_concat, if_pos hkey, ih]
    · rw [if_neg hkey]
      split_ifs
      · exact ih
      · rw [valuesFor_concat, if_neg hkey, ih]

omit [DecidableEq K] [DecidableEq V] in
/-- Once its last value has come up, the sequence only repeats values. -/
def Settled (values : List V) : Prop :=
  ∀ before last after, values = before ++ last :: after → values.getLast? = some last →
    last ∉ before → ∀ value ∈ after, value ∈ before ∨ value = last

/-- Without its repetitions a sequence ends as before exactly when it settles. -/
theorem getLast?_eraseDups_iff (values : List V) :
    values.eraseDups.getLast? = values.getLast? ↔ Settled values := by
  have hsplit : ∀ before (last : V) after, last ∉ before →
      (before ++ last :: after).eraseDups =
        before.eraseDups ++ [last] ++ (after.removeAll (before ++ [last])).eraseDups := by
    intro before last after hnot
    rw [← List.singleton_append, ← List.append_assoc, List.eraseDups_append, eraseDups_concat,
      if_neg hnot]
  constructor
  · rintro heq before last after rfl hlast hnot value hvalue
    by_contra hnew
    have hmem : value ∈ (after.removeAll (before ++ [last])).eraseDups := by
      rw [List.mem_eraseDups]
      simp only [List.removeAll, List.mem_filter]
      simp only [not_or] at hnew
      simp [hvalue, hnew]
    rw [hlast, hsplit before last after hnot, List.getLast?_append_of_ne_nil _
      (List.ne_nil_of_mem hmem)] at heq
    have hrest := List.mem_of_getLast? heq
    rw [List.mem_eraseDups] at hrest
    simp [List.removeAll] at hrest
  · intro hsettled
    cases hlast : values.getLast? with
    | none => rw [List.getLast?_eq_none_iff.mp hlast]; rfl
    | some last =>
      obtain ⟨before, after, rfl, hnot⟩ :=
        List.eq_append_cons_of_mem (List.mem_of_getLast? hlast)
      have hrest : after.removeAll (before ++ [last]) = [] := by
        simp only [List.removeAll, List.filter_eq_nil_iff]
        intro value hvalue
        have hold := hsettled before last after rfl hlast hnot value hvalue
        simp [hold]
      rw [hsplit before last after hnot, hrest, List.eraseDups_nil, List.append_nil,
        List.getLast?_concat]

end VeriPay.Lib
