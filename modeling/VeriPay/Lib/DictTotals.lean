import Mathlib.Algebra.BigOperators.Group.Finset.Piecewise
import VeriPay.Lib.KeyedLog
import VeriPay.Lib.Records

/-!
Totals over the values of a dict. Its keys are each there once, so lengths, sums and counts over
the values are taken over the set of keys; and where a dict reads like a log of which the last
entry of each key counts, they are taken over the keys of the log.
-/

namespace VeriPay.Lib

variable {K V W : Type*} [DecidableEq K]

namespace PyDict

variable (dict : PyDict K V)

theorem length_values : dict.values.length = dict.keys.toFinset.card := by
  rw [List.toFinset_card_of_nodup dict.nodup_keys, values, keys, List.length_map, List.length_map]

theorem sum_values {M : Type*} [AddCommMonoid M] (weight : V → M) :
    (dict.values.map weight).sum =
      ∑ key ∈ dict.keys.toFinset, (dict.get? key).elim 0 weight := by
  rw [List.sum_toFinset _ dict.nodup_keys, values, keys, List.map_map, List.map_map]
  refine congrArg List.sum (List.map_congr_left ?_)
  rintro ⟨key, value⟩ hitem
  rw [Function.comp_apply, Function.comp_apply, (dict.get?_eq_some_iff).mpr hitem]
  rfl

/-- Counting values is summing ones. -/
theorem countP_values (p : V → Bool) :
    dict.values.countP p =
      (dict.keys.toFinset.filter fun key => ∃ value ∈ dict.get? key, p value = true).card := by
  have hones : dict.values.countP p =
      (dict.values.map fun value => if p value then 1 else 0).sum := by
    induction dict.values with
    | nil => rfl
    | cons value rest ih => simp [List.countP_cons, ih, Nat.add_comm]
  rw [hones, sum_values, Finset.card_filter]
  refine Finset.sum_congr rfl ?_
  intro key _
  cases dict.get? key with
  | none => simp
  | some value => simp

end PyDict

/-- The keys of a log. -/
def keysOf (log : List (K × V)) : Finset K := (log.map Prod.fst).toFinset

theorem lastWins_ne_none_iff (log : List (K × V)) (key : K) :
    lastWins log key ≠ none ↔ key ∈ keysOf log := by
  rw [lastWins_eq_getLast?, ne_eq, List.getLast?_eq_none_iff, List.eq_nil_iff_forall_not_mem,
    not_forall_not, keysOf, List.mem_toFinset]
  simp [mem_valuesFor]

/-- The dict has a key where the log does, and values that read like its last ones. -/
theorem keys_toFinset_of_lastWins {dict : PyDict K V} {log : List (K × V)} {read : V → W}
    (h : ∀ key, (dict.get? key).map read = (lastWins log key).map read) :
    dict.keys.toFinset = keysOf log := by
  ext key
  rw [← lastWins_ne_none_iff, List.mem_toFinset]
  have hkey := h key
  cases hget : dict.get? key with
  | none =>
    rw [hget, Option.map_none, eq_comm, Option.map_eq_none_iff] at hkey
    simp [hkey, (dict.get?_eq_none_iff key).mp hget]
  | some value =>
    rw [hget] at hkey
    have hmem : key ∈ dict.keys := by
      by_contra hnone
      rw [(dict.get?_eq_none_iff key).mpr hnone] at hget
      cases hget
    refine iff_of_true hmem ?_
    intro hnone
    rw [hnone] at hkey
    cases hkey

theorem length_values_of_lastWins {dict : PyDict K V} {log : List (K × V)} {read : V → W}
    (h : ∀ key, (dict.get? key).map read = (lastWins log key).map read) :
    dict.values.length = (keysOf log).card := by
  rw [dict.length_values, keys_toFinset_of_lastWins h]

/-- A dict whose values weigh what the last entries of a log weigh. -/
theorem sum_values_of_lastWins {M : Type*} [AddCommMonoid M] {weight : V → M} {dict : PyDict K V}
    {log : List (K × V)} (h : ∀ key, (dict.get? key).map weight = (lastWins log key).map weight) :
    (dict.values.map weight).sum =
      ∑ key ∈ keysOf log, (lastWins log key).elim 0 weight := by
  have helim : ∀ value : Option V, value.elim 0 weight = (value.map weight).getD 0 := by
    intro value
    cases value <;> rfl
  rw [dict.sum_values, keys_toFinset_of_lastWins h]
  refine Finset.sum_congr rfl ?_
  intro key _
  rw [helim, h, helim]

theorem countP_values_of_lastWins {dict : PyDict K V} {log : List (K × V)}
    (h : ∀ key, dict.get? key = lastWins log key) (p : V → Bool) :
    dict.values.countP p =
      ((keysOf log).filter fun key => ∃ value ∈ lastWins log key, p value = true).card := by
  have hread : ∀ key, (dict.get? key).map id = (lastWins log key).map id := by
    intro key
    rw [h]
  simp only [dict.countP_values, keys_toFinset_of_lastWins hread, h]

end VeriPay.Lib
