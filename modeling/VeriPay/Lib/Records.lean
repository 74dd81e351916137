import VeriPay.Lib.FirstPerKey
import VeriPay.Lib.HeldKeys
import VeriPay.Lib.Machine
import VeriPay.Lib.PyDict

/-!
Records in a dict that is set and popped. The dict is a map under puts and takes, so after any
run it has under each key what was last put there, and its values are those records, each once.
-/

namespace VeriPay.Lib

open HeldKeys

namespace PyDict

variable {K V : Type*}

theorem nodup_keys (dict : PyDict K V) : dict.keys.Nodup := dict.nodup

/-- `dict.pop(key, None)`: the dict that is left. -/
def pop [DecidableEq K] (dict : PyDict K V) (key : K) : PyDict K V where
  items := dict.items.filter fun item => item.1 ≠ key
  nodup := dict.nodup.sublist (List.filter_sublist.map Prod.fst)

variable [DecidableEq K] (dict : PyDict K V)

theorem get?_pop (key other : K) :
    (dict.pop key).get? other = if other = key then none else dict.get? other := by
  refine Option.ext ?_
  intro value
  rw [get?_eq_some_iff, pop, List.mem_filter]
  split_ifs with h
  · simp [h]
  · rw [get?_eq_some_iff]
    simp [h]

theorem get?_eq_none_iff (key : K) : dict.get? key = none ↔ key ∉ dict.keys := by
  rw [Option.eq_none_iff_forall_ne_some, keys]
  constructor
  · intro h hmem
    obtain ⟨⟨_, value⟩, hitem, rfl⟩ := List.mem_map.mp hmem
    exact h value ((dict.get?_eq_some_iff).mpr hitem)
  · intro h value hvalue
    exact h (List.mem_map.mpr ⟨_, (dict.get?_eq_some_iff).mp hvalue, rfl⟩)

/-- The values are what is found under some key. -/
theorem mem_values_iff (value : V) : value ∈ dict.values ↔ ∃ key, dict.get? key = some value := by
  constructor
  · intro h
    obtain ⟨⟨key, _⟩, hitem, rfl⟩ := List.mem_map.mp h
    exact ⟨key, (dict.get?_eq_some_iff).mpr hitem⟩
  · rintro ⟨key, hkey⟩
    exact mem_values_of_get? hkey

theorem keys_set (key : K) (value : V) :
    (dict.set key value).keys = if key ∈ dict.keys then dict.keys else dict.keys ++ [key] := by
  show (setItems key value dict.items).map Prod.fst = _
  unfold setItems keys
  split_ifs with h
  · exact map_fst_replaced key value dict.items
  · exact List.map_append

/-- Every value is kept under its own key. -/
def FiledBy (key : V → K) : Prop := ∀ k value, dict.get? k = some value → key value = k

theorem FiledBy.empty (key : V → K) : (∅ : PyDict K V).FiledBy key := by
  intro k value h
  cases h

variable {dict}

theorem FiledBy.set {key : V → K} (h : dict.FiledBy key) (value : V) :
    (dict.set (key value) value).FiledBy key := by
  intro k found hfound
  rw [get?_set] at hfound
  split_ifs at hfound with hk
  · rw [← Option.some.inj hfound, hk]
  · exact h k found hfound

theorem FiledBy.pop {key : V → K} (h : dict.FiledBy key) (k : K) : (dict.pop k).FiledBy key := by
  intro other found hfound
  rw [get?_pop] at hfound
  split_ifs at hfound
  exact h other found hfound

/-- Values that are filed by their keys have each a key of their own. -/
theorem FiledBy.map_values {key : V → K} (h : dict.FiledBy key) :
    dict.values.map key = dict.keys := by
  rw [values, keys, List.map_map]
  refine List.map_congr_left ?_
  rintro ⟨k, value⟩ hitem
  exact h k value ((dict.get?_eq_some_iff).mpr hitem)

theorem FiledBy.nodup_values {key : V → K} (h : dict.FiledBy key) : dict.values.Nodup := by
  have hkeys := dict.nodup_keys
  rw [← h.map_values] at hkeys
  exact hkeys.of_map

end PyDict

section Moves

variable {K V : Type*} [DecidableEq K]

/-- The dict after one move. -/
def PyDict.move (dict : PyDict K V) : Move K V → PyDict K V
  | .idle => dict
  | .put key value => dict.set key value
  | .take key => dict.pop key

theorem PyDict.get?_move (dict : PyDict K V) (move : Move K V) :
    (dict.move move).get? = HeldKeys.apply dict.get? move := by
  funext other
  cases move with
  | idle => rfl
  | put key value =>
    rw [PyDict.move, HeldKeys.apply, PyDict.get?_set, Function.update_apply]
  | take key => rw [PyDict.move, HeldKeys.apply, PyDict.get?_pop, Function.update_apply]

variable {S L O : Type*} {m : Machine S L O} {part : S → PyDict K V} {moveOf : L → Move K V}

/-- After any run a key has what was last put there. -/
theorem get?_run_iff (hstep : ∀ s call, part (m.next s call) = (part s).move (moveOf call))
    {s : S} (hinit : part s = ∅) (calls : List L) (key : K) (value : V) :
    (part (m.run s calls)).get? key = some value ↔ LastPut (calls.map moveOf) key value := by
  have hrun : (part (m.run s calls)).get? = HeldKeys.run (calls.map moveOf) := by
    induction calls using List.reverseRecOn with
    | nil =>
      rw [Machine.run_nil, hinit]
      rfl
    | append_singleton calls call ih =>
      rw [Machine.run_concat, hstep, PyDict.get?_move, ih, List.map_append, List.map_singleton,
        HeldKeys.run_concat]
  rw [hrun, run_eq_some_iff]

/-- Where every record is put under its own key, what is held after a run is what was last put:
a lookup finds it under its key, and a listing has it once. -/
theorem run_records (hstep : ∀ s call, part (m.next s call) = (part s).move (moveOf call))
    {key : V → K} (hkey : ∀ call k value, moveOf call = .put k value → k = key value)
    {s : S} (hinit : part s = ∅) (calls : List L) :
    (∀ k value, (part (m.run s calls)).get? k = some value ↔
      key value = k ∧ LastPut (calls.map moveOf) (key value) value) ∧
    (part (m.run s calls)).values.Nodup ∧
    ∀ value, value ∈ (part (m.run s calls)).values ↔
      LastPut (calls.map moveOf) (key value) value := by
  have hfiled : (part (m.run s calls)).FiledBy key := by
    induction calls using List.reverseRecOn with
    | nil =>
      rw [Machine.run_nil, hinit]
      exact .empty key
    | append_singleton calls call ih =>
      rw [Machine.run_concat, hstep]
      cases hmove : moveOf call with
      | idle => exact ih
      | put k value =>
        obtain rfl := hkey call k value hmove
        exact ih.set value
      | take k => exact ih.pop k
  have hget := get?_run_iff hstep hinit calls
  refine ⟨?_, hfiled.nodup_values, ?_⟩
  · intro k value
    rw [hget]
    constructor
    · intro hlast
      obtain rfl := hfiled k value ((hget k value).mpr hlast)
      exact ⟨rfl, hlast⟩
    · rintro ⟨rfl, hlast⟩
      exact hlast
  · intro value
    rw [PyDict.mem_values_iff, ← hget]
    constructor
    · rintro ⟨k, hk⟩
      rwa [hfiled k value hk]
    · intro hvalue
      exact ⟨key value, hvalue⟩

end Moves

section Order

variable {K V : Type} [DecidableEq K] {S L O : Type*} {m : Machine S L O}
  {part : S → PyDict K V} {moveOf : L → Move K V}

/-- The keys that are put, in the order of the puts. -/
def putKeys (moves : List (Move K V)) : List K :=
  moves.filterMap fun
    | .put key _ => some key
    | _ => none

omit [DecidableEq K] in
theorem putKeys_concat (moves : List (Move K V)) (move : Move K V) :
    putKeys (moves ++ [move]) = putKeys moves ++ putKeys [move] := List.filterMap_append

/-- Where nothing is taken, the keys stand in the order in which they were first put. -/
theorem keys_run (hstep : ∀ s call, part (m.next s call) = (part s).move (moveOf call))
    (hkeep : ∀ call key, moveOf call ≠ .take key) {s : S} (hinit : part s = ∅) (calls : List L) :
    (part (m.run s calls)).keys = firstPerKey id (putKeys (calls.map moveOf)) := by
  induction calls using List.reverseRecOn with
  | nil =>
    rw [Machine.run_nil, hinit]
    rfl
  | append_singleton calls call ih =>
    rw [Machine.run_concat, hstep, List.map_append, List.map_singleton, putKeys_concat]
    cases hmove : moveOf call with
    | idle =>
      rw [show putKeys [(Move.idle : Move K V)] = [] from rfl, List.append_nil]
      exact ih
    | put key value =>
      rw [PyDict.move, PyDict.keys_set, show putKeys [Move.put key value] = [key] from rfl,
        firstPerKey_concat, List.map_id, ih]
      simp only [mem_firstPerKey_id_iff, id]
    | take key => exact absurd hmove (hkeep call key)

end Order

end VeriPay.Lib
