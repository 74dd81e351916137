import Mathlib.Data.String.Basic

/-!
Python's text methods on the texts the services take apart. `lower` maps ASCII
letters only: its results are compared with ASCII labels that no other letter
lowers to.
-/

namespace VeriPay.Lib

/-- `text.split(sep, 1)` when the separator occurs. -/
def splitOnce (sep : Char) : List Char → Option (List Char × List Char)
  | [] => none
  | c :: rest =>
    if c = sep then some ([], rest)
    else (splitOnce sep rest).map fun (head, tail) => (c :: head, tail)

theorem splitOnce_append (sep : Char) (head tail : List Char) (h : sep ∉ head) :
    splitOnce sep (head ++ sep :: tail) = some (head, tail) := by
  induction head with
  | nil => simp [splitOnce]
  | cons c rest ih =>
    have hc : c ≠ sep := fun heq => h (heq ▸ List.mem_cons_self)
    have hrest : sep ∉ rest := fun hmem => h (List.mem_cons_of_mem c hmem)
    rw [List.cons_append, splitOnce, if_neg hc, ih hrest]
    rfl

theorem eq_append_of_splitOnce {sep : Char} {text head tail : List Char}
    (h : splitOnce sep text = some (head, tail)) : text = head ++ sep :: tail := by
  induction text generalizing head with
  | nil => cases h
  | cons c rest ih =>
    rw [splitOnce] at h
    split_ifs at h with hc
    · cases h
      rw [hc]
      rfl
    · obtain ⟨⟨first, last⟩, hsplit, hparts⟩ := Option.map_eq_some_iff.mp h
      cases hparts
      rw [ih hsplit]
      rfl

/-- Two joined texts agree in both parts when the last parts have no separator. -/
theorem append_sep_inj {sep : Char} {a b c d : List Char} (hb : sep ∉ b) (hd : sep ∉ d)
    (h : a ++ sep :: b = c ++ sep :: d) : a = c ∧ b = d := by
  have hreverse := congrArg (fun text => splitOnce sep text.reverse) h
  simp only [List.reverse_append, List.reverse_cons, List.append_assoc, List.singleton_append]
    at hreverse
  rw [splitOnce_append _ _ _ (by simpa using hb), splitOnce_append _ _ _ (by simpa using hd)]
    at hreverse
  simp only [Option.some.injEq, Prod.mk.injEq, List.reverse_inj] at hreverse
  exact ⟨hreverse.2, hreverse.1⟩

/-- `text.partition(sep)`, without the separator. -/
def partition (sep : Char) (text : String) : String × String :=
  match splitOnce sep text.toList with
  | none => (text, "")
  | some (head, tail) => (String.ofList head, String.ofList tail)

/-- `text.split(sep)`. -/
def split (sep : Char) (text : String) : List String :=
  (text.toList.splitOn sep).map String.ofList

theorem splitOnce_of_notMem {sep : Char} {text : List Char} (h : sep ∉ text) :
    splitOnce sep text = none := by
  induction text with
  | nil => rfl
  | cons c rest ih =>
    rw [List.mem_cons, not_or] at h
    obtain ⟨hc, hrest⟩ := h
    rw [splitOnce, if_neg (Ne.symm hc), ih hrest, Option.map_none]

theorem partition_of_notMem {sep : Char} {text : String} (h : sep ∉ text.toList) :
    partition sep text = (text, "") := by
  rw [partition, splitOnce_of_notMem h]

theorem partition_append {sep : Char} {head tail : List Char} (h : sep ∉ head) {text : String}
    (htext : text.toList = head ++ sep :: tail) :
    partition sep text = (String.ofList head, String.ofList tail) := by
  rw [partition, htext, splitOnce_append sep head tail h]

/-- The characters `str.strip` removes. -/
def isPySpace (c : Char) : Bool :=
  (9 ≤ c.toNat ∧ c.toNat ≤ 13) ∨ (28 ≤ c.toNat ∧ c.toNat ≤ 32) ∨ c.toNat = 133 ∨
    c.toNat = 160 ∨ c.toNat = 5760 ∨ (8192 ≤ c.toNat ∧ c.toNat ≤ 8202) ∨ c.toNat = 8232 ∨
    c.toNat = 8233 ∨ c.toNat = 8239 ∨ c.toNat = 8287 ∨ c.toNat = 12288

def strip (text : String) : String :=
  String.ofList ((text.toList.dropWhile isPySpace).reverse.dropWhile isPySpace).reverse

def lower (text : String) : String := String.ofList (text.toList.map Char.toLower)

theorem toNat_toLower (c : Char) :
    c.toLower.toNat = if 65 ≤ c.toNat ∧ c.toNat ≤ 90 then c.toNat + 32 else c.toNat := by
  unfold Char.toLower
  split_ifs with hval hnat hnat
  · simp only [Char.toNat, UInt32.toNat_add]
    have := hnat.2
    simp only [Char.toNat] at this
    have h32 : ('a'.val - 'A'.val).toNat = 32 := by decide
    omega
  · exact absurd ⟨UInt32.le_iff_toNat_le.mp hval.1, UInt32.le_iff_toNat_le.mp hval.2⟩ hnat
  · exact absurd ⟨UInt32.le_iff_toNat_le.mpr hnat.1, UInt32.le_iff_toNat_le.mpr hnat.2⟩ hval
  · rfl

/-- What lowers to a lower letter is the letter or its upper one. -/
theorem toLower_eq_iff {c lower upper : Char} (hlower : 97 ≤ lower.toNat ∧ lower.toNat ≤ 122)
    (hupper : upper.toNat + 32 = lower.toNat) : c.toLower = lower ↔ c = lower ∨ c = upper := by
  rw [← Char.toNat_inj, ← Char.toNat_inj, ← Char.toNat_inj, toNat_toLower]
  split_ifs with h
  · omega
  · omega

end VeriPay.Lib
