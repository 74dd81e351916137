import Mathlib.Algebra.Order.Field.Rat
import Mathlib.Tactic.FieldSimp
import Mathlib.Tactic.Linarith
import Mathlib.Tactic.Positivity
import VeriPay.Lib.PyError
import VeriPay.Lib.Thresholds

/-!
The decision threshold that training picks on the validation rows, for the supervised and for the
anomaly model. It is a score of a row, and no threshold at all has a greater F1.
-/

namespace VeriPay.Training

open Lib

/-- A validation row: whether it is fraud, and what the model scored it. -/
structure ScoredRow where
  label : Bool
  score : ℚ

section Measures

variable (rows : List ScoredRow) (threshold : ℚ)

def truePositives : ℕ := rows.countP fun row => row.label && threshold ≤ row.score

def flagged : ℕ := rows.countP fun row => threshold ≤ row.score

def positives : ℕ := rows.countP fun row => row.label

def precisionAt : ℚ := truePositives rows threshold / flagged rows threshold

/-- Without positives the recall counts as one. -/
def recallAt : ℚ :=
  if positives rows = 0 then 1 else truePositives rows threshold / positives rows

/-- The F1 of what the threshold flags. -/
def f1At : ℚ := 2 * truePositives rows threshold / (flagged rows threshold + positives rows)

end Measures

/-- What `precision_recall_curve` answers. -/
structure PrecisionRecall where
  precisions : List ℚ
  recalls : List ℚ
  thresholds : List ℚ

/-- What is documented of it: the scores in increasing order, the precision and the recall at each,
and a last point of precision one and recall zero. -/
structure Documented (rows : List ScoredRow) (curve : PrecisionRecall) : Prop where
  increasing : curve.thresholds.Pairwise (· < ·)
  mem_thresholds_iff : ∀ t, t ∈ curve.thresholds ↔ ∃ row ∈ rows, row.score = t
  precisions_eq : curve.precisions = curve.thresholds.map (precisionAt rows) ++ [1]
  recalls_eq : curve.recalls = curve.thresholds.map (recallAt rows) ++ [0]

/-- `2 * precision * recall / max(precision + recall, 1e-12)`. -/
def guardedF1 (p r : ℚ) : ℚ := 2 * p * r / max (p + r) (1 / 10 ^ 12)

/-- The threshold at the first greatest value. -/
def thresholdAt (f1 thresholds : List ℚ) : Py ℚ :=
  match argmaxIndex f1 with
  | none => .error (.valueError "attempt to get argmax of an empty sequence")
  | some i => .ok (thresholds.getD i.val (1 / 2))

def bestThreshold (precisionRecallCurve : List ScoredRow → PrecisionRecall)
    (rows : List ScoredRow) : Py ℚ :=
  let curve := precisionRecallCurve rows
  thresholdAt (List.zipWith guardedF1 curve.precisions curve.recalls) curve.thresholds

section Counts

variable {rows : List ScoredRow} {threshold : ℚ}

theorem truePositives_le_positives (rows : List ScoredRow) (threshold : ℚ) :
    truePositives rows threshold ≤ positives rows :=
  List.countP_mono_left fun _ _ h => (Bool.and_eq_true_iff.mp h).1

theorem f1At_nonneg (rows : List ScoredRow) (threshold : ℚ) : 0 ≤ f1At rows threshold := by
  unfold f1At
  positivity

theorem guardedF1_nonneg {p r : ℚ} (hprecision : 0 ≤ p) (hrecall : 0 ≤ r) :
    0 ≤ guardedF1 p r := by
  unfold guardedF1
  positivity

theorem precisionAt_nonneg (rows : List ScoredRow) (threshold : ℚ) :
    0 ≤ precisionAt rows threshold := by
  unfold precisionAt
  positivity

theorem recallAt_nonneg (rows : List ScoredRow) (threshold : ℚ) : 0 ≤ recallAt rows threshold := by
  unfold recallAt
  positivity

/-- A threshold counts by what it flags. -/
theorem f1At_congr {other : ℚ} (h : ∀ row ∈ rows, threshold ≤ row.score ↔ other ≤ row.score) :
    f1At rows threshold = f1At rows other := by
  have hflags : ∀ row ∈ rows, decide (threshold ≤ row.score) = decide (other ≤ row.score) :=
    fun row hrow => decide_eq_decide.mpr (h row hrow)
  have hfound : truePositives rows threshold = truePositives rows other :=
    List.countP_congr fun row hrow => by rw [hflags row hrow]
  have hall : flagged rows threshold = flagged rows other :=
    List.countP_congr fun row hrow => by rw [hflags row hrow]
  rw [f1At, f1At, hfound, hall]

theorem f1At_of_nothing (h : ∀ row ∈ rows, row.score < threshold) : f1At rows threshold = 0 := by
  have hfound : truePositives rows threshold = 0 := by
    refine List.countP_eq_zero.mpr ?_
    intro row hrow
    simp [h row hrow]
  rw [f1At, hfound]
  simp

/-- Up to a million million rows the guard does not show. -/
theorem guardedF1_eq_f1At (hflags : ∃ row ∈ rows, threshold ≤ row.score)
    (hsize : rows.length ≤ 10 ^ 12) :
    guardedF1 (precisionAt rows threshold) (recallAt rows threshold) = f1At rows threshold := by
  have hflagged : 0 < flagged rows threshold := by
    obtain ⟨row, hrow, hle⟩ := hflags
    exact List.countP_pos_iff.mpr ⟨row, hrow, decide_eq_true hle⟩
  have hle := truePositives_le_positives rows threshold
  have hrows : flagged rows threshold ≤ rows.length := List.countP_le_length
  unfold guardedF1 precisionAt recallAt f1At
  generalize truePositives rows threshold = found at *
  generalize flagged rows threshold = all at *
  generalize positives rows = owed at *
  rcases Nat.eq_zero_or_pos found with hnone | hsome
  · simp [hnone]
  · have howed : 0 < owed := hsome.trans_le hle
    rw [if_neg howed.ne']
    have hfound : (1 : ℚ) ≤ found := by exact_mod_cast hsome
    have hall : (0 : ℚ) < all := by exact_mod_cast hflagged
    have howedCast : (0 : ℚ) < owed := by exact_mod_cast howed
    have hsmall : (all : ℚ) ≤ 10 ^ 12 := by exact_mod_cast hrows.trans hsize
    have hguard : (1 : ℚ) / 10 ^ 12 ≤ found / all + found / owed := by
      have hprecision : (1 : ℚ) / 10 ^ 12 ≤ found / all := by
        rw [div_le_div_iff₀ (by positivity) hall]
        nlinarith
      have hrecall : (0 : ℚ) ≤ found / owed := by positivity
      linarith
    rw [max_eq_left hguard]
    field_simp
    rw [add_comm]

end Counts

section Choice

/-- Of values that end in a zero, and none negative, the greatest is at a threshold. -/
theorem thresholdAt_map {thresholds : List ℚ} (hne : thresholds ≠ []) {value : ℚ → ℚ}
    (hvalue : ∀ t, 0 ≤ value t) (hincreasing : thresholds.Pairwise (· < ·)) :
    ∃ best ∈ thresholds, thresholdAt (thresholds.map value ++ [0]) thresholds = .ok best ∧
      (∀ t ∈ thresholds, value t ≤ value best) ∧
      ∀ t ∈ thresholds, value best ≤ value t → best ≤ t := by
  obtain ⟨i, hi⟩ := argmaxIndex_isSome
    (List.append_ne_nil_of_right_ne_nil (thresholds.map value) (List.cons_ne_nil (0 : ℚ) []))
  have hlength : (thresholds.map value ++ [0]).length = thresholds.length + 1 := by simp
  have hget : ∀ j : Fin thresholds.length,
      (thresholds.map value ++ [0]).get ⟨j, by omega⟩ = value (thresholds.get j) := by
    intro j
    simp [List.getElem_append_left]
  have hpos : 0 < thresholds.length := List.length_pos_iff.mpr hne
  have hlt : i.val < thresholds.length := by
    by_contra hlast
    -- The zero at the end is no greater than the first value, which stands before it.
    have hend : i.val = thresholds.length := by
      have hbound := i.isLt
      omega
    have hzero : (thresholds.map value ++ [0]).get i = 0 := by
      simp [hend]
    have hfirst := argmaxIndex_first hi (j := ⟨0, by omega⟩)
      (hzero.trans_le ((hvalue _).trans_eq (hget ⟨0, hpos⟩).symm))
    have hle : i.val ≤ 0 := hfirst
    omega
  refine ⟨thresholds.get ⟨i.val, hlt⟩, List.get_mem _ _, ?_, ?_, ?_⟩
  · unfold thresholdAt
    rw [hi]
    simp [hlt]
  · intro t ht
    obtain ⟨j, rfl⟩ := List.get_of_mem ht
    rw [← hget j, ← hget ⟨i.val, hlt⟩]
    exact le_of_argmaxIndex hi _
  · intro t ht hle
    obtain ⟨j, rfl⟩ := List.get_of_mem ht
    rw [← hget j, ← hget ⟨i.val, hlt⟩] at hle
    have hfirst : i.val ≤ j.val := argmaxIndex_first hi hle
    rcases hfirst.eq_or_lt with heq | hbefore
    · exact le_of_eq (congrArg thresholds.get (Fin.ext heq))
    · exact (List.pairwise_iff_get.mp hincreasing ⟨i.val, hlt⟩ j hbefore).le

variable {rows : List ScoredRow} {curve : PrecisionRecall}

theorem f1_of_documented (h : Documented rows curve) :
    List.zipWith guardedF1 curve.precisions curve.recalls =
      curve.thresholds.map (fun t => guardedF1 (precisionAt rows t) (recallAt rows t)) ++ [0] := by
  rw [h.precisions_eq, h.recalls_eq]
  induction curve.thresholds with
  | nil => simp [guardedF1]
  | cons t rest ih => exact congrArg (_ :: ·) ih

/-- Training picks the score of a row, no threshold has a greater F1, and no lower score has the
same. -/
structure Optimal (rows : List ScoredRow) (best : ℚ) : Prop where
  score : ∃ row ∈ rows, row.score = best
  greatest : ∀ t, f1At rows t ≤ f1At rows best
  least : ∀ row ∈ rows, f1At rows row.score = f1At rows best → best ≤ row.score

theorem bestThreshold_optimal {precisionRecallCurve : List ScoredRow → PrecisionRecall}
    (h : Documented rows (precisionRecallCurve rows)) (hrows : rows ≠ [])
    (hsize : rows.length ≤ 10 ^ 12) :
    ∃ best, bestThreshold precisionRecallCurve rows = .ok best ∧ Optimal rows best := by
  have hne : (precisionRecallCurve rows).thresholds ≠ [] := by
    obtain ⟨row, hrow⟩ := List.exists_mem_of_ne_nil rows hrows
    exact List.ne_nil_of_mem ((h.mem_thresholds_iff _).mpr ⟨row, hrow, rfl⟩)
  obtain ⟨best, hbest, hchosen, hgreatest, hleast⟩ := thresholdAt_map hne
    (fun t => guardedF1_nonneg (precisionAt_nonneg rows t) (recallAt_nonneg rows t)) h.increasing
  have hexact : ∀ row ∈ rows, guardedF1 (precisionAt rows row.score) (recallAt rows row.score) =
      f1At rows row.score := fun row hrow => guardedF1_eq_f1At ⟨row, hrow, le_rfl⟩ hsize
  obtain ⟨chosen, hchosenRow, rfl⟩ := (h.mem_thresholds_iff _).mp hbest
  have hscores : ∀ row ∈ rows, f1At rows row.score ≤ f1At rows chosen.score := by
    intro row hrow
    rw [← hexact row hrow, ← hexact chosen hchosenRow]
    exact hgreatest _ ((h.mem_thresholds_iff _).mpr ⟨row, hrow, rfl⟩)
  refine ⟨chosen.score, ?_, ⟨chosen, hchosenRow, rfl⟩, ?_, ?_⟩
  · rw [← f1_of_documented h] at hchosen
    exact hchosen
  · intro t
    rcases flags_as_score ScoredRow.score rows t with hnothing | ⟨row, hrow, hsame⟩
    · rw [f1At_of_nothing hnothing]
      exact f1At_nonneg rows _
    · rw [f1At_congr hsame]
      exact hscores row hrow
  · intro row hrow hequal
    refine hleast _ ((h.mem_thresholds_iff _).mpr ⟨row, hrow, rfl⟩) ?_
    rw [hexact row hrow, hexact chosen hchosenRow]
    exact hequal.ge

/-- One fraud and one honest row. -/
def twoRows : List ScoredRow := [⟨false, 1 / 5⟩, ⟨true, 9 / 10⟩]

def twoRowsCurve : PrecisionRecall := ⟨[1 / 2, 1, 1], [1, 1, 0], [1 / 5, 9 / 10]⟩

theorem documented_twoRows : Documented twoRows twoRowsCurve where
  increasing := by decide +kernel
  mem_thresholds_iff := by
    intro t
    simp [twoRows, twoRowsCurve, eq_comm]
  precisions_eq := by decide +kernel
  recalls_eq := by decide +kernel

theorem bestThreshold_optimal_twoRows :
    ∃ best, bestThreshold (fun _ => twoRowsCurve) twoRows = .ok best ∧ Optimal twoRows best :=
  bestThreshold_optimal documented_twoRows (by decide) (by decide)

end Choice

end VeriPay.Training
