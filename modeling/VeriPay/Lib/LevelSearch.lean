import Mathlib.Data.Set.Card
import Mathlib.Data.Finset.Union
import Mathlib.Logic.Relation

/-!
Search by levels: everything one step away from what was found last joins what was found
before, until nothing new is found or more than a cap has been. The search ends on a ball
around its start, the first one that is closed or larger than the cap.
-/

namespace VeriPay.Lib

variable {α : Type} [DecidableEq α]

/-- What is found from these elements on, at most this many rounds later. -/
def levelSearch (next : α → Finset α) (cap : ℕ) : ℕ → Finset α → Finset α → Finset α
  | 0, seen, _ => seen
  | rounds + 1, seen, fresh =>
    if fresh = ∅ then seen
    else if cap < (seen ∪ fresh).card then seen ∪ fresh
    else levelSearch next cap rounds (seen ∪ fresh) (fresh.biUnion next \ (seen ∪ fresh))

/-- What is at most this many steps away. -/
def ball (next : α → Finset α) (start : α) : ℕ → Finset α
  | 0 => {start}
  | steps + 1 => ball next start steps ∪ (ball next start steps).biUnion next

/-- Some steps lead there. -/
def Reaches (next : α → Finset α) : α → α → Prop :=
  Relation.ReflTransGen (fun a b => b ∈ next a)

/-- The search still goes on when it comes to this element. -/
def Discovered (next : α → Finset α) (cap : ℕ) (start a : α) : Prop :=
  ∃ steps, a ∈ ball next start steps ∧ ∀ fewer < steps, (ball next start fewer).card ≤ cap

section Balls

variable {next : α → Finset α} {start a b : α} {steps : ℕ}

theorem ball_subset_succ : ball next start steps ⊆ ball next start (steps + 1) :=
  Finset.subset_union_left

theorem ball_mono : Monotone (ball next start) :=
  monotone_nat_of_le_succ fun _ => ball_subset_succ

theorem start_mem_ball (steps : ℕ) : start ∈ ball next start steps :=
  ball_mono (Nat.zero_le steps) (Finset.mem_singleton_self start)

theorem mem_ball_succ (ha : a ∈ ball next start steps) (hb : b ∈ next a) :
    b ∈ ball next start (steps + 1) :=
  Finset.mem_union_right _ (Finset.mem_biUnion.mpr ⟨a, ha, hb⟩)

theorem reaches_of_mem_ball (h : a ∈ ball next start steps) : Reaches next start a := by
  induction steps generalizing a with
  | zero =>
    rw [Finset.mem_singleton.mp h]
    exact Relation.ReflTransGen.refl
  | succ steps ih =>
    rcases Finset.mem_union.mp h with hnear | hfar
    · exact ih hnear
    · obtain ⟨last, hlast, hstep⟩ := Finset.mem_biUnion.mp hfar
      exact (ih hlast).tail hstep

/-- A ball that does not grow holds everything reached. -/
theorem ball_of_closed (h : ball next start (steps + 1) = ball next start steps)
    (ha : Reaches next start a) : a ∈ ball next start steps := by
  induction ha with
  | refl => exact start_mem_ball steps
  | tail _ hstep ih =>
    rw [← h]
    exact mem_ball_succ ih hstep

theorem start_discovered (next : α → Finset α) (cap : ℕ) (start : α) :
    Discovered next cap start start :=
  ⟨0, start_mem_ball 0, fun _ hfewer => absurd hfewer (Nat.not_lt_zero _)⟩

end Balls

section Search

variable {next : α → Finset α} {cap : ℕ} {start a : α}

/-- Between two rounds: the last ball is explored, and the rest of this one is fresh. -/
structure Level (next : α → Finset α) (start : α) (steps : ℕ) (seen fresh : Finset α) : Prop where
  union : seen ∪ fresh = ball next start steps
  disjoint : Disjoint seen fresh
  explored : ∀ a ∈ seen, next a ⊆ ball next start steps

theorem Level.first (next : α → Finset α) (start : α) : Level next start 0 ∅ {start} where
  union := Finset.empty_union _
  disjoint := Finset.disjoint_empty_left _
  explored _ h := absurd h (Finset.notMem_empty _)

/-- One step further on, what is new is one step away from what was fresh. -/
theorem Level.ball_succ {steps : ℕ} {seen fresh : Finset α}
    (h : Level next start steps seen fresh) :
    ball next start (steps + 1) = ball next start steps ∪ fresh.biUnion next := by
  rw [ball]
  nth_rewrite 2 [← h.union]
  rw [Finset.union_biUnion, ← Finset.union_assoc]
  congr 1
  exact Finset.union_eq_left.mpr (Finset.biUnion_subset.mpr h.explored)

theorem Level.step {steps : ℕ} {seen fresh : Finset α}
    (h : Level next start steps seen fresh) :
    Level next start (steps + 1) (seen ∪ fresh) (fresh.biUnion next \ (seen ∪ fresh)) where
  union := by rw [Finset.union_sdiff_self_eq_union, h.union, h.ball_succ]
  disjoint := Finset.disjoint_sdiff
  explored a ha := by
    rw [h.union] at ha
    exact fun b hb => mem_ball_succ ha hb

/-- The search ends on a ball that is closed or the first over the cap. -/
theorem Level.levelSearch {rounds steps : ℕ} {seen fresh : Finset α}
    (h : Level next start steps seen fresh) (hcap : seen.card ≤ cap)
    (hrounds : cap + 1 ≤ rounds + seen.card)
    (hfewer : ∀ fewer < steps, (ball next start fewer).card ≤ cap) :
    ∃ last, levelSearch next cap rounds seen fresh = ball next start last ∧
      (∀ fewer < last, (ball next start fewer).card ≤ cap) ∧
      (cap < (ball next start last).card ∨
        ball next start (last + 1) = ball next start last) := by
  induction rounds generalizing steps seen fresh with
  | zero => omega
  | succ rounds ih =>
    rw [Lib.levelSearch]
    by_cases hempty : fresh = ∅
    · have hball : seen = ball next start steps := by
        rw [← h.union, hempty, Finset.union_empty]
      refine ⟨steps, ?_, hfewer, Or.inr ?_⟩
      · rw [if_pos hempty, hball]
      · rw [h.ball_succ, hempty, Finset.biUnion_empty, Finset.union_empty]
    · rw [if_neg hempty]
      by_cases hover : cap < (seen ∪ fresh).card
      · refine ⟨steps, ?_, hfewer, Or.inl ?_⟩
        · rw [if_pos hover, h.union]
        · rw [← h.union]
          exact hover
      · rw [if_neg hover]
        have hgrow : seen.card + 1 ≤ (seen ∪ fresh).card := by
          have hsome := Finset.card_pos.mpr (Finset.nonempty_iff_ne_empty.mpr hempty)
          rw [Finset.card_union_of_disjoint h.disjoint]
          omega
        apply ih h.step (by omega) (by omega)
        intro fewer hlt
        rcases Nat.lt_succ_iff_lt_or_eq.mp hlt with hlt | heq
        · exact hfewer fewer hlt
        · rw [heq, ← h.union]
          omega

theorem exists_levelSearch_eq_ball (next : α → Finset α) (cap : ℕ) (start : α) :
    ∃ last, levelSearch next cap (cap + 1) ∅ {start} = ball next start last ∧
      (∀ fewer < last, (ball next start fewer).card ≤ cap) ∧
      (cap < (ball next start last).card ∨
        ball next start (last + 1) = ball next start last) := by
  apply (Level.first next start).levelSearch
  · simp
  · omega
  · intro fewer hlt
    exact absurd hlt (Nat.not_lt_zero fewer)

/-- What the search returns, element by element. -/
theorem mem_levelSearch_iff :
    a ∈ levelSearch next cap (cap + 1) ∅ {start} ↔ Discovered next cap start a := by
  obtain ⟨last, hlast, hfewer, hend⟩ := exists_levelSearch_eq_ball next cap start
  rw [hlast]
  constructor
  · intro h
    exact ⟨last, h, hfewer⟩
  · intro h
    obtain ⟨steps, hmem, hbefore⟩ := h
    rcases hend with hover | hclosed
    · have hle : steps ≤ last := by
        by_contra hlater
        have hcap := hbefore last (by omega)
        omega
      exact ball_mono hle hmem
    · exact ball_of_closed hclosed (reaches_of_mem_ball hmem)

/-- Below the cap the search is exact, and over it the search returns more than the cap. -/
theorem levelSearch_exact_or_over (next : α → Finset α) (cap : ℕ) (start : α) :
    (∀ a, a ∈ levelSearch next cap (cap + 1) ∅ {start} → Reaches next start a) ∧
      ((∀ a, Reaches next start a → a ∈ levelSearch next cap (cap + 1) ∅ {start}) ∨
        cap < (levelSearch next cap (cap + 1) ∅ {start}).card) := by
  obtain ⟨last, hlast, -, hend⟩ := exists_levelSearch_eq_ball next cap start
  rw [hlast]
  refine ⟨fun a h => reaches_of_mem_ball h, ?_⟩
  rcases hend with hover | hclosed
  · exact Or.inr hover
  · exact Or.inl fun a h => ball_of_closed hclosed h

theorem coe_levelSearch (h : {a | Reaches next start a}.encard ≤ cap) :
    (levelSearch next cap (cap + 1) ∅ {start} : Set α) = {a | Reaches next start a} := by
  obtain ⟨hsound, hend⟩ := levelSearch_exact_or_over next cap start
  apply Set.Subset.antisymm
  · exact fun a ha => hsound a ha
  · rcases hend with hcomplete | hover
    · exact fun a ha => hcomplete a ha
    · have hle := (Set.encard_le_encard (fun a ha => hsound a ha)).trans h
      rw [Set.encard_coe_eq_coe_finsetCard, Nat.cast_le] at hle
      omega

/-- The search stays within the cap exactly where everything reached does. -/
theorem card_levelSearch_le_iff :
    (levelSearch next cap (cap + 1) ∅ {start}).card ≤ cap ↔
      {a | Reaches next start a}.encard ≤ cap := by
  constructor
  · intro hle
    rcases (levelSearch_exact_or_over next cap start).2 with hcomplete | hover
    · have hsub : {a | Reaches next start a} ⊆
          (levelSearch next cap (cap + 1) ∅ {start} : Set α) := fun a ha => hcomplete a ha
      refine (Set.encard_le_encard hsub).trans ?_
      rw [Set.encard_coe_eq_coe_finsetCard, Nat.cast_le]
      exact hle
    · omega
  · intro h
    have hcard := congrArg Set.encard (coe_levelSearch h)
    rw [Set.encard_coe_eq_coe_finsetCard] at hcard
    rw [← hcard, Nat.cast_le] at h
    exact h

end Search

end VeriPay.Lib
