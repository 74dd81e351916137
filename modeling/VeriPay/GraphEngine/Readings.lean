import VeriPay.GraphEngine.Agreement
import VeriPay.GraphEngine.Orders

/-!
The queries as functions of what a window shows: the merchants of a customer, the customers
of a merchant, the volumes, the close events and the flags. Nothing here has an order, and
the queries compute these functions in every order of their sets.
-/

namespace VeriPay.GraphEngine

open Lib

/-- What a query reads out of a graph. -/
structure Readings where
  merchants : ℤ → Finset String
  customers : String → Finset ℤ
  volume : ℤ → String → ℚ
  close : ℤ → String → ℕ
  flagged : ℤ → Bool

namespace Readings

variable (r : Readings)

/-- The customers one merchant away. -/
def nearby (customer : ℤ) : Finset ℤ := (r.merchants customer).biUnion r.customers

/-- Everybody reached from the customers seen and those found last, up to the cap. -/
def reach : ℕ → Finset ℤ → Finset ℤ → Finset ℤ
  | 0, seen, _ => seen
  | rounds + 1, seen, fresh =>
    if fresh = ∅ then seen
    else if communityMaxNodes < (seen ∪ fresh).card then seen ∪ fresh
    else reach rounds (seen ∪ fresh) (fresh.biUnion r.nearby \ (seen ∪ fresh))

@[simp] theorem reach_empty (rounds : ℕ) (seen : Finset ℤ) : r.reach rounds seen ∅ = seen := by
  cases rounds with
  | zero => rfl
  | succ rounds => exact if_pos rfl

def members (ccNum : ℤ) : Finset ℤ := r.reach (communityMaxNodes + 1) ∅ {ccNum}

def componentStats (ccNum : ℤ) : ℕ × ℚ :=
  let component := r.members ccNum
  if component = ∅ then (1, 0)
  else
    let flaggedInComponent := (component.filter (fun c => r.flagged c)).card
    (component.card, roundTo 4 (flaggedInComponent / component.card))

def peers (ccNum : ℤ) : Finset ℤ :=
  (r.merchants ccNum).biUnion fun merchant => (r.customers merchant).erase ccNum

def fanIn (ccNum : ℤ) : ℕ :=
  ∑ merchant ∈ r.merchants ccNum, ((r.customers merchant).erase ccNum).card

def coOccurrence (ccNum : ℤ) : ℕ := ∑ merchant ∈ r.merchants ccNum, r.close ccNum merchant

def features (ccNum : ℤ) : NodeFeatures :=
  if r.merchants ccNum = ∅ then {}
  else
    let merchantDegree := (r.merchants ccNum).card
    let flaggedNeighbors := (r.peers ccNum).filter (fun p => r.flagged p)
    let shared := (r.peers ccNum).card
    let flaggedExposure : ℚ := if shared ≠ 0 then flaggedNeighbors.card / shared else 0
    { merchantDegree := merchantDegree
      merchantFanIn := min (r.fanIn ccNum) (max 1 merchantDegree * 1000)
      sharedCounterpartyCount := shared
      coOccurrenceCount := r.coOccurrence ccNum
      flaggedNeighborCount := flaggedNeighbors.card
      flaggedExposure := roundTo 4 flaggedExposure
      clusterSize := (r.componentStats ccNum).1
      clusterFlaggedRatio := roundTo 4 (r.componentStats ccNum).2 }

def status (ccNum customer : ℤ) : String :=
  if customer = ccNum then "self" else if r.flagged customer then "flagged" else "normal"

def community (ccNum : ℤ) (nodeLimit : ℤ) : CommunityOverview :=
  let members := orAlone (r.members ccNum) ccNum
  let flaggedMembers := members.filter (fun c => r.flagged c)
  let sharedMerchants := members.biUnion r.merchants
  let totalVolume := ∑ customer ∈ members, ∑ merchant ∈ r.merchants customer,
    r.volume customer merchant
  { stats := [
      ("cluster_size", .int members.card),
      ("flagged_count", .int flaggedMembers.card),
      ("flagged_ratio", .float (roundTo 4 (flaggedMembers.card / max 1 members.card))),
      ("distinct_shared_merchants", .int sharedMerchants.card),
      ("total_volume", .float (roundTo 2 totalVolume)),
      ("dominant_pattern",
        .str (communityPattern members.card flaggedMembers.card sharedMerchants.card))]
    members := (upTo nodeLimit (sortedCustomers members)).map (fun (c : ℤ) =>
      .obj [("cc_num", .int c), ("status", .str (r.status ccNum c))]) }

end Readings

/-- The helpers of a query return these readings. -/
structure Reads (store : GraphStore) (windowDays : Option ℤ) (r : Readings) : Prop where
  scopedMerchants : ∀ c, store.scopedMerchants c windowDays = .ok (r.merchants c)
  scopedCustomers : ∀ m, store.scopedCustomers m windowDays = .ok (r.customers m)
  edgeVolume : ∀ c m, store.edgeVolume c m windowDays = .ok (r.volume c m)
  coOccurs : ∃ cutoff, store.cutoff windowDays = .ok cutoff ∧ ∀ c m, ∃ close,
    filterPy (GraphStore.coOccurs cutoff c (store.merchantEvents m)) (store.merchantEvents m) =
      .ok close ∧ close.length = r.close c m
  isFlagged : ∀ c, store.isFlagged c = r.flagged c

namespace Reads

variable {store : GraphStore} {windowDays : Option ℤ} {r : Readings} (order : SetOrder)

theorem coOccurrence (h : Reads store windowDays r) (c : ℤ) :
    order.coOccurrence store c (r.merchants c) windowDays = .ok (r.coOccurrence c) := by
  obtain ⟨cutoff, hcutoff, hclose⟩ := h.coOccurs
  rw [SetOrder.coOccurrence, hcutoff, Py.ok_bind, foldlM_ok (fun count m => count + r.close c m),
    (order.visits_merchants c _).foldl_add, Nat.zero_add, Readings.coOccurrence]
  intro count m _
  obtain ⟨close, hfound, hlength⟩ := hclose c m
  dsimp only
  rw [hfound, Py.ok_bind, hlength]
  rfl

/-- One customer of a frontier. -/
theorem visit (h : Reads store windowDays r) (seen next : Finset ℤ) (c : ℤ) :
    order.visit store windowDays (seen, next) c =
      .ok (if c ∈ seen then (seen, next)
        else (insert c seen, next ∪
          (r.nearby c).filter (fun peer => peer ≠ c ∧ peer ∉ insert c seen))) := by
  unfold SetOrder.visit
  dsimp only
  split_ifs with hseen
  · rfl
  · rw [h.scopedMerchants, Py.ok_bind, foldlM_ok (fun next m =>
        next ∪ (r.customers m).filter (fun peer => peer ≠ c ∧ peer ∉ insert c seen)),
      (order.visits_merchants c _).foldl_union, ← Finset.filter_biUnion]
    · rfl
    · intro next m _
      rw [h.scopedCustomers, Py.ok_bind]
      rfl

/-- The next frontier after one more customer, beside those seen by then. -/
theorem mem_visited_iff (r : Readings) {c p : ℤ} {rest : List ℤ} {seen next : Finset ℤ}
    (hseen : c ∉ seen) (hp : p ∉ insert c seen) :
    (p ∈ next ∪ (r.nearby c).filter (fun peer => peer ≠ c ∧ peer ∉ insert c seen) ∨
        ∃ d ∈ rest, d ∉ insert c seen ∧ p ∈ r.nearby d) ↔
      p ∈ next ∨ ∃ d ∈ c :: rest, d ∉ seen ∧ p ∈ r.nearby d := by
  have hother : p ≠ c := fun heq => hp (heq ▸ Finset.mem_insert_self c seen)
  rw [Finset.mem_union, Finset.mem_filter]
  constructor
  · intro h
    rcases h with (hnext | hnear) | ⟨d, hd, hdnew, hnear⟩
    · exact Or.inl hnext
    · exact Or.inr ⟨c, List.mem_cons_self, hseen, hnear.1⟩
    · exact Or.inr ⟨d, List.mem_cons_of_mem c hd,
        fun hold => hdnew (Finset.mem_insert_of_mem hold), hnear⟩
  · intro h
    rcases h with hnext | ⟨d, hd, hdnew, hnear⟩
    · exact Or.inl (Or.inl hnext)
    · by_cases hsame : d = c
      · subst hsame
        exact Or.inl (Or.inr ⟨hnear, hother, hp⟩)
      · have hrest := (List.mem_cons.mp hd).resolve_left hsame
        refine Or.inr ⟨d, hrest, ?_, hnear⟩
        rw [Finset.mem_insert]
        exact fun hold => hold.elim hsame hdnew

/-- What a round adds to the customers seen, and to the next frontier beside them. -/
theorem visitAll (h : Reads store windowDays r) (frontier : List ℤ) (seen next : Finset ℤ) :
    ∃ after, frontier.foldlM (order.visit store windowDays) (seen, next) =
        .ok (seen ∪ frontier.toFinset, after) ∧
      ((∀ c ∈ frontier, c ∈ seen) → after = next) ∧
      ∀ p ∉ seen ∪ frontier.toFinset,
        p ∈ after ↔ p ∈ next ∨ ∃ c ∈ frontier, c ∉ seen ∧ p ∈ r.nearby c := by
  induction frontier generalizing seen next with
  | nil => exact ⟨next, by simp; rfl, by simp, by simp⟩
  | cons c rest ih =>
    rw [List.foldlM_cons, h.visit, Py.ok_bind, List.toFinset_cons]
    by_cases hseen : c ∈ seen
    · obtain ⟨after, hrun, hquiet, hmem⟩ := ih seen next
      rw [if_pos hseen]
      have hall : seen ∪ insert c rest.toFinset = seen ∪ rest.toFinset := by
        rw [Finset.union_insert, Finset.insert_eq_of_mem (Finset.mem_union_left _ hseen)]
      rw [hall]
      refine ⟨after, hrun, ?_, ?_⟩
      · intro hold
        exact hquiet fun d hd => hold d (List.mem_cons_of_mem c hd)
      · intro p hp
        rw [hmem p hp]
        simp [hseen]
    · obtain ⟨after, hrun, hquiet, hmem⟩ := ih (insert c seen)
        (next ∪ (r.nearby c).filter (fun peer => peer ≠ c ∧ peer ∉ insert c seen))
      rw [if_neg hseen]
      have hall : seen ∪ insert c rest.toFinset = insert c seen ∪ rest.toFinset := by
        rw [Finset.union_insert, Finset.insert_union]
      rw [hall]
      refine ⟨after, hrun, ?_, ?_⟩
      · intro hold
        exact absurd (hold c List.mem_cons_self) hseen
      · intro p hp
        rw [hmem p hp]
        exact mem_visited_iff r hseen fun hold => hp (Finset.mem_union_left _ hold)

/-- The search reaches the same customers in every order. A frontier may hold customers
already seen; those are visited for nothing. -/
theorem communityFrom (h : Reads store windowDays r) {fuel rounds : ℕ}
    {seen frontier : Finset ℤ} (hfuel : Agree.FuelLeft fuel seen frontier)
    (hrounds : communityMaxNodes + 1 ≤ rounds + seen.card) :
    order.communityFrom store windowDays fuel seen frontier =
      .ok (r.reach rounds seen (frontier \ seen)) := by
  induction fuel generalizing seen frontier rounds with
  | zero =>
    unfold Agree.FuelLeft at hfuel
    omega
  | succ fuel ih =>
    unfold SetOrder.communityFrom
    by_cases hempty : frontier = ∅
    · rw [if_pos hempty, hempty, Finset.empty_sdiff, r.reach_empty]
      rfl
    · rw [if_neg hempty]
      have hvisits := order.visits_customers (fuel + 1) frontier
      obtain ⟨next, hrun, hquiet, hmem⟩ :=
        h.visitAll order (order.customers (fuel + 1) frontier) seen ∅
      rw [hvisits.toFinset_eq] at hrun hmem
      rw [hrun, Py.ok_bind]
      dsimp only
      by_cases hsub : frontier ⊆ seen
      · have hnext : next = ∅ := hquiet fun c hc => hsub (hvisits.mem_iff.mp hc)
        rw [Finset.sdiff_eq_empty_iff_subset.mpr hsub, r.reach_empty,
          Finset.union_eq_left.mpr hsub, hnext]
        split_ifs with hcap
        · rfl
        · rw [ih (hfuel.quiet hempty seen) hrounds, Finset.empty_sdiff, r.reach_empty]
      · obtain ⟨hseen, hleft⟩ := hfuel.grow hsub
        have hgrow := Agree.card_lt_card_union hsub
        have hfresh : frontier \ seen ≠ ∅ := fun h => hsub (Finset.sdiff_eq_empty_iff_subset.mp h)
        obtain ⟨rounds, rfl⟩ : ∃ n, rounds = n + 1 := Nat.exists_eq_succ_of_ne_zero (by omega)
        rw [Readings.reach, if_neg hfresh, Finset.union_sdiff_self_eq_union]
        split_ifs with hcap
        · rfl
        · have hnext : next \ (seen ∪ frontier) =
              (frontier \ seen).biUnion r.nearby \ (seen ∪ frontier) := by
            ext p
            rw [Finset.mem_sdiff, Finset.mem_sdiff, and_congr_left_iff]
            intro hp
            rw [hmem p hp, Finset.mem_biUnion]
            simp only [Finset.notMem_empty, false_or, Finset.mem_sdiff, hvisits.mem_iff, and_assoc]
          rw [← hnext]
          exact ih (Or.inr (Or.inr ⟨Nat.le_of_not_lt hcap, hleft⟩)) (by omega)

theorem communityMembers (h : Reads store windowDays r) (c : ℤ) :
    order.communityMembers store c windowDays = .ok (r.members c) := by
  have hfuel : Agree.FuelLeft (communityMaxNodes + 3) ∅ {c} := Or.inr (Or.inr (by simp))
  rw [SetOrder.communityMembers, h.communityFrom order hfuel (Nat.le_add_right _ _),
    Finset.sdiff_empty]
  rfl

theorem componentStats (h : Reads store windowDays r) (c : ℤ) :
    order.componentStats store c windowDays = .ok (r.componentStats c) := by
  rw [SetOrder.componentStats, h.communityMembers, Py.ok_bind]
  simp only [h.isFlagged, Readings.componentStats]
  split_ifs <;> rfl

theorem features (h : Reads store windowDays r) (c : ℤ) :
    order.features store c windowDays = .ok (r.features c) := by
  rw [SetOrder.features, h.scopedMerchants, Py.ok_bind, Readings.features]
  by_cases hempty : r.merchants c = ∅
  · rw [if_pos hempty, if_pos hempty]
    rfl
  · rw [if_neg hempty, if_neg hempty, foldlM_ok (fun state m =>
        (state.1 ∪ (r.customers m).erase c, state.2 + ((r.customers m).erase c).card)),
      (order.visits_merchants c _).foldl_union_add, Py.ok_bind]
    · dsimp only
      rw [h.coOccurrence, Py.ok_bind, h.componentStats, Py.ok_bind]
      simp only [h.isFlagged, Finset.empty_union, Nat.zero_add]
      rfl
    · intro state m _
      dsimp only
      rw [h.scopedCustomers]
      rfl

theorem networkRiskScore (h : Reads store windowDays r) (c : ℤ) :
    order.networkRiskScore store c windowDays = .ok (r.features c).riskScore := by
  rw [SetOrder.networkRiskScore, h.features]
  rfl

theorem findings (h : Reads store windowDays r) (c : ℤ) :
    order.findings store c windowDays = .ok (r.features c).indicators := by
  rw [SetOrder.findings, h.features]
  rfl

theorem addMember (h : Reads store windowDays r) (state : Finset String × ℚ) (c : ℤ) :
    order.addMember store windowDays state c =
      .ok (state.1 ∪ r.merchants c, state.2 + ∑ m ∈ r.merchants c, r.volume c m) := by
  rw [SetOrder.addMember, h.scopedMerchants, Py.ok_bind, foldlM_ok (fun state m =>
      (state.1 ∪ {m}, state.2 + r.volume c m)),
    (order.visits_merchants c _).foldl_union_add, Finset.biUnion_singleton_eq_self]
  intro state m _
  dsimp only
  rw [h.edgeVolume, Finset.union_comm, ← Finset.insert_eq]
  rfl

theorem community (h : Reads store windowDays r) (c : ℤ) (nodeLimit : ℤ) :
    order.community store c windowDays nodeLimit = .ok (r.community c nodeLimit) := by
  have hstatus : ∀ p, store.memberStatus c p = r.status c p := by
    intro p
    rw [GraphStore.memberStatus, h.isFlagged, Readings.status]
  rw [SetOrder.community, h.communityMembers, Py.ok_bind]
  dsimp only
  rw [foldlM_ok _ _ fun state p _ => h.addMember order state p,
    (order.visits_customers 0 _).foldl_union_add, Py.ok_bind]
  simp only [h.isFlagged, hstatus, Finset.empty_union, zero_add]
  rfl

end Reads

end VeriPay.GraphEngine
