import VeriPay.Lib.SameOk
import VeriPay.GraphEngine.Queries

/-!
Two graphs that agree on a region of customers and merchants which the queries
never leave. Every query about a customer of the region then returns, and returns
the same from both graphs. With one graph on both sides this is the totality of
the queries.
-/

namespace VeriPay.GraphEngine

open Lib

/-- The helpers answer alike about the customers and merchants of the region, and
lead from them to others of the region only. -/
structure Agree (store other : GraphStore) (windowDays : Option ℤ) (customers : Set ℤ)
    (merchants : Set String) : Prop where
  scopedMerchants : ∀ c ∈ customers, SameOk (fun found => ∀ m ∈ found, m ∈ merchants)
    (store.scopedMerchants c windowDays) (other.scopedMerchants c windowDays)
  scopedCustomers : ∀ m ∈ merchants, SameOk (fun found => ∀ c ∈ found, c ∈ customers)
    (store.scopedCustomers m windowDays) (other.scopedCustomers m windowDays)
  edgeVolume : ∀ c ∈ customers, ∀ m, SameOk (fun _ => True)
    (store.edgeVolume c m windowDays) (other.edgeVolume c m windowDays)
  coOccurrence : ∀ c ∈ customers, ∀ found : Finset String, (∀ m ∈ found, m ∈ merchants) →
    SameOk (fun _ => True)
      (store.coOccurrence c found windowDays) (other.coOccurrence c found windowDays)
  isFlagged : ∀ c ∈ customers, store.isFlagged c = other.isFlagged c

namespace Agree

variable {store other : GraphStore} {windowDays : Option ℤ} {customers : Set ℤ}
  {merchants : Set String}

theorem filter_isFlagged (h : Agree store other windowDays customers merchants) {s : Finset ℤ}
    (hs : ∀ c ∈ s, c ∈ customers) :
    s.filter (fun c => store.isFlagged c) = s.filter (fun c => other.isFlagged c) := by
  refine Finset.filter_congr ?_
  intro c hc
  rw [h.isFlagged c (hs c hc)]

theorem exists_isFlagged (h : Agree store other windowDays customers merchants) {s : Finset ℤ}
    (hs : ∀ c ∈ s, c ∈ customers) :
    (∃ c ∈ s, store.isFlagged c = true) ↔ ∃ c ∈ s, other.isFlagged c = true := by
  refine exists_congr ?_
  intro c
  refine and_congr_right ?_
  intro hc
  rw [h.isFlagged c (hs c hc)]

/-- One customer of a frontier. A customer seen before adds nothing. -/
theorem visit (h : Agree store other windowDays customers merchants) {seen next : Finset ℤ}
    {c : ℤ} (hc : c ∈ customers) (hnext : ∀ p ∈ next, p ∈ customers) :
    SameOk (fun state => state.1 = insert c seen ∧ (∀ p ∈ state.2, p ∈ customers) ∧
        (c ∈ seen → state.2 = next))
      (store.visit windowDays (seen, next) c) (other.visit windowDays (seen, next) c) := by
  unfold GraphStore.visit
  dsimp only
  by_cases hseen : c ∈ seen
  · rw [if_pos hseen, if_pos hseen]
    exact .ok ⟨(Finset.insert_eq_of_mem hseen).symm, hnext, fun _ => rfl⟩
  · rw [if_neg hseen, if_neg hseen]
    refine (h.scopedMerchants c hc).bind ?_
    intro found hfound
    refine SameOk.bind (P := fun next => ∀ p ∈ next, p ∈ customers) (.foldlM hnext ?_) ?_
    · intro next hnext m hm
      refine (h.scopedCustomers m (hfound m ((Finset.mem_sort _).mp hm))).bind ?_
      intro crowd hcrowd
      refine .ok ?_
      intro p hp
      rcases Finset.mem_union.mp hp with hp | hp
      · exact hnext p hp
      · exact hcrowd p (Finset.mem_filter.mp hp).1
    · intro next hnext
      exact .ok ⟨rfl, hnext, fun hmem => absurd hmem hseen⟩

theorem visitAll (h : Agree store other windowDays customers merchants) {frontier : List ℤ}
    {seen next : Finset ℤ} (hfrontier : ∀ c ∈ frontier, c ∈ customers)
    (hnext : ∀ p ∈ next, p ∈ customers) :
    SameOk (fun state => state.1 = seen ∪ frontier.toFinset ∧ (∀ p ∈ state.2, p ∈ customers) ∧
        ((∀ c ∈ frontier, c ∈ seen) → state.2 = next))
      (frontier.foldlM (store.visit windowDays) (seen, next))
      (frontier.foldlM (other.visit windowDays) (seen, next)) := by
  induction frontier generalizing seen next with
  | nil => exact .ok ⟨by simp, hnext, fun _ => rfl⟩
  | cons c rest ih =>
    rw [List.foldlM_cons, List.foldlM_cons]
    refine (h.visit (hfrontier c List.mem_cons_self) hnext).bind ?_
    intro ⟨seen', next'⟩ ⟨hseen', hnext', hold⟩
    dsimp only at hseen' hnext' hold
    subst hseen'
    refine (ih (fun d hd => hfrontier d (List.mem_cons_of_mem c hd)) hnext').weaken ?_
    intro state ⟨hseen, hin, hsame⟩
    refine ⟨?_, hin, ?_⟩
    · rw [hseen, List.toFinset_cons, Finset.insert_union, Finset.union_insert]
    · intro hall
      rw [hsame (fun d hd => Finset.mem_insert_of_mem (hall d (List.mem_cons_of_mem c hd)))]
      exact hold (hall c List.mem_cons_self)

/-- The fuel left is enough: a frontier with somebody new in it takes the search
closer to the cap, and one without ends it in the next round. -/
def FuelLeft (fuel : ℕ) (seen frontier : Finset ℤ) : Prop :=
  (frontier = ∅ ∧ 1 ≤ fuel) ∨ (frontier ⊆ seen ∧ 2 ≤ fuel) ∨
    (seen.card ≤ communityMaxNodes ∧ communityMaxNodes + 3 ≤ fuel + seen.card)

theorem card_lt_card_union {seen frontier : Finset ℤ} (hsub : ¬ frontier ⊆ seen) :
    seen.card < (seen ∪ frontier).card := by
  refine Finset.card_lt_card ⟨Finset.subset_union_left, ?_⟩
  exact fun hback => hsub (Finset.subset_union_right.trans hback)

/-- A round that finds nothing leaves fuel to notice it. -/
theorem FuelLeft.quiet {fuel : ℕ} {seen frontier : Finset ℤ}
    (h : FuelLeft (fuel + 1) seen frontier) (hsome : frontier ≠ ∅) (seen' : Finset ℤ) :
    FuelLeft fuel seen' ∅ := by
  refine Or.inl ⟨rfl, ?_⟩
  rcases h with hempty | hsub | hcap
  · exact absurd hempty.1 hsome
  · omega
  · omega

/-- A round that meets someone new costs one unit and adds at least one customer. -/
theorem FuelLeft.grow {fuel : ℕ} {seen frontier : Finset ℤ}
    (h : FuelLeft (fuel + 1) seen frontier) (hsub : ¬ frontier ⊆ seen) :
    seen.card ≤ communityMaxNodes ∧ communityMaxNodes + 3 ≤ fuel + (seen ∪ frontier).card := by
  have hgrow := card_lt_card_union hsub
  rcases h with hempty | hquiet | hcap
  · exact absurd (hempty.1 ▸ Finset.empty_subset seen) hsub
  · exact absurd hquiet.1 hsub
  · omega

theorem communityFrom (h : Agree store other windowDays customers merchants) {fuel : ℕ}
    {seen frontier : Finset ℤ} (hfuel : FuelLeft fuel seen frontier)
    (hseen : ∀ c ∈ seen, c ∈ customers) (hfrontier : ∀ c ∈ frontier, c ∈ customers) :
    SameOk (fun found => (∀ c ∈ found, c ∈ customers))
      (store.communityFrom windowDays fuel seen frontier)
      (other.communityFrom windowDays fuel seen frontier) := by
  induction fuel generalizing seen frontier with
  | zero =>
    unfold FuelLeft at hfuel
    omega
  | succ fuel ih =>
    unfold GraphStore.communityFrom
    by_cases hempty : frontier = ∅
    · rw [if_pos hempty, if_pos hempty]
      exact .ok hseen
    · rw [if_neg hempty, if_neg hempty]
      have hsorted : ∀ c ∈ frontier.sort, c ∈ customers :=
        fun c hc => hfrontier c ((Finset.mem_sort _).mp hc)
      refine (h.visitAll hsorted (by simp)).bind ?_
      intro ⟨seen', next⟩ hvisited
      obtain ⟨hseen', hnext, hquiet⟩ := hvisited
      dsimp only at hseen' hnext hquiet ⊢
      rw [Finset.sort_toFinset] at hseen'
      have hseenIn : ∀ c ∈ seen', c ∈ customers := by
        intro c hc
        rw [hseen'] at hc
        rcases Finset.mem_union.mp hc with hc | hc
        · exact hseen c hc
        · exact hfrontier c hc
      by_cases hcap : communityMaxNodes < seen'.card
      · rw [if_pos hcap, if_pos hcap]
        exact .ok hseenIn
      · rw [if_neg hcap, if_neg hcap]
        refine ih ?_ hseenIn hnext
        by_cases hsub : frontier ⊆ seen
        · rw [hquiet (fun c hc => hsub ((Finset.mem_sort _).mp hc))]
          exact hfuel.quiet hempty seen'
        · have hleft := (hfuel.grow hsub).2
          rw [← hseen'] at hleft
          exact Or.inr (Or.inr ⟨Nat.le_of_not_lt hcap, hleft⟩)

theorem communityMembers (h : Agree store other windowDays customers merchants) {c : ℤ}
    (hc : c ∈ customers) :
    SameOk (fun found => (∀ p ∈ found, p ∈ customers))
      (store.communityMembers c windowDays) (other.communityMembers c windowDays) := by
  refine h.communityFrom ?_ (by simp) (by simpa using hc)
  right; right
  simp

theorem componentStats (h : Agree store other windowDays customers merchants) {c : ℤ}
    (hc : c ∈ customers) :
    SameOk (fun _ => True)
      (store.componentStats c windowDays) (other.componentStats c windowDays) := by
  refine (h.communityMembers hc).bind ?_
  intro component hcomponent
  rw [h.filter_isFlagged hcomponent]
  by_cases hempty : component = ∅
  · rw [if_pos hempty]
    exact .ok trivial
  · rw [if_neg hempty]
    exact .ok trivial

theorem features (h : Agree store other windowDays customers merchants) {c : ℤ}
    (hc : c ∈ customers) :
    SameOk (fun _ => True) (store.features c windowDays) (other.features c windowDays) := by
  refine (h.scopedMerchants c hc).bind ?_
  intro found hfound
  by_cases hempty : found = ∅
  · rw [if_pos hempty, if_pos hempty]
    exact .ok trivial
  · rw [if_neg hempty, if_neg hempty]
    refine SameOk.bind (P := fun state => ∀ p ∈ state.1, p ∈ customers)
      (.foldlM (by simp) ?_) ?_
    · intro ⟨peers, fanIn⟩ hpeers m hm
      refine (h.scopedCustomers m (hfound m ((Finset.mem_sort _).mp hm))).bind ?_
      intro crowd hcrowd
      refine .ok ?_
      intro p hp
      rcases Finset.mem_union.mp hp with hp | hp
      · exact hpeers p hp
      · exact hcrowd p (Finset.mem_of_mem_erase hp)
    · intro ⟨peers, fanIn⟩ hpeers
      dsimp only at hpeers ⊢
      rw [h.filter_isFlagged hpeers]
      refine (h.coOccurrence c hc found hfound).bind ?_
      intro count _
      refine (h.componentStats hc).bind ?_
      intro stats _
      exact .ok trivial

theorem networkRiskScore (h : Agree store other windowDays customers merchants) {c : ℤ}
    (hc : c ∈ customers) :
    SameOk (fun _ => True)
      (store.networkRiskScore c windowDays) (other.networkRiskScore c windowDays) :=
  (h.features hc).bind (fun _ _ => .ok trivial)

theorem findings (h : Agree store other windowDays customers merchants) {c : ℤ}
    (hc : c ∈ customers) :
    SameOk (fun _ => True) (store.findings c windowDays) (other.findings c windowDays) :=
  (h.features hc).bind (fun _ _ => .ok trivial)

theorem egoMerchant (h : Agree store other windowDays customers merchants) {c : ℤ} {m : String}
    {state : List Json × List Json × Finset ℤ} (hc : c ∈ customers) (hm : m ∈ merchants)
    (hstate : ∀ p ∈ state.2.2, p ∈ customers) :
    SameOk (fun state => ∀ p ∈ state.2.2, p ∈ customers)
      (store.egoMerchant c windowDays state m) (other.egoMerchant c windowDays state m) := by
  refine (h.scopedCustomers m hm).bind ?_
  intro crowd hcrowd
  have herase : ∀ p ∈ crowd.erase c, p ∈ customers :=
    fun p hp => hcrowd p (Finset.mem_of_mem_erase hp)
  refine (h.edgeVolume c hc m).bind ?_
  intro volume _
  refine .return_of_eq ?_ ?_
  · simp only [h.exists_isFlagged herase]
  · intro p hp
    rcases Finset.mem_union.mp hp with hp | hp
    · exact hstate p hp
    · exact herase p hp

theorem egoPeer (h : Agree store other windowDays customers merchants) {c peer : ℤ}
    {state : List Json × List Json} (hc : c ∈ customers) (hpeer : peer ∈ customers) :
    SameOk (fun _ => True)
      (store.egoPeer c windowDays state peer) (other.egoPeer c windowDays state peer) := by
  refine (h.scopedMerchants c hc).bind ?_
  intro own _
  refine (h.scopedMerchants peer hpeer).bind ?_
  intro others _
  rw [h.isFlagged peer hpeer]
  exact .ok trivial

theorem egoGraph (h : Agree store other windowDays customers merchants) {c : ℤ} (limit : ℕ)
    (hc : c ∈ customers) :
    SameOk (fun _ => True)
      (store.egoGraph c windowDays limit) (other.egoGraph c windowDays limit) := by
  refine (h.scopedMerchants c hc).bind ?_
  intro found hfound
  refine SameOk.bind (P := fun state => ∀ p ∈ state.2.2, p ∈ customers)
    (.foldlM (by simp) ?_) ?_
  · intro state hstate m hm
    exact h.egoMerchant hc (hfound m ((Finset.mem_sort _).mp hm)) hstate
  · intro ⟨nodes, edges, peerSet⟩ hpeers
    refine SameOk.bind (P := fun _ => True) (.foldlM trivial ?_) (fun _ _ => .ok trivial)
    intro state _ peer hpeer
    exact h.egoPeer hc (hpeers peer ((Finset.mem_sort _).mp (List.mem_of_mem_take hpeer)))

/-- The bundle of a customer of the region. -/
theorem networkContext (h : Agree store other windowDays customers merchants) {c : ℤ}
    (hc : c ∈ customers) :
    SameOk (fun _ => True)
      (store.networkContext c windowDays) (other.networkContext c windowDays) := by
  refine (h.networkRiskScore hc).bind ?_
  intro score _
  refine (h.findings hc).bind ?_
  intro findings _
  refine (h.features hc).bind ?_
  intro features _
  exact (h.egoGraph 24 hc).bind (fun _ _ => .ok trivial)

theorem memberStatus (h : Agree store other windowDays customers merchants) {c p : ℤ}
    (hp : p ∈ customers) : store.memberStatus c p = other.memberStatus c p := by
  unfold GraphStore.memberStatus
  rw [h.isFlagged p hp]

theorem communityMerchant (h : Agree store other windowDays customers merchants)
    {merchantMembers : String → Finset ℤ} {members : Finset ℤ}
    (hmembers : ∀ p ∈ members, p ∈ customers) (state : List Json × List Json) (m : String) :
    SameOk (fun _ => True)
      (store.communityMerchant windowDays merchantMembers members state m)
      (other.communityMerchant windowDays merchantMembers members state m) := by
  have hcrowd : ∀ p ∈ merchantMembers m ∩ members, p ∈ customers :=
    fun p hp => hmembers p (Finset.mem_inter.mp hp).2
  unfold GraphStore.communityMerchant
  dsimp only
  by_cases hfew : (merchantMembers m ∩ members).card < 1
  · rw [if_pos hfew, if_pos hfew]
    exact .ok trivial
  · rw [if_neg hfew, if_neg hfew]
    refine SameOk.bind (.mapM (Q := fun _ => True) ?_) ?_
    · intro p hp
      exact (h.edgeVolume p (hcrowd p ((Finset.mem_sort _).mp hp)) m).bind
        (fun _ _ => .ok trivial)
    · intro drawn _
      exact .return_of_eq (by simp only [h.exists_isFlagged hcrowd]) trivial

theorem mem_orAlone {members : Finset ℤ} {c p : ℤ} (hp : p ∈ orAlone members c) :
    p ∈ members ∨ p = c := by
  unfold orAlone at hp
  split_ifs at hp
  · exact Or.inr (Finset.mem_singleton.mp hp)
  · exact Or.inl hp

theorem orAlone_in {members : Finset ℤ} {c : ℤ} (hc : c ∈ customers)
    (hmembers : ∀ p ∈ members, p ∈ customers) : ∀ p ∈ orAlone members c, p ∈ customers := by
  intro p hp
  rcases mem_orAlone hp with hp | rfl
  · exact hmembers p hp
  · exact hc

theorem communityGraph (h : Agree store other windowDays customers merchants) {c : ℤ}
    (nodeLimit : ℕ) (hc : c ∈ customers) :
    SameOk (fun _ => True)
      (store.communityGraph c windowDays nodeLimit)
      (other.communityGraph c windowDays nodeLimit) := by
  refine (h.communityMembers hc).bind ?_
  intro found hfound
  have hall := orAlone_in hc hfound
  have hmembers : ∀ p ∈ ((orAlone found c).sort.take nodeLimit).toFinset, p ∈ customers := by
    intro p hp
    exact hall p ((Finset.mem_sort _).mp (List.mem_of_mem_take (List.mem_toFinset.mp hp)))
  have hnodes : ∀ p ∈ ((orAlone found c).sort.take nodeLimit).toFinset.sort,
      customerNode p (store.memberStatus c p) = customerNode p (other.memberStatus c p) := by
    intro p hp
    rw [h.memberStatus (hmembers p ((Finset.mem_sort _).mp hp))]
  dsimp only
  rw [List.map_congr_left hnodes]
  refine SameOk.bind (P := fun _ => True) (.foldlM trivial ?_) ?_
  · intro state _ p hp
    exact (h.scopedMerchants p (hmembers p ((Finset.mem_sort _).mp hp))).bind
      (fun _ _ => .ok trivial)
  · intro ⟨seen, memberOf⟩ _
    refine SameOk.bind (P := fun _ => True) (.foldlM trivial ?_) (fun _ _ => .ok trivial)
    intro state _ m _
    exact h.communityMerchant hmembers state m

theorem addMember (h : Agree store other windowDays customers merchants) {c : ℤ}
    (hc : c ∈ customers) (state : Finset String × ℚ) :
    SameOk (fun _ => True)
      (store.addMember windowDays state c) (other.addMember windowDays state c) := by
  refine (h.scopedMerchants c hc).bind ?_
  intro found _
  refine .foldlM trivial ?_
  intro state _ m _
  exact (h.edgeVolume c hc m).bind (fun _ _ => .ok trivial)

/-- The community of a customer of the region. -/
theorem community (h : Agree store other windowDays customers merchants) {c : ℤ}
    (nodeLimit : ℕ) (hc : c ∈ customers) :
    SameOk (fun _ => True)
      (store.community c windowDays nodeLimit) (other.community c windowDays nodeLimit) := by
  refine (h.communityMembers hc).bind ?_
  intro found hfound
  have hmembers := orAlone_in hc hfound
  dsimp only
  rw [h.filter_isFlagged hmembers]
  refine SameOk.bind (P := fun _ => True) (.foldlM trivial ?_) ?_
  · intro state _ p hp
    exact h.addMember (hmembers p ((Finset.mem_sort _).mp hp)) state
  · intro ⟨shared, total⟩ _
    refine (h.communityGraph nodeLimit hc).bind ?_
    intro graph _
    refine .return_of_eq ?_ trivial
    have hstatus : ∀ p ∈ (orAlone found c).sort.take nodeLimit,
        (Json.obj [("cc_num", .int p), ("status", .str (store.memberStatus c p))]) =
          .obj [("cc_num", .int p), ("status", .str (other.memberStatus c p))] := by
      intro p hp
      rw [h.memberStatus (hmembers p ((Finset.mem_sort _).mp (List.mem_of_mem_take hp)))]
    rw [List.map_congr_left hstatus]

end Agree

end VeriPay.GraphEngine
