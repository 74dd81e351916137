import VeriPay.GraphEngine.Readings

/-!
The two graphs a console draws, as functions of the readings. The ego graph sorts whatever
it visits; the community graph draws its members, and the crowd of each merchant, in the
order of their sets.
-/

namespace VeriPay.GraphEngine

open Lib

/-- The orders of a community graph beside those of its search. -/
structure DrawOrder extends SetOrder where
  drawn : Finset ℤ → List ℤ
  crowd : String → Finset ℤ → List ℤ
  visits_drawn : ∀ s, Visits s (drawn s)
  visits_crowd : ∀ merchant s, Visits s (crowd merchant s)

def DrawOrder.ascending : DrawOrder where
  toSetOrder := SetOrder.ascending
  drawn := sortedCustomers
  crowd _ := sortedCustomers
  visits_drawn := visits_sortedCustomers
  visits_crowd _ := visits_sortedCustomers

structure CommunityPicture where
  nodes : List Json
  edges : List Json

def CommunityPicture.payload (picture : CommunityPicture) : JsonObj :=
  [("nodes", .arr picture.nodes), ("edges", .arr picture.edges)]

namespace DrawOrder

variable (order : DrawOrder) (store : GraphStore)

def communityMerchant (windowDays : Option ℤ) (merchantMembers : String → Finset ℤ)
    (members : Finset ℤ) (state : List Json × List Json) (merchant : String) :
    Py (List Json × List Json) := do
  let (nodes, edges) := state
  let crowd := merchantMembers merchant ∩ members
  if crowd.card < 1 then return (nodes, edges)
  let status := if ∃ p ∈ crowd, store.isFlagged p then "review" else "normal"
  let drawn ← (order.crowd merchant crowd).mapM (fun customer => do
    let volume ← store.edgeVolume customer merchant windowDays
    return graphEdge customer merchant (roundTo 2 volume))
  return (nodes ++ [merchantNode merchant status], edges ++ drawn)

def communityGraph (ccNum : ℤ) (windowDays : Option ℤ) (nodeLimit : ℤ := 60) :
    Py CommunityPicture := do
  let members := orAlone (← order.communityMembers store ccNum windowDays) ccNum
  let members := (upTo nodeLimit (sortedCustomers members)).toFinset
  let nodes := (order.drawn members).map (fun c => customerNode c (store.memberStatus ccNum c))
  let (merchantsSeen, merchantMembers) ← (order.drawn members).foldlM
    (store.addMerchants windowDays) (∅, fun _ => ∅)
  let (nodes, edges) ← (sortedMerchants merchantsSeen).foldlM
    (order.communityMerchant store windowDays merchantMembers members) (nodes, [])
  return { nodes, edges }

end DrawOrder

/-- The ascending draw is the one of `Queries`. -/
theorem communityGraph_ascending (store : GraphStore) (ccNum : ℤ) (windowDays : Option ℤ)
    (nodeLimit : ℕ) :
    (do
      let picture ← DrawOrder.ascending.communityGraph store ccNum windowDays nodeLimit
      return picture.payload) = store.communityGraph ccNum windowDays nodeLimit := by
  have hmembers : DrawOrder.ascending.communityMembers store ccNum windowDays =
      store.communityMembers ccNum windowDays :=
    SetOrder.communityFrom_ascending store windowDays _ _ _
  unfold DrawOrder.communityGraph GraphStore.communityGraph
  rw [hmembers]
  cases store.communityMembers ccNum windowDays with
  | error e => rfl
  | ok members =>
    have hdrawn : upTo (nodeLimit : ℤ) (sortedCustomers (orAlone members ccNum)) =
        (orAlone members ccNum).sort.take nodeLimit := if_pos (Int.natCast_nonneg nodeLimit)
    simp only [Py.ok_bind, bind_assoc, hdrawn]
    rfl

namespace Readings

variable (r : Readings)

def merchantStatus (crowd : Finset ℤ) : String :=
  if ∃ p ∈ crowd, r.flagged p then "review" else "normal"

/-- A peer's edge, to the first merchant shared. -/
def peerEdges (ccNum peer : ℤ) : List Json :=
  match sortedMerchants (r.merchants ccNum ∩ r.merchants peer) with
  | [] => []
  | first :: _ => [graphEdge peer first 1]

/-- The peers the ego graph has room for. -/
def drawnPeers (ccNum : ℤ) (limit : ℕ) : List ℤ :=
  (sortedCustomers (r.peers ccNum)).take (limit - (sortedMerchants (r.merchants ccNum)).length - 1)

def egoGraph (ccNum : ℤ) (limit : ℕ) : JsonObj :=
  let merchants := sortedMerchants (r.merchants ccNum)
  let peers := r.drawnPeers ccNum limit
  [("nodes", .arr (customerNode ccNum "self" ::
      merchants.map (fun m => merchantNode m (r.merchantStatus ((r.customers m).erase ccNum))) ++
      peers.map (fun p => customerNode p (if r.flagged p then "flagged" else "normal")))),
    ("edges", .arr (merchants.map (fun m => graphEdge ccNum m (roundTo 2 (r.volume ccNum m))) ++
      peers.flatMap (r.peerEdges ccNum)))]

/-- The members the community graph has room for. -/
def drawnMembers (ccNum : ℤ) (nodeLimit : ℤ) : Finset ℤ :=
  (upTo nodeLimit (sortedCustomers (orAlone (r.members ccNum) ccNum))).toFinset

def crowd (members : Finset ℤ) (merchant : String) : Finset ℤ :=
  members.filter (fun c => merchant ∈ r.merchants c)

def communityGraph (order : DrawOrder) (ccNum : ℤ) (nodeLimit : ℤ) : CommunityPicture :=
  let members := r.drawnMembers ccNum nodeLimit
  let merchants := sortedMerchants (members.biUnion r.merchants)
  { nodes := (order.drawn members).map (fun c => customerNode c (r.status ccNum c)) ++
      merchants.map (fun m => merchantNode m (r.merchantStatus (r.crowd members m)))
    edges := merchants.flatMap fun m => (order.crowd m (r.crowd members m)).map
      (fun c => graphEdge c m (roundTo 2 (r.volume c m))) }

/-- Nothing but the listing depends on the order. -/
theorem communityGraph_perm (order order' : DrawOrder) (ccNum : ℤ) (nodeLimit : ℤ) :
    (r.communityGraph order ccNum nodeLimit).nodes.Perm
        (r.communityGraph order' ccNum nodeLimit).nodes ∧
      (r.communityGraph order ccNum nodeLimit).edges.Perm
        (r.communityGraph order' ccNum nodeLimit).edges := by
  constructor
  · have hdrawn := (order.visits_drawn (r.drawnMembers ccNum nodeLimit)).perm
      (order'.visits_drawn _)
    exact (hdrawn.map _).append_right _
  · apply List.Perm.flatMap_left
    intro merchant _
    exact ((order.visits_crowd merchant _).perm (order'.visits_crowd merchant _)).map _

end Readings

namespace Reads

variable {store : GraphStore} {windowDays : Option ℤ} {r : Readings}

theorem egoMerchant (h : Reads store windowDays r) (c : ℤ)
    (state : List Json × List Json × Finset ℤ) (m : String) :
    store.egoMerchant c windowDays state m =
      .ok (state.1 ++ [merchantNode m (r.merchantStatus ((r.customers m).erase c))],
        state.2.1 ++ [graphEdge c m (roundTo 2 (r.volume c m))],
        state.2.2 ∪ (r.customers m).erase c) := by
  rw [GraphStore.egoMerchant, h.scopedCustomers, Py.ok_bind]
  dsimp only
  rw [h.edgeVolume, Py.ok_bind]
  simp only [h.isFlagged]
  rfl

theorem egoPeer (h : Reads store windowDays r) (c : ℤ) (state : List Json × List Json) (p : ℤ) :
    store.egoPeer c windowDays state p =
      .ok (state.1 ++ [customerNode p (if r.flagged p then "flagged" else "normal")],
        state.2 ++ r.peerEdges c p) := by
  rw [GraphStore.egoPeer]
  dsimp only
  rw [h.scopedMerchants, Py.ok_bind, h.scopedMerchants, Py.ok_bind, h.isFlagged,
    Readings.peerEdges, sortedMerchants]
  cases (r.merchants c ∩ r.merchants p).sort with
  | nil =>
    rw [List.append_nil]
    rfl
  | cons first rest => rfl

theorem egoMerchants (h : Reads store windowDays r) (c : ℤ) (nodes edges : List Json) :
    (r.merchants c).sort.foldlM (store.egoMerchant c windowDays) (nodes, edges, ∅) =
      .ok (nodes ++ (r.merchants c).sort.map
          (fun m => merchantNode m (r.merchantStatus ((r.customers m).erase c))),
        edges ++ (r.merchants c).sort.map
          (fun m => graphEdge c m (roundTo 2 (r.volume c m))), r.peers c) := by
  have hvisits : Visits (r.merchants c) (r.merchants c).sort := visits_sort _
  rw [foldlM_ok _ _ fun state m _ => h.egoMerchant c state m]
  rw [foldl_pair (fun nodes m =>
      nodes ++ [merchantNode m (r.merchantStatus ((r.customers m).erase c))])
    (fun (state : List Json × Finset ℤ) m =>
      (state.1 ++ [graphEdge c m (roundTo 2 (r.volume c m))], state.2 ∪ (r.customers m).erase c)),
    foldl_pair (fun edges m => edges ++ [graphEdge c m (roundTo 2 (r.volume c m))])
    (fun peers m => peers ∪ (r.customers m).erase c), foldl_concat, foldl_concat,
    hvisits.foldl_union, Finset.empty_union]
  rfl

theorem egoPeers (h : Reads store windowDays r) (c : ℤ) (peers : List ℤ)
    (nodes edges : List Json) :
    peers.foldlM (store.egoPeer c windowDays) (nodes, edges) =
      .ok (nodes ++ peers.map
          (fun p => customerNode p (if r.flagged p then "flagged" else "normal")),
        edges ++ peers.flatMap (r.peerEdges c)) := by
  rw [foldlM_ok _ _ fun state p _ => h.egoPeer c state p]
  rw [foldl_pair (fun nodes p =>
      nodes ++ [customerNode p (if r.flagged p then "flagged" else "normal")])
    (fun edges p => edges ++ r.peerEdges c p), foldl_concat, foldl_flatMap]

theorem egoGraph (h : Reads store windowDays r) (c : ℤ) (limit : ℕ) :
    store.egoGraph c windowDays limit = .ok (r.egoGraph c limit) := by
  rw [GraphStore.egoGraph, h.scopedMerchants, Py.ok_bind]
  dsimp only
  rw [h.egoMerchants, Py.ok_bind]
  dsimp only
  rw [List.nil_append, h.egoPeers, Py.ok_bind]
  rfl

theorem addMerchants (h : Reads store windowDays r)
    (state : Finset String × (String → Finset ℤ)) (c : ℤ) :
    store.addMerchants windowDays state c =
      .ok (state.1 ∪ r.merchants c, fun m =>
        if m ∈ r.merchants c then insert c (state.2 m) else state.2 m) := by
  rw [GraphStore.addMerchants, h.scopedMerchants]
  rfl

theorem crowds_foldl (r : Readings) (visited : List ℤ) (crowds : String → Finset ℤ) :
    visited.foldl (fun (crowds : String → Finset ℤ) c m =>
        if m ∈ r.merchants c then insert c (crowds m) else crowds m) crowds =
      fun m => crowds m ∪ r.crowd visited.toFinset m := by
  induction visited generalizing crowds with
  | nil => simp [Readings.crowd]
  | cons c rest ih =>
    rw [List.foldl_cons, ih]
    funext m
    rw [List.toFinset_cons, Readings.crowd, Readings.crowd, Finset.filter_insert]
    split_ifs
    · rw [Finset.union_insert, Finset.insert_union]
    · rfl

/-- The loop over the members gathers their merchants, and the crowd of each. -/
theorem addAllMerchants (h : Reads store windowDays r) {members : Finset ℤ} {visited : List ℤ}
    (hvisits : Visits members visited) :
    visited.foldlM (store.addMerchants windowDays) (∅, fun _ => ∅) =
      .ok (members.biUnion r.merchants, r.crowd members) := by
  rw [foldlM_ok _ _ fun state c _ => h.addMerchants state c]
  rw [foldl_pair (fun seen c => seen ∪ r.merchants c) (fun (crowds : String → Finset ℤ) c m =>
      if m ∈ r.merchants c then insert c (crowds m) else crowds m),
    hvisits.foldl_union, Finset.empty_union, crowds_foldl, hvisits.toFinset_eq]
  simp only [Finset.empty_union]

/-- A merchant of the members has a crowd among them. -/
theorem crowd_nonempty {members : Finset ℤ} {m : String}
    (hm : m ∈ members.biUnion r.merchants) : (r.crowd members m).Nonempty := by
  obtain ⟨c, hc, hmerchant⟩ := Finset.mem_biUnion.mp hm
  exact ⟨c, Finset.mem_filter.mpr ⟨hc, hmerchant⟩⟩

theorem communityMerchant (h : Reads store windowDays r) (order : DrawOrder)
    {members : Finset ℤ} (state : List Json × List Json) {m : String}
    (hm : m ∈ members.biUnion r.merchants) :
    order.communityMerchant store windowDays (r.crowd members) members state m =
      .ok (state.1 ++ [merchantNode m (r.merchantStatus (r.crowd members m))],
        state.2 ++ (order.crowd m (r.crowd members m)).map
          (fun c => graphEdge c m (roundTo 2 (r.volume c m)))) := by
  have hdrawn : r.crowd members m ∩ members = r.crowd members m :=
    Finset.inter_eq_left.mpr (Finset.filter_subset _ _)
  have hsome : ¬ (r.crowd members m).card < 1 := by
    have hpos := Finset.card_pos.mpr (crowd_nonempty hm)
    omega
  rw [DrawOrder.communityMerchant]
  dsimp only
  rw [hdrawn, if_neg hsome, mapM_ok (fun c => graphEdge c m (roundTo 2 (r.volume c m))),
    Py.ok_bind]
  · simp only [h.isFlagged]
    rfl
  · intro c _
    rw [h.edgeVolume]
    rfl

theorem communityMerchants (h : Reads store windowDays r) (order : DrawOrder)
    (members : Finset ℤ) (nodes edges : List Json) :
    (sortedMerchants (members.biUnion r.merchants)).foldlM
        (order.communityMerchant store windowDays (r.crowd members) members) (nodes, edges) =
      .ok (nodes ++ (sortedMerchants (members.biUnion r.merchants)).map
          (fun m => merchantNode m (r.merchantStatus (r.crowd members m))),
        edges ++ (sortedMerchants (members.biUnion r.merchants)).flatMap fun m =>
          (order.crowd m (r.crowd members m)).map
            (fun c => graphEdge c m (roundTo 2 (r.volume c m)))) := by
  have hvisits := visits_sortedMerchants (members.biUnion r.merchants)
  rw [foldlM_ok _ _ fun state m hm => h.communityMerchant order state (hvisits.mem_iff.mp hm)]
  rw [foldl_pair (fun nodes m =>
      nodes ++ [merchantNode m (r.merchantStatus (r.crowd members m))])
    (fun edges m => edges ++ (order.crowd m (r.crowd members m)).map
      (fun c => graphEdge c m (roundTo 2 (r.volume c m)))), foldl_concat, foldl_flatMap]

theorem communityGraph (h : Reads store windowDays r) (order : DrawOrder) (c : ℤ)
    (nodeLimit : ℤ) :
    order.communityGraph store c windowDays nodeLimit =
      .ok (r.communityGraph order c nodeLimit) := by
  have hstatus : ∀ p, store.memberStatus c p = r.status c p := by
    intro p
    rw [GraphStore.memberStatus, h.isFlagged, Readings.status]
  rw [DrawOrder.communityGraph, h.communityMembers, Py.ok_bind]
  dsimp only
  rw [h.addAllMerchants (order.visits_drawn _), Py.ok_bind]
  dsimp only
  rw [h.communityMerchants, Py.ok_bind, List.nil_append]
  simp only [hstatus]
  rfl

end Reads

end VeriPay.GraphEngine
