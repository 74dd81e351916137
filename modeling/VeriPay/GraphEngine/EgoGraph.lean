import VeriPay.GraphEngine.Community
import VeriPay.GraphEngine.Pictures

/-!
The graph around one customer. Its nodes are the customer, the merchants of the window and
as many of the customers met there as there is room for; every edge joins two of them.
-/

namespace VeriPay.GraphEngine

open Lib

/-- A text of a node or an edge. -/
def textOf (key : String) : Json → Option String
  | .obj fields =>
    match JsonObj.get? fields key with
    | some (.str text) => some text
    | _ => none
  | _ => none

def customerId (customer : ℤ) : String := "c:" ++ toString customer

def merchantId (merchant : String) : String := "m:" ++ merchant

/-- The ids of the nodes. -/
def nodeIds (nodes : List Json) : List String := nodes.filterMap (textOf "id")

/-- Where the edges from a node lead. -/
def edgesFrom (id : String) (edges : List Json) : List (Option String) :=
  (edges.filter (fun edge => textOf "from" edge = some id)).map (textOf "to")

section Texts

variable (customer : ℤ) (merchant status : String) (weight : ℚ)

@[simp] theorem id_customerNode :
    textOf "id" (customerNode customer status) = some (customerId customer) := rfl

@[simp] theorem id_merchantNode :
    textOf "id" (merchantNode merchant status) = some (merchantId merchant) := rfl

@[simp] theorem kind_customerNode :
    textOf "kind" (customerNode customer status) = some "customer" := rfl

@[simp] theorem kind_merchantNode :
    textOf "kind" (merchantNode merchant status) = some "merchant" := rfl

@[simp] theorem status_customerNode :
    textOf "status" (customerNode customer status) = some status := rfl

@[simp] theorem from_graphEdge :
    textOf "from" (graphEdge customer merchant weight) = some (customerId customer) := rfl

@[simp] theorem to_graphEdge :
    textOf "to" (graphEdge customer merchant weight) = some (merchantId merchant) := rfl

end Texts

theorem customerId_injective : Function.Injective customerId :=
  fun _ _ h => toString_int_injective ((String.append_right_inj _).mp h)

theorem merchantId_injective : Function.Injective merchantId :=
  fun _ _ h => (String.append_right_inj _).mp h

theorem customerId_ne_merchantId (customer : ℤ) (merchant : String) :
    customerId customer ≠ merchantId merchant := by
  intro h
  have hchars := congrArg String.toList h
  simp [customerId, merchantId] at hchars

@[simp] theorem customerId_inj {a b : ℤ} : customerId a = customerId b ↔ a = b :=
  customerId_injective.eq_iff

@[simp] theorem nodeIds_append (nodes others : List Json) :
    nodeIds (nodes ++ others) = nodeIds nodes ++ nodeIds others := List.filterMap_append

@[simp] theorem nodeIds_customers (customers : List ℤ) (status : ℤ → String) :
    nodeIds (customers.map (fun c => customerNode c (status c))) =
      customers.map customerId := by
  rw [nodeIds, List.filterMap_map]
  exact congrFun List.filterMap_eq_map' customers

@[simp] theorem nodeIds_merchants (merchants : List String) (status : String → String) :
    nodeIds (merchants.map (fun m => merchantNode m (status m))) =
      merchants.map merchantId := by
  rw [nodeIds, List.filterMap_map]
  exact congrFun List.filterMap_eq_map' merchants

/-- The edges from a customer among edges drawn for the items of a list. -/
theorem edgesFrom_map {α : Type} (items : List α) (source : α → ℤ) (target : α → String)
    (weight : α → ℚ) (customer : ℤ) :
    edgesFrom (customerId customer)
        (items.map (fun a => graphEdge (source a) (target a) (weight a))) =
      (items.filter (fun a => source a = customer)).map
        (fun a => some (merchantId (target a))) := by
  rw [edgesFrom, List.filter_map, List.map_map]
  simp [Function.comp_def]

@[simp] theorem edgesFrom_append (id : String) (edges others : List Json) :
    edgesFrom id (edges ++ others) = edgesFrom id edges ++ edgesFrom id others := by
  rw [edgesFrom, List.filter_append, List.map_append]
  rfl

/-- What the drawing of a customer's surroundings keeps to, whatever the window shows. -/
structure EgoWellFormed (merchants : Finset String) (customer : ℤ) (limit : ℕ)
    (nodes edges : List Json) : Prop where
  has_ids : (nodeIds nodes).length = nodes.length
  ids_nodup : (nodeIds nodes).Nodup
  ends_listed : ∀ edge ∈ edges, ∃ a ∈ nodeIds nodes, ∃ b ∈ nodeIds nodes,
    textOf "from" edge = some a ∧ textOf "to" edge = some b
  subject_edges : ∃ visited, Visits merchants visited ∧
    edgesFrom (customerId customer) edges = visited.map (fun m => some (merchantId m))
  subject_first : ∃ others, nodes = customerNode customer "self" :: others ∧
    customerId customer ∉ nodeIds others
  peer_edge : ∀ node ∈ nodes, textOf "kind" node = some "customer" →
    textOf "id" node ≠ some (customerId customer) →
      ∃ id, textOf "id" node = some id ∧ ∃ m ∈ merchants, edgesFrom id edges = [some (merchantId m)]
  size_le : nodes.length ≤ max limit (merchants.card + 1)

namespace GraphStore

/-- A customer of a merchant has the merchant. -/
theorem mem_customers_iff {store : GraphStore} {start : Option ℤ} {c : ℤ} {m : String} :
    c ∈ (store.readings start).customers m ↔ m ∈ (store.readings start).merchants c := by
  simp only [readings, List.mem_toFinset, List.mem_map, List.mem_filter, decide_eq_true_eq]
  constructor
  · intro h
    obtain ⟨visit, ⟨hvisit, hmerchant⟩, hcustomer⟩ := h
    exact ⟨visit, ⟨hvisit, hcustomer⟩, hmerchant⟩
  · intro h
    obtain ⟨visit, ⟨hvisit, hcustomer⟩, hmerchant⟩ := h
    exact ⟨visit, ⟨hvisit, hmerchant⟩, hcustomer⟩

end GraphStore

namespace Readings

variable {r : Readings} {c p : ℤ}

theorem ne_of_mem_peers (h : p ∈ r.peers c) : p ≠ c := by
  obtain ⟨merchant, -, hp⟩ := Finset.mem_biUnion.mp h
  exact Finset.ne_of_mem_erase hp

/-- A peer is drawn with one edge, to a merchant it shares with the customer. -/
theorem peerEdges_of_mem (hmeet : ∀ c m, c ∈ r.customers m ↔ m ∈ r.merchants c)
    (h : p ∈ r.peers c) : ∃ m ∈ r.merchants c, r.peerEdges c p = [graphEdge p m 1] := by
  obtain ⟨merchant, hmerchant, hp⟩ := Finset.mem_biUnion.mp h
  have hshared : merchant ∈ sortedMerchants (r.merchants c ∩ r.merchants p) := by
    rw [(visits_sortedMerchants _).mem_iff, Finset.mem_inter]
    exact ⟨hmerchant, (hmeet p merchant).mp (Finset.mem_of_mem_erase hp)⟩
  obtain ⟨first, rest, hsorted⟩ := List.exists_cons_of_ne_nil (List.ne_nil_of_mem hshared)
  have hfirst : first ∈ sortedMerchants (r.merchants c ∩ r.merchants p) := by
    rw [hsorted]
    exact List.mem_cons_self
  rw [(visits_sortedMerchants _).mem_iff, Finset.mem_inter] at hfirst
  refine ⟨first, hfirst.1, ?_⟩
  rw [peerEdges, hsorted]

/-- The peers' edges, each to the merchant where the peer is met. -/
theorem exists_meeting (hmeet : ∀ c m, c ∈ r.customers m ↔ m ∈ r.merchants c) (c : ℤ)
    {peers : List ℤ} (h : ∀ p ∈ peers, p ∈ r.peers c) :
    ∃ meeting : ℤ → String, (∀ p ∈ peers, meeting p ∈ r.merchants c) ∧
      peers.flatMap (r.peerEdges c) = peers.map (fun p => graphEdge p (meeting p) 1) := by
  have hall : ∀ p, ∃ m, p ∈ peers → m ∈ r.merchants c ∧ r.peerEdges c p = [graphEdge p m 1] := by
    intro p
    by_cases hp : p ∈ peers
    · obtain ⟨m, hm, hedge⟩ := peerEdges_of_mem hmeet (h p hp)
      exact ⟨m, fun _ => ⟨hm, hedge⟩⟩
    · exact ⟨"", fun hp' => absurd hp' hp⟩
  choose meeting hmeeting using hall
  refine ⟨meeting, fun p hp => (hmeeting p hp).1, ?_⟩
  rw [List.map_eq_flatMap]
  exact List.flatMap_congr fun p hp => (hmeeting p hp).2

theorem mem_drawnPeers {limit : ℕ} (h : p ∈ r.drawnPeers c limit) : p ∈ r.peers c :=
  (visits_sortedCustomers _).mem_iff.mp (List.mem_of_mem_take h)

theorem nodup_drawnPeers (r : Readings) (c : ℤ) (limit : ℕ) : (r.drawnPeers c limit).Nodup :=
  (visits_sortedCustomers (r.peers c)).nodup.sublist (List.take_sublist _ _)

/-- The nodes drawn, in their order. -/
def egoNodes (r : Readings) (c : ℤ) (limit : ℕ) : List Json :=
  customerNode c "self" ::
    ((sortedMerchants (r.merchants c)).map
        (fun m => merchantNode m (r.merchantStatus ((r.customers m).erase c))) ++
      (r.drawnPeers c limit).map
        (fun p => customerNode p (if r.flagged p then "flagged" else "normal")))

/-- The edges drawn: the customer's, then those of the peers. -/
def egoEdges (r : Readings) (c : ℤ) (limit : ℕ) : List Json :=
  (sortedMerchants (r.merchants c)).map (fun m => graphEdge c m (roundTo 2 (r.volume c m))) ++
    (r.drawnPeers c limit).flatMap (r.peerEdges c)

theorem nodeIds_egoNodes (r : Readings) (c : ℤ) (limit : ℕ) :
    nodeIds (r.egoNodes c limit) = customerId c ::
      ((sortedMerchants (r.merchants c)).map merchantId ++
        (r.drawnPeers c limit).map customerId) := by
  rw [egoNodes, nodeIds, List.filterMap_cons, id_customerNode]
  dsimp only
  rw [← nodeIds, nodeIds_append, nodeIds_merchants, nodeIds_customers]

theorem nodup_egoIds (r : Readings) (c : ℤ) (limit : ℕ) :
    (nodeIds (r.egoNodes c limit)).Nodup := by
  rw [nodeIds_egoNodes, List.nodup_cons, List.nodup_append]
  refine ⟨?_, ?_, ?_, ?_⟩
  · rw [List.mem_append, List.mem_map, List.mem_map]
    intro h
    rcases h with ⟨m, -, hid⟩ | ⟨p, hp, hid⟩
    · exact customerId_ne_merchantId c m hid.symm
    · exact ne_of_mem_peers (mem_drawnPeers hp) (customerId_injective hid)
  · exact (visits_sortedMerchants _).nodup.map merchantId_injective
  · exact (r.nodup_drawnPeers c limit).map customerId_injective
  · intro id hid other hother
    obtain ⟨m, -, rfl⟩ := List.mem_map.mp hid
    obtain ⟨p, -, rfl⟩ := List.mem_map.mp hother
    exact (customerId_ne_merchantId p m).symm

theorem length_egoNodes (r : Readings) (c : ℤ) (limit : ℕ) :
    (r.egoNodes c limit).length ≤ max limit ((r.merchants c).card + 1) := by
  have hmerchants : (sortedMerchants (r.merchants c)).length = (r.merchants c).card :=
    Finset.length_sort _
  have hpeers := List.length_take_le (limit - (sortedMerchants (r.merchants c)).length - 1)
    (sortedCustomers (r.peers c))
  rw [egoNodes, List.length_cons, List.length_append, List.length_map, List.length_map,
    drawnPeers]
  omega

/-- The peers' edges all come from their peers, and each peer has one. -/
theorem edgesFrom_peers {limit : ℕ} {meeting : ℤ → String}
    (h : (r.drawnPeers c limit).flatMap (r.peerEdges c) =
      (r.drawnPeers c limit).map (fun p => graphEdge p (meeting p) 1)) (q : ℤ) :
    edgesFrom (customerId q) ((r.drawnPeers c limit).flatMap (r.peerEdges c)) =
      if q ∈ r.drawnPeers c limit then [some (merchantId (meeting q))] else [] := by
  rw [h, edgesFrom_map _ (fun p => p) meeting (fun _ => 1)]
  split_ifs with hq
  · have hone : (r.drawnPeers c limit).filter (fun p => p = q) = [q] := by
      rw [List.filter_eq, List.count_eq_one_of_mem (r.nodup_drawnPeers c limit) hq]
      rfl
    rw [hone, List.map_singleton]
  · rw [List.map_eq_nil_iff, List.filter_eq_nil_iff]
    intro p hp hsame
    rw [of_decide_eq_true hsame] at hp
    exact hq hp

theorem edgesFrom_own (r : Readings) (c q : ℤ) :
    edgesFrom (customerId q) ((sortedMerchants (r.merchants c)).map
        (fun m => graphEdge c m (roundTo 2 (r.volume c m)))) =
      if c = q then (sortedMerchants (r.merchants c)).map (fun m => some (merchantId m))
      else [] := by
  rw [edgesFrom_map _ (fun _ => c) (fun m => m)]
  split_ifs with hsame
  · rw [List.filter_eq_self.mpr fun _ _ => decide_eq_true hsame]
  · rw [List.filter_eq_nil_iff.mpr fun _ _ htrue => hsame (of_decide_eq_true htrue)]
    rfl

theorem ends_listed_ego {limit : ℕ} {meeting : ℤ → String}
    (hmeeting : ∀ p ∈ r.drawnPeers c limit, meeting p ∈ r.merchants c)
    (h : (r.drawnPeers c limit).flatMap (r.peerEdges c) =
      (r.drawnPeers c limit).map (fun p => graphEdge p (meeting p) 1)) :
    ∀ edge ∈ r.egoEdges c limit, ∃ a ∈ nodeIds (r.egoNodes c limit),
      ∃ b ∈ nodeIds (r.egoNodes c limit),
        textOf "from" edge = some a ∧ textOf "to" edge = some b := by
  have hlisted : ∀ m ∈ r.merchants c, merchantId m ∈ nodeIds (r.egoNodes c limit) := by
    intro m hm
    rw [nodeIds_egoNodes]
    refine List.mem_cons_of_mem _ (List.mem_append_left _ (List.mem_map_of_mem ?_))
    exact (visits_sortedMerchants _).mem_iff.mpr hm
  intro edge hedge
  rw [egoEdges, h, List.mem_append, List.mem_map, List.mem_map] at hedge
  rcases hedge with ⟨m, hm, rfl⟩ | ⟨p, hp, rfl⟩
  · refine ⟨customerId c, ?_, merchantId m, ?_, rfl, rfl⟩
    · rw [nodeIds_egoNodes]
      exact List.mem_cons_self
    · exact hlisted m ((visits_sortedMerchants _).mem_iff.mp hm)
  · refine ⟨customerId p, ?_, merchantId (meeting p), hlisted _ (hmeeting p hp), rfl, rfl⟩
    rw [nodeIds_egoNodes]
    exact List.mem_cons_of_mem _ (List.mem_append_right _ (List.mem_map_of_mem hp))

/-- Whatever a window shows, the drawing is well formed. -/
theorem egoGraph_drawn (hmeet : ∀ c m, c ∈ r.customers m ↔ m ∈ r.merchants c) (c : ℤ)
    (limit : ℕ) :
    EgoWellFormed (r.merchants c) c limit (r.egoNodes c limit) (r.egoEdges c limit) := by
  obtain ⟨meeting, hmeeting, hedges⟩ := exists_meeting hmeet c
    (fun p (hp : p ∈ r.drawnPeers c limit) => mem_drawnPeers hp)
  have hself : c ∉ r.drawnPeers c limit := fun hc => ne_of_mem_peers (mem_drawnPeers hc) rfl
  constructor
  · rw [nodeIds_egoNodes, egoNodes]
    simp only [List.length_cons, List.length_append, List.length_map]
  · exact r.nodup_egoIds c limit
  · exact ends_listed_ego hmeeting hedges
  · refine ⟨sortedMerchants (r.merchants c), visits_sortedMerchants _, ?_⟩
    rw [egoEdges, edgesFrom_append, edgesFrom_own, if_pos rfl, edgesFrom_peers hedges,
      if_neg hself, List.append_nil]
  · refine ⟨_, rfl, ?_⟩
    have hnodup := r.nodup_egoIds c limit
    rw [egoNodes, nodeIds, List.filterMap_cons, id_customerNode] at hnodup
    exact (List.nodup_cons.mp hnodup).1
  · intro node hnode hkind hother
    rw [egoNodes, List.mem_cons, List.mem_append, List.mem_map, List.mem_map] at hnode
    rcases hnode with rfl | ⟨m, -, rfl⟩ | ⟨p, hp, rfl⟩
    · exact absurd rfl hother
    · rw [kind_merchantNode] at hkind
      exact absurd (Option.some.inj hkind) (by decide)
    · have hne : c ≠ p := (ne_of_mem_peers (mem_drawnPeers hp)).symm
      refine ⟨customerId p, rfl, meeting p, hmeeting p hp, ?_⟩
      rw [egoEdges, edgesFrom_append, edgesFrom_own, if_neg hne, edgesFrom_peers hedges,
        if_pos hp, List.nil_append]
  · exact r.length_egoNodes c limit

end Readings

theorem egoGraph_error {store : GraphStore} {windowDays : Option ℤ} {e : PyErr}
    (h : store.cutoff windowDays = .error e) (c : ℤ) (limit : ℕ) :
    store.egoGraph c windowDays limit = .error e := by
  rw [GraphStore.egoGraph, GraphStore.scopedMerchants, h]
  rfl

/-- After any comparable observations the graph around a customer is well formed, where the
window starts on a date of the calendar. -/
theorem egoGraph_wellFormed {txs : List ObservedTransaction} (hcomparable : AllComparable txs)
    (windowDays : Option ℤ) (customer : ℤ) (limit : ℕ) :
    let store := GraphStore.observing txs
    (store.WindowStarts windowDays → ∃ nodes edges,
      store.egoGraph customer windowDays limit =
        .ok [("nodes", .arr nodes), ("edges", .arr edges)] ∧
      EgoWellFormed ((store.windowReadings windowDays).merchants customer) customer limit
        nodes edges) ∧
    (¬ store.WindowStarts windowDays → store.egoGraph customer windowDays limit =
      .error (.overflowError "date value out of range")) := by
  intro store
  obtain ⟨hreads, hoverflow⟩ := reads_or_overflows hcomparable windowDays
  constructor
  · intro hwindow
    refine ⟨_, _, (hreads hwindow).egoGraph customer limit, ?_⟩
    exact Readings.egoGraph_drawn (fun _ _ => GraphStore.mem_customers_iff) customer limit
  · intro hwindow
    exact egoGraph_error (hoverflow hwindow) customer limit

theorem egoGraph_wellFormed_market :
    let store := GraphStore.observing (crowdedMarket 2)
    ∃ nodes edges, store.egoGraph 0 (some 30) 24 =
        .ok [("nodes", .arr nodes), ("edges", .arr edges)] ∧
      EgoWellFormed ((store.windowReadings (some 30)).merchants 0) 0 24 nodes edges :=
  (egoGraph_wellFormed (allComparable_crowdedMarket 2) (some 30) 0 24).1 windowStarts_market

/-- A window of a million days goes back before year 1. -/
theorem egoGraph_overflows :
    (GraphStore.observing (crowdedMarket 1)).egoGraph 0 (some 1000000) =
      .error (.overflowError "date value out of range") :=
  egoGraph_error (by decide) 0 24

end VeriPay.GraphEngine
