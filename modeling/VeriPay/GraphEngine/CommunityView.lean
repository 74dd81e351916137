import VeriPay.Lib.SortedSlice
import VeriPay.GraphEngine.EgoGraph

/-!
The community as a console shows it: the graph of the members there is room for, the
statistics of all of them and their list. What is drawn is cut off by number, whoever was
asked for, and every merchant of a member is drawn and counted, shared or not.
-/

namespace VeriPay.GraphEngine

open Lib

/-- What `community` answers. -/
structure CommunityAnswer where
  graph : CommunityPicture
  overview : CommunityOverview

def DrawOrder.communityAnswer (order : DrawOrder) (store : GraphStore) (ccNum : ℤ)
    (windowDays : Option ℤ) (nodeLimit : ℤ := 60) : Py CommunityAnswer := do
  let overview ← order.community store ccNum windowDays nodeLimit
  let graph ← order.communityGraph store ccNum windowDays nodeLimit
  return { graph := graph, overview := overview }

/-- A whole number of an entry. -/
def numberOf (key : String) : Json → Option ℤ
  | .obj fields =>
    match JsonObj.get? fields key with
    | some (.int number) => some number
    | _ => none
  | _ => none

def listedCustomers (overview : CommunityOverview) : List ℤ :=
  overview.members.filterMap (numberOf "cc_num")

def nodesOfKind (kind : String) (picture : CommunityPicture) : List Json :=
  picture.nodes.filter (fun node => textOf "kind" node = some kind)

/-- The customers found that are drawn: fewer than the limit have a smaller number, or, for a
negative limit, more than it leaves out do not. -/
def Rendered (visits : List ObservedTransaction) (customer nodeLimit member : ℤ) : Prop :=
  Found visits customer member ∧
    if 0 ≤ nodeLimit then
      {other | Found visits customer other ∧ other < member}.encard < nodeLimit.toNat
    else nodeLimit.natAbs < {other | Found visits customer other ∧ member ≤ other}.encard

@[simp] theorem label_merchantNode (merchant status : String) :
    textOf "label" (merchantNode merchant status) = some merchant := rfl

theorem communityAnswer_error {store : GraphStore} {windowDays : Option ℤ} {e : PyErr}
    (h : store.cutoff windowDays = .error e) (order : DrawOrder) (c nodeLimit : ℤ) :
    order.communityAnswer store c windowDays nodeLimit = .error e := by
  rw [DrawOrder.communityAnswer, community_error order.toSetOrder h]
  rfl

namespace Readings

variable {r : Readings} {c nodeLimit : ℤ}

def communityAnswer (r : Readings) (order : DrawOrder) (c nodeLimit : ℤ) : CommunityAnswer where
  graph := r.communityGraph order c nodeLimit
  overview := r.community c nodeLimit

theorem nodup_upTo {items : List ℤ} (h : items.Nodup) : (upTo nodeLimit items).Nodup := by
  unfold upTo
  split_ifs
  · exact h.sublist (List.take_sublist _ _)
  · exact h.sublist (List.take_sublist _ _)

theorem listedCustomers_community (r : Readings) (c nodeLimit : ℤ) :
    listedCustomers (r.community c nodeLimit) =
      upTo nodeLimit (sortedCustomers (orAlone (r.members c) c)) := by
  rw [listedCustomers, community]
  dsimp only
  rw [List.filterMap_map]
  exact (congrFun List.filterMap_some_fun _).trans rfl

theorem nodup_listedCustomers (r : Readings) (c nodeLimit : ℤ) :
    (listedCustomers (r.community c nodeLimit)).Nodup := by
  rw [listedCustomers_community]
  exact nodup_upTo (Finset.sort_nodup _ _)

theorem toFinset_listedCustomers (r : Readings) (c nodeLimit : ℤ) :
    (listedCustomers (r.community c nodeLimit)).toFinset = r.drawnMembers c nodeLimit := by
  rw [listedCustomers_community]
  rfl

theorem nodesOfKind_customer (r : Readings) (order : DrawOrder) (c nodeLimit : ℤ) :
    nodesOfKind "customer" (r.communityGraph order c nodeLimit) =
      (order.drawn (r.drawnMembers c nodeLimit)).map
        (fun p => customerNode p (r.status c p)) := by
  rw [nodesOfKind, communityGraph]
  dsimp only
  rw [List.filter_append, List.filter_eq_self.mpr, List.filter_eq_nil_iff.mpr, List.append_nil]
  · intro node hnode
    obtain ⟨m, -, rfl⟩ := List.mem_map.mp hnode
    simp
  · intro node hnode
    obtain ⟨p, -, rfl⟩ := List.mem_map.mp hnode
    simp

theorem nodesOfKind_merchant (r : Readings) (order : DrawOrder) (c nodeLimit : ℤ) :
    nodesOfKind "merchant" (r.communityGraph order c nodeLimit) =
      (sortedMerchants ((r.drawnMembers c nodeLimit).biUnion r.merchants)).map
        (fun m => merchantNode m (r.merchantStatus (r.crowd (r.drawnMembers c nodeLimit) m))) := by
  rw [nodesOfKind, communityGraph]
  dsimp only
  rw [List.filter_append, List.filter_eq_nil_iff.mpr, List.filter_eq_self.mpr, List.nil_append]
  · intro node hnode
    obtain ⟨m, -, rfl⟩ := List.mem_map.mp hnode
    simp
  · intro node hnode
    obtain ⟨p, -, rfl⟩ := List.mem_map.mp hnode
    simp

theorem perm_customerIds (r : Readings) (order : DrawOrder) (c nodeLimit : ℤ) :
    (nodeIds (nodesOfKind "customer" (r.communityGraph order c nodeLimit))).Perm
      ((listedCustomers (r.community c nodeLimit)).map customerId) := by
  rw [nodesOfKind_customer, nodeIds_customers]
  have hdrawn := order.visits_drawn (r.drawnMembers c nodeLimit)
  have hlisted : Visits (r.drawnMembers c nodeLimit) (listedCustomers (r.community c nodeLimit)) :=
    ⟨r.nodup_listedCustomers c nodeLimit, r.toFinset_listedCustomers c nodeLimit⟩
  exact (hdrawn.perm hlisted).map customerId

theorem mem_listedCustomers {p : ℤ} :
    p ∈ listedCustomers (r.community c nodeLimit) ↔ p ∈ r.drawnMembers c nodeLimit := by
  rw [← toFinset_listedCustomers, List.mem_toFinset]

/-- Every edge of the community graph joins a member drawn to a merchant drawn. -/
theorem ends_listed_community (r : Readings) (order : DrawOrder) (c nodeLimit : ℤ) :
    ∀ edge ∈ (r.communityGraph order c nodeLimit).edges,
      ∃ a ∈ nodeIds (r.communityGraph order c nodeLimit).nodes,
        ∃ b ∈ nodeIds (r.communityGraph order c nodeLimit).nodes,
          textOf "from" edge = some a ∧ textOf "to" edge = some b := by
  intro edge hedge
  simp only [communityGraph, List.mem_flatMap, List.mem_map] at hedge
  obtain ⟨m, hm, p, hp, rfl⟩ := hedge
  have hcrowd := (order.visits_crowd m _).mem_iff.mp hp
  have hdrawn := (order.visits_drawn _).mem_iff.mpr (Finset.mem_filter.mp hcrowd).1
  refine ⟨customerId p, ?_, merchantId m, ?_, rfl, rfl⟩
  · rw [communityGraph, nodeIds_append, nodeIds_customers]
    exact List.mem_append_left _ (List.mem_map_of_mem hdrawn)
  · rw [communityGraph, nodeIds_append, nodeIds_merchants]
    exact List.mem_append_right _ (List.mem_map_of_mem hm)

end Readings

/-- The view shows the customer it was asked for: once in the list and once in the graph, as
itself. The two list the same customers, and the edges join what is drawn. -/
structure ShowsSubject (answer : CommunityAnswer) (customer : ℤ) : Prop where
  listed_once : (listedCustomers answer.overview).count customer = 1
  listed_self : ∀ entry ∈ answer.overview.members,
    numberOf "cc_num" entry = some customer → textOf "status" entry = some "self"
  drawn_once : (nodeIds (nodesOfKind "customer" answer.graph)).count (customerId customer) = 1
  drawn_self : ∀ node ∈ nodesOfKind "customer" answer.graph,
    textOf "id" node = some (customerId customer) → textOf "status" node = some "self"
  same_customers : (nodeIds (nodesOfKind "customer" answer.graph)).Perm
    ((listedCustomers answer.overview).map customerId)
  ends_listed : ∀ edge ∈ answer.graph.edges, ∃ a ∈ nodeIds answer.graph.nodes,
    ∃ b ∈ nodeIds answer.graph.nodes,
      textOf "from" edge = some a ∧ textOf "to" edge = some b

namespace Readings

variable {r : Readings} {c nodeLimit : ℤ}

/-- All of that holds, but for the customer being among the members there is room for. -/
theorem showsSubject_iff (r : Readings) (order : DrawOrder) (c nodeLimit : ℤ) :
    ShowsSubject (r.communityAnswer order c nodeLimit) c ↔ c ∈ r.drawnMembers c nodeLimit := by
  constructor
  · intro h
    have honce : (listedCustomers (r.community c nodeLimit)).count c = 1 := h.listed_once
    refine mem_listedCustomers.mp (List.count_pos_iff.mp ?_)
    omega
  · intro h
    have honce : (listedCustomers (r.community c nodeLimit)).count c = 1 :=
      List.count_eq_one_of_mem (r.nodup_listedCustomers c nodeLimit) (mem_listedCustomers.mpr h)
    have hsame := r.perm_customerIds order c nodeLimit
    constructor
    · exact honce
    · intro entry hentry hnumber
      obtain ⟨p, -, rfl⟩ := List.mem_map.mp hentry
      have hp : p = c := Option.some.inj hnumber
      rw [hp]
      exact congrArg some (if_pos rfl)
    · refine hsame.count_eq _ |>.trans ?_
      rw [List.count_map_of_injective _ _ customerId_injective, honce]
    · intro node hnode hid
      have hdrawn : node ∈ nodesOfKind "customer" (r.communityGraph order c nodeLimit) := hnode
      rw [nodesOfKind_customer] at hdrawn
      obtain ⟨p, -, rfl⟩ := List.mem_map.mp hdrawn
      have hp : p = c := customerId_injective (Option.some.inj hid)
      rw [hp]
      exact congrArg some (if_pos rfl)
    · exact hsame
    · exact r.ends_listed_community order c nodeLimit

end Readings

namespace Reads

theorem communityAnswer {store : GraphStore} {windowDays : Option ℤ} {r : Readings}
    (h : Reads store windowDays r) (order : DrawOrder) (c nodeLimit : ℤ) :
    order.communityAnswer store c windowDays nodeLimit =
      .ok (r.communityAnswer order c nodeLimit) := by
  rw [DrawOrder.communityAnswer, h.community order.toSetOrder, Py.ok_bind, h.communityGraph]
  rfl

end Reads

namespace GraphStore

variable {store : GraphStore} {windowDays : Option ℤ}

theorem orAlone_members (customer : ℤ) :
    orAlone ((store.windowReadings windowDays).members customer) customer =
      (store.windowReadings windowDays).members customer :=
  if_neg (Finset.ne_empty_of_mem (self_mem_members customer))

theorem coe_filter_members (customer : ℤ) (p : ℤ → Prop) [DecidablePred p] :
    (((store.windowReadings windowDays).members customer).filter p : Set ℤ) =
      {member | Found (store.windowVisits windowDays) customer member ∧ p member} := by
  ext member
  rw [Finset.coe_filter]
  exact and_congr_left fun _ => mem_members_iff

theorem encard_filter_members (customer : ℤ) (p : ℤ → Prop) [DecidablePred p] :
    {member | Found (store.windowVisits windowDays) customer member ∧ p member}.encard =
      (((store.windowReadings windowDays).members customer).filter p).card := by
  rw [← coe_filter_members, Set.encard_coe_eq_coe_finsetCard]

/-- Who is drawn, in terms of the window. -/
theorem mem_drawnMembers_iff {customer nodeLimit member : ℤ} :
    member ∈ (store.windowReadings windowDays).drawnMembers customer nodeLimit ↔
      Rendered (store.windowVisits windowDays) customer nodeLimit member := by
  rw [Readings.drawnMembers, List.mem_toFinset, orAlone_members, upTo, sortedCustomers, Rendered]
  split_ifs with hlimit
  · rw [mem_take_sort_iff, mem_members_iff, encard_filter_members, Nat.cast_lt]
  · rw [mem_take_sort_sub_iff, mem_members_iff, encard_filter_members, Nat.cast_lt]

end GraphStore

/-- After any comparable observations the view of a customer shows it exactly where the
window starts on a date of the calendar and fewer members than there is room for have a
smaller number. -/
theorem showsSubject_iff_rendered {txs : List ObservedTransaction}
    (hcomparable : AllComparable txs) (windowDays : Option ℤ) (order : DrawOrder)
    (customer nodeLimit : ℤ) :
    let store := GraphStore.observing txs
    (∃ answer, order.communityAnswer store customer windowDays nodeLimit = .ok answer ∧
      ShowsSubject answer customer) ↔
    store.WindowStarts windowDays ∧
      Rendered (store.windowVisits windowDays) customer nodeLimit customer := by
  intro store
  obtain ⟨hreads, hoverflow⟩ := reads_or_overflows hcomparable windowDays
  rw [Py.returns_iff (fun hwindow => (hreads hwindow).communityAnswer order customer nodeLimit)
    (fun hwindow => communityAnswer_error (hoverflow hwindow) order customer nodeLimit),
    Readings.showsSubject_iff, GraphStore.mem_drawnMembers_iff]

theorem showsSubject_iff_rendered_market :
    let store := GraphStore.observing (crowdedMarket 2)
    (∃ answer, DrawOrder.ascending.communityAnswer store 0 (some 30) 60 = .ok answer ∧
      ShowsSubject answer 0) ↔
    store.WindowStarts (some 30) ∧ Rendered (store.windowVisits (some 30)) 0 60 0 :=
  showsSubject_iff_rendered (allComparable_crowdedMarket 2) (some 30) DrawOrder.ascending 0 60

/-- The last customer of a market with one customer more than there is room for is asked for,
and left out. -/
theorem not_showsSubject_market :
    ¬ ∃ answer, DrawOrder.ascending.communityAnswer (GraphStore.observing (crowdedMarket 61)) 60
      none = .ok answer ∧ ShowsSubject answer 60 := by
  have hreads := (reads_or_overflows (allComparable_crowdedMarket 61) none).1 (windowStarts_none _)
  rw [hreads.communityAnswer DrawOrder.ascending]
  intro h
  obtain ⟨answer, hanswer, hshows⟩ := h
  cases hanswer
  rw [Readings.showsSubject_iff, GraphStore.mem_drawnMembers_iff] at hshows
  have hbelow : ((Finset.range 60).image Int.ofNat : Set ℤ) ⊆
      {other | Found ((GraphStore.observing (crowdedMarket 61)).windowVisits none) 60 other ∧
        other < 60} := by
    intro other hother
    obtain ⟨i, hi, rfl⟩ := Finset.mem_image.mp (Finset.mem_coe.mp hother)
    rw [Finset.mem_range] at hi
    refine ⟨found_of_sharesMerchant (sharesMerchant_market (i := 60) (by omega) (by omega)), ?_⟩
    exact Int.ofNat_lt.mpr hi
  have hmany := (Set.encard_le_encard hbelow).trans_lt hshows.2
  rw [Set.encard_coe_eq_coe_finsetCard, Finset.card_image_of_injective _ Int.ofNat_injective,
    Finset.card_range] at hmany
  exact lt_irrefl _ hmany

end VeriPay.GraphEngine
