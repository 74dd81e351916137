import VeriPay.Lib.AnyOrder
import VeriPay.GraphEngine.Queries

/-!
The queries with their sets visited in any order. Python's order of a set depends on how
the set was built, so a set has an order of its own in every loop; `Queries` is the case
where all of them ascend.
-/

namespace VeriPay.GraphEngine

open Lib

/-- The orders of the loops of a query: over a frontier by the rounds left, over the members
of a community as round zero, over the merchants of a customer by the customer. -/
structure SetOrder where
  customers : ℕ → Finset ℤ → List ℤ
  merchants : ℤ → Finset String → List String
  visits_customers : ∀ round s, Visits s (customers round s)
  visits_merchants : ∀ customer s, Visits s (merchants customer s)

theorem visits_sortedCustomers (s : Finset ℤ) : Visits s (sortedCustomers s) := visits_sort s

theorem visits_sortedMerchants (s : Finset String) : Visits s (sortedMerchants s) := visits_sort s

def SetOrder.ascending : SetOrder where
  customers _ s := sortedCustomers s
  merchants _ s := sortedMerchants s
  visits_customers _ := visits_sortedCustomers
  visits_merchants _ := visits_sortedMerchants

/-- `items[:limit]`; a negative limit counts from the end. -/
def upTo {α : Type} (limit : ℤ) (items : List α) : List α :=
  if 0 ≤ limit then items.take limit.toNat else items.take (items.length - limit.natAbs)

/-- What `community` answers beside its graph, whose nodes come in the order of the sets. -/
structure CommunityOverview where
  stats : JsonObj
  members : List Json

namespace SetOrder

variable (order : SetOrder) (store : GraphStore)

def coOccurrence (ccNum : ℤ) (merchants : Finset String) (windowDays : Option ℤ) : Py ℕ := do
  let cutoff ← store.cutoff windowDays
  (order.merchants ccNum merchants).foldlM (fun count merchant => do
    let events := store.merchantEvents merchant
    let close ← filterPy (GraphStore.coOccurs cutoff ccNum events) events
    return count + close.length) 0

def visit (windowDays : Option ℤ) (state : Finset ℤ × Finset ℤ) (customer : ℤ) :
    Py (Finset ℤ × Finset ℤ) := do
  let (seen, next) := state
  if customer ∈ seen then return (seen, next)
  let seen := insert customer seen
  let merchants ← store.scopedMerchants customer windowDays
  let next ← (order.merchants customer merchants).foldlM (fun next merchant => do
    let crowd ← store.scopedCustomers merchant windowDays
    return next ∪ crowd.filter (fun peer => peer ≠ customer ∧ peer ∉ seen)) next
  return (seen, next)

def communityFrom (windowDays : Option ℤ) : ℕ → Finset ℤ → Finset ℤ → Py (Finset ℤ)
  | 0, _, _ => .error (.other "community search out of fuel")
  | fuel + 1, seen, frontier => do
    if frontier = ∅ then return seen
    let (seen, next) ← (order.customers (fuel + 1) frontier).foldlM
      (order.visit store windowDays) (seen, ∅)
    if communityMaxNodes < seen.card then return seen
    communityFrom windowDays fuel seen next

def communityMembers (ccNum : ℤ) (windowDays : Option ℤ) : Py (Finset ℤ) :=
  order.communityFrom store windowDays (communityMaxNodes + 3) ∅ {ccNum}

def componentStats (ccNum : ℤ) (windowDays : Option ℤ) : Py (ℕ × ℚ) := do
  let component ← order.communityMembers store ccNum windowDays
  if component = ∅ then return (1, 0)
  let flaggedInComponent := (component.filter (fun c => store.isFlagged c)).card
  return (component.card, roundTo 4 (flaggedInComponent / component.card))

def features (ccNum : ℤ) (windowDays : Option ℤ) : Py NodeFeatures := do
  let merchants ← store.scopedMerchants ccNum windowDays
  if merchants = ∅ then return {}
  let merchantDegree := merchants.card
  let (peers, fanIn) ← (order.merchants ccNum merchants).foldlM (fun (peers, fanIn) merchant => do
    let crowd := (← store.scopedCustomers merchant windowDays).erase ccNum
    return (peers ∪ crowd, fanIn + crowd.card)) ((∅ : Finset ℤ), 0)
  let fanIn := min fanIn (max 1 merchantDegree * 1000)
  let flaggedNeighbors := peers.filter (fun p => store.isFlagged p)
  let shared := peers.card
  let flaggedExposure : ℚ := if shared ≠ 0 then flaggedNeighbors.card / shared else 0
  let coOccurrence ← order.coOccurrence store ccNum merchants windowDays
  let (clusterSize, clusterFlaggedRatio) ← order.componentStats store ccNum windowDays
  return {
    merchantDegree := merchantDegree
    merchantFanIn := fanIn
    sharedCounterpartyCount := shared
    coOccurrenceCount := coOccurrence
    flaggedNeighborCount := flaggedNeighbors.card
    flaggedExposure := roundTo 4 flaggedExposure
    clusterSize := clusterSize
    clusterFlaggedRatio := roundTo 4 clusterFlaggedRatio }

def networkRiskScore (ccNum : ℤ) (windowDays : Option ℤ) : Py ℚ := do
  let f ← order.features store ccNum windowDays
  return f.riskScore

def findings (ccNum : ℤ) (windowDays : Option ℤ) : Py (List String) := do
  let f ← order.features store ccNum windowDays
  return f.indicators

/-- A member's merchants and volumes, added to those of the cluster. -/
def addMember (windowDays : Option ℤ) (state : Finset String × ℚ) (customer : ℤ) :
    Py (Finset String × ℚ) := do
  let merchants ← store.scopedMerchants customer windowDays
  (order.merchants customer merchants).foldlM (fun (shared, total) merchant => do
    let volume ← store.edgeVolume customer merchant windowDays
    return (insert merchant shared, total + volume)) state

def community (ccNum : ℤ) (windowDays : Option ℤ) (nodeLimit : ℤ := 60) :
    Py CommunityOverview := do
  let members := orAlone (← order.communityMembers store ccNum windowDays) ccNum
  let flaggedMembers := members.filter (fun c => store.isFlagged c)
  let (sharedMerchants, totalVolume) ← (order.customers 0 members).foldlM
    (order.addMember store windowDays) (∅, 0)
  return {
    stats := [
      ("cluster_size", .int members.card),
      ("flagged_count", .int flaggedMembers.card),
      ("flagged_ratio", .float (roundTo 4 (flaggedMembers.card / max 1 members.card))),
      ("distinct_shared_merchants", .int sharedMerchants.card),
      ("total_volume", .float (roundTo 2 totalVolume)),
      ("dominant_pattern",
        .str (communityPattern members.card flaggedMembers.card sharedMerchants.card))]
    members := (upTo nodeLimit (sortedCustomers members)).map (fun (c : ℤ) =>
      .obj [("cc_num", .int c), ("status", .str (store.memberStatus ccNum c))]) }

theorem communityFrom_ascending (windowDays : Option ℤ) (fuel : ℕ) (seen frontier : Finset ℤ) :
    ascending.communityFrom store windowDays fuel seen frontier =
      store.communityFrom windowDays fuel seen frontier := by
  induction fuel generalizing seen frontier with
  | zero => rfl
  | succ fuel ih =>
    unfold communityFrom GraphStore.communityFrom
    simp only [ih]
    rfl

/-- The queries themselves visit their sets in ascending order. -/
theorem features_ascending (ccNum : ℤ) (windowDays : Option ℤ) :
    ascending.features store ccNum windowDays = store.features ccNum windowDays := by
  have hstats : ascending.componentStats store ccNum windowDays =
      store.componentStats ccNum windowDays := by
    rw [componentStats, communityMembers, communityFrom_ascending]
    rfl
  unfold features GraphStore.features
  simp only [hstats]
  rfl

end SetOrder

end VeriPay.GraphEngine
