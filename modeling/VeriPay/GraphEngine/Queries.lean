import Mathlib.Data.Finset.Sort
import Mathlib.Data.String.Basic
import VeriPay.Lib.Json
import VeriPay.Lib.Rounding
import VeriPay.GraphEngine.Extract

/-!
What the graph engine reads out of its graph for one customer: the node features,
the score, the findings, the two graphs and the bundle the analyst console shows.
A set is visited in ascending order here; the order of Python's sets only shows in
the order of the nodes and edges of the community graph.
-/

namespace VeriPay.GraphEngine

open Lib

/-- `CO_OCCURRENCE_WINDOW_SECONDS`, in microseconds. -/
def coOccurrenceWindow : ℤ := 60 * DateTime.microsPerSecond

def communityMaxNodes : ℕ := 500

def weightFlaggedExposure : ℚ := 45 / 100
def weightSharedCounterparty : ℚ := 25 / 100
def weightCoOccurrence : ℚ := 15 / 100
def weightMerchantFanIn : ℚ := 15 / 100

/-- Per-customer graph features. -/
structure NodeFeatures where
  merchantDegree : ℕ := 0
  merchantFanIn : ℕ := 0
  sharedCounterpartyCount : ℕ := 0
  coOccurrenceCount : ℕ := 0
  flaggedNeighborCount : ℕ := 0
  flaggedExposure : ℚ := 0
  clusterSize : ℕ := 1
  clusterFlaggedRatio : ℚ := 0

def sortedMerchants (merchants : Finset String) : List String := merchants.sort

def sortedCustomers (customers : Finset ℤ) : List ℤ := customers.sort

/-- The format `.0%`. -/
def wholePercent (value : ℚ) : String := toString (roundEven (value * 100)) ++ "%"

def customerNode (customer : ℤ) (status : String) : Json :=
  .obj [("id", .str ("c:" ++ toString customer)), ("kind", .str "customer"),
    ("label", .str (toString customer)), ("status", .str status)]

def merchantNode (merchant : String) (status : String) : Json :=
  .obj [("id", .str ("m:" ++ merchant)), ("kind", .str "merchant"), ("label", .str merchant),
    ("status", .str status)]

def graphEdge (customer : ℤ) (merchant : String) (weight : ℚ) : Json :=
  .obj [("from", .str ("c:" ++ toString customer)), ("to", .str ("m:" ++ merchant)),
    ("weight", .float weight)]

namespace GraphStore

/-- `max` over the timestamps, the first of equal ones. -/
def latest (store : GraphStore) : Py DateTime :=
  match store.txns with
  | [] => return DateTime.minValue
  | first :: rest =>
    rest.foldlM (fun best tx => do
      let later ← best.lt tx.timestamp
      return if later then tx.timestamp else best) first.timestamp

def cutoff (store : GraphStore) (windowDays : Option ℤ) : Py (Option DateTime) :=
  match windowDays with
  | none => return none
  | some days => do
    let latest ← store.latest
    return some (← latest.addMicros (-(days * DateTime.microsPerDay)))

def scopedMerchants (store : GraphStore) (ccNum : ℤ) (windowDays : Option ℤ) :
    Py (Finset String) := do
  match ← store.cutoff windowDays with
  | none => return store.customerMerchants ccNum
  | some cutoff =>
    let found ← filterPy (fun tx =>
      if tx.ccNum = ccNum then cutoff.le tx.timestamp else return false) store.txns
    return (found.map (fun tx => tx.merchant)).toFinset

def scopedCustomers (store : GraphStore) (merchant : String) (windowDays : Option ℤ) :
    Py (Finset ℤ) := do
  match ← store.cutoff windowDays with
  | none => return store.merchantCustomers merchant
  | some cutoff =>
    let found ← filterPy (fun tx =>
      if tx.merchant = merchant then cutoff.le tx.timestamp else return false) store.txns
    return (found.map (fun tx => tx.ccNum)).toFinset

def edgeVolume (store : GraphStore) (ccNum : ℤ) (merchant : String) (windowDays : Option ℤ) :
    Py ℚ := do
  let cutoff ← store.cutoff windowDays
  let found ← filterPy (fun tx =>
    if tx.ccNum = ccNum ∧ tx.merchant = merchant then
      match cutoff with
      | none => return true
      | some cutoff => cutoff.le tx.timestamp
    else return false) store.txns
  return (found.map (fun tx => tx.amount)).sum

/-- `cutoff is not None and ts < cutoff`. -/
def isBefore (cutoff : Option DateTime) (timestamp : DateTime) : Py Bool :=
  match cutoff with
  | none => return false
  | some cutoff => timestamp.lt cutoff

/-- An event of another customer with one of this customer's close to it. -/
def coOccurs (cutoff : Option DateTime) (ccNum : ℤ) (events : List (DateTime × ℤ × String))
    (event : DateTime × ℤ × String) : Py Bool := do
  let (timestamp, customer, _) := event
  if customer = ccNum then return false
  if ← isBefore cutoff timestamp then return false
  anyPy (fun own => do
    let (ownTimestamp, ownCustomer, _) := own
    if ownCustomer ≠ ccNum then return false
    if ← isBefore cutoff ownTimestamp then return false
    let gap ← ownTimestamp.sub timestamp
    return |gap| ≤ coOccurrenceWindow) events

def coOccurrence (store : GraphStore) (ccNum : ℤ) (merchants : Finset String)
    (windowDays : Option ℤ) : Py ℕ := do
  let cutoff ← store.cutoff windowDays
  merchants.sort.foldlM (fun count merchant => do
    let events := store.merchantEvents merchant
    let close ← filterPy (coOccurs cutoff ccNum events) events
    return count + close.length) 0

/-- One customer of the frontier: the customers seen and the next frontier, after it. -/
def visit (store : GraphStore) (windowDays : Option ℤ) (state : Finset ℤ × Finset ℤ)
    (customer : ℤ) : Py (Finset ℤ × Finset ℤ) := do
  let (seen, next) := state
  if customer ∈ seen then return (seen, next)
  let seen := insert customer seen
  let merchants ← store.scopedMerchants customer windowDays
  let next ← merchants.sort.foldlM (fun next merchant => do
    let crowd ← store.scopedCustomers merchant windowDays
    return next ∪ crowd.filter (fun peer => peer ≠ customer ∧ peer ∉ seen)) next
  return (seen, next)

/-- The search through shared merchants, one frontier after the other. -/
def communityFrom (store : GraphStore) (windowDays : Option ℤ) :
    ℕ → Finset ℤ → Finset ℤ → Py (Finset ℤ)
  | 0, _, _ => .error (.other "community search out of fuel")
  | fuel + 1, seen, frontier => do
    if frontier = ∅ then return seen
    let (seen, next) ← frontier.sort.foldlM (store.visit windowDays) (seen, ∅)
    if communityMaxNodes < seen.card then return seen
    store.communityFrom windowDays fuel seen next

/-- Every round that goes on has seen another customer, up to the cap, so the fuel
never ends. -/
def communityMembers (store : GraphStore) (ccNum : ℤ) (windowDays : Option ℤ) :
    Py (Finset ℤ) :=
  store.communityFrom windowDays (communityMaxNodes + 3) ∅ {ccNum}

def componentStats (store : GraphStore) (ccNum : ℤ) (windowDays : Option ℤ) : Py (ℕ × ℚ) := do
  let component ← store.communityMembers ccNum windowDays
  if component = ∅ then return (1, 0)
  let flaggedInComponent := (component.filter (fun c => store.isFlagged c)).card
  return (component.card, roundTo 4 (flaggedInComponent / component.card))

def features (store : GraphStore) (ccNum : ℤ) (windowDays : Option ℤ) : Py NodeFeatures := do
  let merchants ← store.scopedMerchants ccNum windowDays
  if merchants = ∅ then return {}
  let merchantDegree := merchants.card
  let (peers, fanIn) ← merchants.sort.foldlM (fun (peers, fanIn) merchant => do
    let crowd := (← store.scopedCustomers merchant windowDays).erase ccNum
    return (peers ∪ crowd, fanIn + crowd.card)) ((∅ : Finset ℤ), 0)
  let fanIn := min fanIn (max 1 merchantDegree * 1000)
  let flaggedNeighbors := peers.filter (fun p => store.isFlagged p)
  let shared := peers.card
  let flaggedExposure : ℚ := if shared ≠ 0 then flaggedNeighbors.card / shared else 0
  let coOccurrence ← store.coOccurrence ccNum merchants windowDays
  let (clusterSize, clusterFlaggedRatio) ← store.componentStats ccNum windowDays
  return {
    merchantDegree := merchantDegree
    merchantFanIn := fanIn
    sharedCounterpartyCount := shared
    coOccurrenceCount := coOccurrence
    flaggedNeighborCount := flaggedNeighbors.card
    flaggedExposure := roundTo 4 flaggedExposure
    clusterSize := clusterSize
    clusterFlaggedRatio := roundTo 4 clusterFlaggedRatio }

end GraphStore

/-- The features as the bundle carries them. -/
def NodeFeatures.fields (f : NodeFeatures) : JsonObj :=
  [("merchant_degree", .int f.merchantDegree),
    ("merchant_fan_in", .int f.merchantFanIn),
    ("shared_counterparty_count", .int f.sharedCounterpartyCount),
    ("co_occurrence_count", .int f.coOccurrenceCount),
    ("flagged_neighbor_count", .int f.flaggedNeighborCount),
    ("flagged_exposure", .float f.flaggedExposure),
    ("cluster_size", .int f.clusterSize),
    ("cluster_flagged_ratio", .float f.clusterFlaggedRatio)]

/-- The blend of the features, and nothing for an isolated customer. -/
def NodeFeatures.riskScore (f : NodeFeatures) : ℚ :=
  if f.sharedCounterpartyCount = 0 then 0
  else
    let flagged := min 1 f.flaggedExposure
    let shared := min 1 (f.sharedCounterpartyCount / 5 : ℚ)
    let coOcc := min 1 (f.coOccurrenceCount / 3 : ℚ)
    let fan := min 1 (f.merchantFanIn / 10 : ℚ)
    let score := weightFlaggedExposure * flagged + weightSharedCounterparty * shared
      + weightCoOccurrence * coOcc + weightMerchantFanIn * fan
    roundTo 4 (min 1 (max 0 score))

/-- The indicators, each where its number is not zero. -/
def NodeFeatures.indicators (f : NodeFeatures) : List String :=
  (if f.flaggedNeighborCount ≠ 0 then
    ["Shares merchant(s) with " ++ toString f.flaggedNeighborCount
      ++ " confirmed-fraud account(s) (flagged exposure "
      ++ wholePercent f.flaggedExposure ++ ")."] else [])
  ++ (if f.sharedCounterpartyCount ≠ 0 then
    ["Connected to " ++ toString f.sharedCounterpartyCount ++ " other customer(s) via "
      ++ toString f.merchantDegree ++ " shared merchant(s)."] else [])
  ++ (if f.coOccurrenceCount ≠ 0 then
    [toString f.coOccurrenceCount ++ " temporal co-occurrence(s) — peer transaction(s) at the "
      ++ "same merchant within 60s."] else [])
  ++ (if f.clusterFlaggedRatio ≠ 0 then
    ["Community of " ++ toString f.clusterSize ++ " account(s) with a "
      ++ wholePercent f.clusterFlaggedRatio ++ " confirmed-fraud ratio."] else [])

/-- The members with nobody found are the customer alone. -/
def orAlone (members : Finset ℤ) (ccNum : ℤ) : Finset ℤ :=
  if members = ∅ then {ccNum} else members

namespace GraphStore

def networkRiskScore (store : GraphStore) (ccNum : ℤ) (windowDays : Option ℤ) : Py ℚ := do
  let f ← store.features ccNum windowDays
  return f.riskScore

def findings (store : GraphStore) (ccNum : ℤ) (windowDays : Option ℤ) : Py (List String) := do
  let f ← store.features ccNum windowDays
  return f.indicators

/-- A merchant of the ego graph: its node, its edge and the customers it adds. -/
def egoMerchant (store : GraphStore) (ccNum : ℤ) (windowDays : Option ℤ)
    (state : List Json × List Json × Finset ℤ) (merchant : String) :
    Py (List Json × List Json × Finset ℤ) := do
  let (nodes, edges, peerSet) := state
  let crowd := (← store.scopedCustomers merchant windowDays).erase ccNum
  let status := if ∃ p ∈ crowd, store.isFlagged p then "review" else "normal"
  let volume ← store.edgeVolume ccNum merchant windowDays
  return (nodes ++ [merchantNode merchant status],
    edges ++ [graphEdge ccNum merchant (roundTo 2 volume)], peerSet ∪ crowd)

/-- A peer of the ego graph, connected to the first merchant shared. -/
def egoPeer (store : GraphStore) (ccNum : ℤ) (windowDays : Option ℤ)
    (state : List Json × List Json) (peer : ℤ) : Py (List Json × List Json) := do
  let (nodes, edges) := state
  let status := if store.isFlagged peer then "flagged" else "normal"
  let own ← store.scopedMerchants ccNum windowDays
  let others ← store.scopedMerchants peer windowDays
  let edges :=
    match (own ∩ others).sort with
    | [] => edges
    | first :: _ => edges ++ [graphEdge peer first 1]
  return (nodes ++ [customerNode peer status], edges)

def egoGraph (store : GraphStore) (ccNum : ℤ) (windowDays : Option ℤ) (limit : ℕ := 24) :
    Py JsonObj := do
  let merchants := (← store.scopedMerchants ccNum windowDays).sort
  let (nodes, edges, peerSet) ← merchants.foldlM (store.egoMerchant ccNum windowDays)
    ([customerNode ccNum "self"], [], ∅)
  let (nodes, edges) ← (peerSet.sort.take (limit - merchants.length - 1)).foldlM
    (store.egoPeer ccNum windowDays) (nodes, edges)
  return [("nodes", .arr nodes), ("edges", .arr edges)]

def memberStatus (store : GraphStore) (ccNum customer : ℤ) : String :=
  if customer = ccNum then "self" else if store.isFlagged customer then "flagged" else "normal"

/-- The edges of a merchant of the community graph. -/
def communityEdges (store : GraphStore) (windowDays : Option ℤ) (merchant : String)
    (crowd : Finset ℤ) : Py (List Json) :=
  crowd.sort.mapM (fun customer => do
    let volume ← store.edgeVolume customer merchant windowDays
    return graphEdge customer merchant (roundTo 2 volume))

def communityMerchant (store : GraphStore) (windowDays : Option ℤ)
    (merchantMembers : String → Finset ℤ) (members : Finset ℤ)
    (state : List Json × List Json) (merchant : String) : Py (List Json × List Json) := do
  let (nodes, edges) := state
  let crowd := merchantMembers merchant ∩ members
  if crowd.card < 1 then return (nodes, edges)
  let status := if ∃ p ∈ crowd, store.isFlagged p then "review" else "normal"
  let drawn ← store.communityEdges windowDays merchant crowd
  return (nodes ++ [merchantNode merchant status], edges ++ drawn)

/-- A member's merchants, added to those seen and to the members of each. -/
def addMerchants (store : GraphStore) (windowDays : Option ℤ)
    (state : Finset String × (String → Finset ℤ)) (customer : ℤ) :
    Py (Finset String × (String → Finset ℤ)) := do
  let (merchantsSeen, merchantMembers) := state
  let merchants ← store.scopedMerchants customer windowDays
  return (merchantsSeen ∪ merchants,
    fun merchant =>
      if merchant ∈ merchants then insert customer (merchantMembers merchant)
      else merchantMembers merchant)

def communityGraph (store : GraphStore) (ccNum : ℤ) (windowDays : Option ℤ)
    (nodeLimit : ℕ := 60) : Py JsonObj := do
  let members := orAlone (← store.communityMembers ccNum windowDays) ccNum
  let members := (members.sort.take nodeLimit).toFinset
  let nodes := members.sort.map (fun c => customerNode c (store.memberStatus ccNum c))
  let (merchantsSeen, merchantMembers) ← members.sort.foldlM (store.addMerchants windowDays)
    (∅, fun _ => ∅)
  let (nodes, edges) ← merchantsSeen.sort.foldlM
    (store.communityMerchant windowDays merchantMembers members) (nodes, [])
  return [("nodes", .arr nodes), ("edges", .arr edges)]

end GraphStore

/-- A typology label from the numbers of members, flagged members and merchants. -/
def communityPattern (members flaggedMembers sharedMerchants : ℕ) : String :=
  if members ≤ 1 then "isolated"
  else
    let flaggedRatio : ℚ := flaggedMembers / members
    if 1 / 2 ≤ flaggedRatio ∧ 3 ≤ members then "fraud_ring"
    else if 0 < flaggedRatio ∧ flaggedRatio < 1 / 2 then "mixed_cluster"
    else if sharedMerchants = 1 ∧ 3 ≤ members then "shared_merchant_collapse"
    else "normal_cluster"

namespace GraphStore

/-- A member's merchants and volumes, added to those of the cluster. -/
def addMember (store : GraphStore) (windowDays : Option ℤ) (state : Finset String × ℚ)
    (customer : ℤ) : Py (Finset String × ℚ) := do
  let merchants ← store.scopedMerchants customer windowDays
  merchants.sort.foldlM (fun (shared, total) merchant => do
    let volume ← store.edgeVolume customer merchant windowDays
    return (insert merchant shared, total + volume)) state

def community (store : GraphStore) (ccNum : ℤ) (windowDays : Option ℤ) (nodeLimit : ℕ := 60) :
    Py JsonObj := do
  let members := orAlone (← store.communityMembers ccNum windowDays) ccNum
  let flaggedMembers := members.filter (fun c => store.isFlagged c)
  let (sharedMerchants, totalVolume) ← members.sort.foldlM (store.addMember windowDays) (∅, 0)
  let graph ← store.communityGraph ccNum windowDays nodeLimit
  return [("graph", .obj graph),
    ("stats", .obj [
      ("cluster_size", .int members.card),
      ("flagged_count", .int flaggedMembers.card),
      ("flagged_ratio", .float (roundTo 4 (flaggedMembers.card / max 1 members.card))),
      ("distinct_shared_merchants", .int sharedMerchants.card),
      ("total_volume", .float (roundTo 2 totalVolume)),
      ("dominant_pattern",
        .str (communityPattern members.card flaggedMembers.card sharedMerchants.card))]),
    ("members", .arr ((members.sort.take nodeLimit).map (fun (c : ℤ) =>
      .obj [("cc_num", .int c), ("status", .str (store.memberStatus ccNum c))])))]

/-- The bundle the analyst API and the console use. -/
def networkContext (store : GraphStore) (ccNum : ℤ) (windowDays : Option ℤ := some 30) :
    Py JsonObj := do
  let score ← store.networkRiskScore ccNum windowDays
  let findings ← store.findings ccNum windowDays
  let features ← store.features ccNum windowDays
  let ego ← store.egoGraph ccNum windowDays
  return [("network_risk_score", .float score),
    ("available", .bool (features.sharedCounterpartyCount ≠ 0)),
    ("findings", .arr (findings.map Json.str)),
    ("features", .obj features.fields),
    ("ego", .obj ego)]

end GraphStore

end VeriPay.GraphEngine
