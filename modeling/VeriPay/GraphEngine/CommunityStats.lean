import VeriPay.GraphEngine.CommunityView

/-!
The statistics of a community: the merchants counted as shared, the label of its type and the
volume. The merchants are those of any member; the label looks at the share of flagged
members before it looks at their number; the volume takes in each transaction of the members
once.
-/

namespace VeriPay.GraphEngine

open Lib

def VisitedBy (visits : List ObservedTransaction) (member : ℤ) (merchant : String) : Prop :=
  ∃ visit ∈ visits, visit.ccNum = member ∧ visit.merchant = merchant

/-- Two of these customers visited the merchant. -/
def SharedAmong (visits : List ObservedTransaction) (members : Set ℤ) (merchant : String) : Prop :=
  ∃ a ∈ members, ∃ b ∈ members, a ≠ b ∧ VisitedBy visits a merchant ∧ VisitedBy visits b merchant

/-- One of these customers visited a merchant that no other of them did. -/
def SoleVisitor (visits : List ObservedTransaction) (members : Set ℤ) : Prop :=
  ∃ a ∈ members, ∃ merchant, VisitedBy visits a merchant ∧
    ∀ b ∈ members, VisitedBy visits b merchant → b = a

/-- Where at least two members are drawn, only merchants that two of the members visited are drawn
and counted. -/
structure SharedOnly (visits : List ObservedTransaction) (customer nodeLimit : ℤ)
    (answer : CommunityAnswer) : Prop where
  drawn : {member | Rendered visits customer nodeLimit member}.Nontrivial →
    ∀ node ∈ nodesOfKind "merchant" answer.graph, ∃ merchant,
      textOf "label" node = some merchant ∧
        SharedAmong visits {member | Rendered visits customer nodeLimit member} merchant
  counted : {member | Rendered visits customer nodeLimit member}.Nontrivial →
    ∃ count : ℕ, answer.overview.stats.get? "distinct_shared_merchants" = some (.int count) ∧
      {merchant | SharedAmong visits {member | Found visits customer member} merchant}.encard =
        count

variable {visits : List ObservedTransaction} {members : Set ℤ}

theorem SharedAmong.visited {merchant : String} (h : SharedAmong visits members merchant) :
    ∃ a ∈ members, VisitedBy visits a merchant := by
  obtain ⟨a, ha, -, -, -, hvisited, -⟩ := h
  exact ⟨a, ha, hvisited⟩

/-- Every merchant visited is shared where nobody is a sole visitor. -/
theorem all_shared_iff :
    (∀ merchant, (∃ a ∈ members, VisitedBy visits a merchant) →
      SharedAmong visits members merchant) ↔ ¬ SoleVisitor visits members := by
  constructor
  · intro h hsole
    obtain ⟨a, ha, merchant, hvisited, honly⟩ := hsole
    obtain ⟨b, hb, b', hb', hne, hvisitedb, hvisitedb'⟩ := h merchant ⟨a, ha, hvisited⟩
    exact hne ((honly b hb hvisitedb).trans (honly b' hb' hvisitedb').symm)
  · intro h merchant hsome
    obtain ⟨a, ha, hvisited⟩ := hsome
    by_contra hunshared
    apply h
    refine ⟨a, ha, merchant, hvisited, ?_⟩
    intro b hb hvisitedb
    by_contra hne
    exact hunshared ⟨b, hb, a, ha, hne, hvisitedb, hvisited⟩

namespace GraphStore

variable {store : GraphStore} {windowDays : Option ℤ} {customer nodeLimit : ℤ}

theorem mem_merchants_iff {member : ℤ} {merchant : String} :
    merchant ∈ (store.windowReadings windowDays).merchants member ↔
      VisitedBy (store.windowVisits windowDays) member merchant := by
  simp only [windowReadings, readings, windowVisits, VisitedBy, List.mem_toFinset, List.mem_map,
    List.mem_filter, decide_eq_true_eq, and_assoc]

theorem mem_biUnion_merchants_iff {members : Finset ℤ} {merchant : String} :
    merchant ∈ members.biUnion (store.windowReadings windowDays).merchants ↔
      ∃ a ∈ (members : Set ℤ), VisitedBy (store.windowVisits windowDays) a merchant := by
  simp only [Finset.mem_biUnion, mem_merchants_iff, Finset.mem_coe]

theorem coe_drawnMembers :
    ((store.windowReadings windowDays).drawnMembers customer nodeLimit : Set ℤ) =
      {member | Rendered (store.windowVisits windowDays) customer nodeLimit member} := by
  ext member
  exact mem_drawnMembers_iff

theorem coe_members_found :
    ((store.windowReadings windowDays).members customer : Set ℤ) =
      {member | Found (store.windowVisits windowDays) customer member} := by
  ext member
  exact mem_members_iff

/-- The merchants drawn are all those of the members drawn. -/
theorem drawn_shared_iff (order : DrawOrder) :
    (∀ node ∈ nodesOfKind "merchant"
        ((store.windowReadings windowDays).communityGraph order customer nodeLimit),
      ∃ merchant, textOf "label" node = some merchant ∧
        SharedAmong (store.windowVisits windowDays)
          {member | Rendered (store.windowVisits windowDays) customer nodeLimit member}
          merchant) ↔
      ¬ SoleVisitor (store.windowVisits windowDays)
        {member | Rendered (store.windowVisits windowDays) customer nodeLimit member} := by
  rw [Readings.nodesOfKind_merchant, ← all_shared_iff, ← coe_drawnMembers]
  have hvisits := visits_sortedMerchants (((store.windowReadings windowDays).drawnMembers customer
    nodeLimit).biUnion (store.windowReadings windowDays).merchants)
  constructor
  · intro h merchant hvisited
    obtain ⟨label, hlabel, hshared⟩ := h _ (List.mem_map_of_mem
      (hvisits.mem_iff.mpr (mem_biUnion_merchants_iff.mpr hvisited)))
    rw [label_merchantNode] at hlabel
    rw [Option.some.inj hlabel]
    exact hshared
  · intro h node hnode
    obtain ⟨merchant, hmerchant, rfl⟩ := List.mem_map.mp hnode
    exact ⟨merchant, rfl, h merchant (mem_biUnion_merchants_iff.mp (hvisits.mem_iff.mp hmerchant))⟩

/-- The merchants counted are all those of the members. -/
theorem counted_shared_iff :
    {merchant | SharedAmong (store.windowVisits windowDays)
        {member | Found (store.windowVisits windowDays) customer member} merchant}.encard =
      (((store.windowReadings windowDays).members customer).biUnion
        (store.windowReadings windowDays).merchants).card ↔
      ¬ SoleVisitor (store.windowVisits windowDays)
        {member | Found (store.windowVisits windowDays) customer member} := by
  rw [← all_shared_iff, ← coe_members_found, ← Set.encard_coe_eq_coe_finsetCard]
  constructor
  · intro hcard merchant hvisited
    have hsub : {merchant | SharedAmong (store.windowVisits windowDays)
          ((store.windowReadings windowDays).members customer) merchant} ⊆
        (((store.windowReadings windowDays).members customer).biUnion
          (store.windowReadings windowDays).merchants : Set String) :=
      fun _ hshared => mem_biUnion_merchants_iff.mpr hshared.visited
    have hall := ((Finset.finite_toSet _).subset hsub).eq_of_subset_of_encard_le hsub hcard.ge
    have hmem := mem_biUnion_merchants_iff.mpr hvisited
    rw [← Finset.mem_coe, ← hall] at hmem
    exact hmem
  · intro h
    congr 1
    ext merchant
    rw [Finset.mem_coe, mem_biUnion_merchants_iff]
    exact ⟨SharedAmong.visited, h merchant⟩

theorem sharedOnly_iff (order : DrawOrder) :
    SharedOnly (store.windowVisits windowDays) customer nodeLimit
        ((store.windowReadings windowDays).communityAnswer order customer nodeLimit) ↔
      ({member | Rendered (store.windowVisits windowDays) customer nodeLimit member}.Nontrivial →
        ¬ SoleVisitor (store.windowVisits windowDays)
            {member | Rendered (store.windowVisits windowDays) customer nodeLimit member} ∧
          ¬ SoleVisitor (store.windowVisits windowDays)
            {member | Found (store.windowVisits windowDays) customer member}) := by
  rw [← drawn_shared_iff order, ← counted_shared_iff]
  have hcount : ((store.windowReadings windowDays).community customer nodeLimit).stats.get?
      "distinct_shared_merchants" =
        some (.int (((store.windowReadings windowDays).members customer).biUnion
          (store.windowReadings windowDays).merchants).card) := by
    rw [Readings.community]
    simp [orAlone_members]
  constructor
  · intro h htwo
    obtain ⟨count, hstats, hcard⟩ := h.counted htwo
    rw [Readings.communityAnswer] at hstats
    rw [hcount] at hstats
    rw [hcard]
    exact ⟨h.drawn htwo,
      congrArg _ (Int.ofNat_inj.mp (Json.int.inj (Option.some.inj hstats))).symm⟩
  · intro h
    exact ⟨fun htwo => (h htwo).1, fun htwo => ⟨_, hcount, (h htwo).2⟩⟩

end GraphStore

/-- After any comparable observations the view shows and counts shared merchants only exactly
where the window starts on a date of the calendar and, if two members are drawn, no member, drawn
or found, is the sole visitor of a merchant among them. -/
theorem sharedOnly_iff_no_soleVisitor {txs : List ObservedTransaction}
    (hcomparable : AllComparable txs) (windowDays : Option ℤ) (order : DrawOrder)
    (customer nodeLimit : ℤ) :
    let store := GraphStore.observing txs
    let visits := store.windowVisits windowDays
    (∃ answer, order.communityAnswer store customer windowDays nodeLimit = .ok answer ∧
      SharedOnly visits customer nodeLimit answer) ↔
    store.WindowStarts windowDays ∧
      ({member | Rendered visits customer nodeLimit member}.Nontrivial →
        ¬ SoleVisitor visits {member | Rendered visits customer nodeLimit member} ∧
        ¬ SoleVisitor visits {member | Found visits customer member}) := by
  intro store visits
  obtain ⟨hreads, hoverflow⟩ := reads_or_overflows hcomparable windowDays
  rw [Py.returns_iff (fun hwindow => (hreads hwindow).communityAnswer order customer nodeLimit)
    (fun hwindow => communityAnswer_error (hoverflow hwindow) order customer nodeLimit)]
  exact and_congr_right fun _ => GraphStore.sharedOnly_iff order

theorem sharedOnly_iff_no_soleVisitor_market :
    let store := GraphStore.observing (crowdedMarket 2)
    let visits := store.windowVisits (some 30)
    (∃ answer, DrawOrder.ascending.communityAnswer store 0 (some 30) 60 = .ok answer ∧
      SharedOnly visits 0 60 answer) ↔
    store.WindowStarts (some 30) ∧
      ({member | Rendered visits 0 60 member}.Nontrivial →
        ¬ SoleVisitor visits {member | Rendered visits 0 60 member} ∧
        ¬ SoleVisitor visits {member | Found visits 0 member}) :=
  sharedOnly_iff_no_soleVisitor (allComparable_crowdedMarket 2) (some 30) DrawOrder.ascending 0 60

/-- The first customer of the market, at a kiosk of its own. -/
def kioskVisit : ObservedTransaction where
  transactionId := "tx-kiosk"
  ccNum := 0
  merchant := "kiosk"
  amount := 5
  timestamp := .atHour true 738000 13

def marketAndKiosk : List ObservedTransaction := kioskVisit :: crowdedMarket 2

theorem allComparable_marketAndKiosk : AllComparable marketAndKiosk := by
  unfold AllComparable DateTime.Comparable
  decide

theorem mem_visits_marketAndKiosk {visit : ObservedTransaction} :
    visit ∈ (GraphStore.observing marketAndKiosk).windowVisits none ↔
      visit = kioskVisit ∨ visit = marketVisit 0 ∨ visit = marketVisit 1 := by
  have hids : IdsDetermine marketAndKiosk := by
    unfold IdsDetermine
    decide
  have hlist : marketAndKiosk = [kioskVisit, marketVisit 0, marketVisit 1] := rfl
  rw [mem_windowVisits_none hids, hlist]
  simp only [List.mem_cons, List.not_mem_nil, or_false]

/-- Both customers of the market are drawn. -/
theorem rendered_marketAndKiosk {member : ℤ} (h : member = 0 ∨ member = 1) :
    Rendered ((GraphStore.observing marketAndKiosk).windowVisits none) 0 60 member := by
  have hfound : Found ((GraphStore.observing marketAndKiosk).windowVisits none) 0 member := by
    apply found_of_sharesMerchant
    have hfirst := mem_visits_marketAndKiosk.mpr (Or.inr (Or.inl rfl))
    have hsecond := mem_visits_marketAndKiosk.mpr (Or.inr (Or.inr rfl))
    rcases h with rfl | rfl
    · exact ⟨marketVisit 0, hfirst, marketVisit 0, hfirst, rfl, rfl, rfl⟩
    · exact ⟨marketVisit 0, hfirst, marketVisit 1, hsecond, rfl, rfl, rfl⟩
  refine ⟨hfound, ?_⟩
  rw [if_pos (by omega)]
  have hfew : {other | Found ((GraphStore.observing marketAndKiosk).windowVisits none) 0 other ∧
      other < member} ⊆ {0, 1} := by
    intro other hother
    rcases hother.1.visited with rfl | ⟨visit, hvisit, rfl⟩
    · exact Or.inl rfl
    · rcases mem_visits_marketAndKiosk.mp hvisit with rfl | rfl | rfl
      · exact Or.inl rfl
      · exact Or.inl rfl
      · exact Or.inr rfl
  refine (Set.encard_le_encard hfew).trans_lt ?_
  refine (Set.encard_insert_le _ _).trans_lt ?_
  rw [Set.encard_singleton]
  exact Nat.cast_lt.mpr (by omega : 1 + 1 < 60)

/-- The kiosk is drawn and counted, and only one member was there. -/
theorem not_sharedOnly_marketAndKiosk :
    let store := GraphStore.observing marketAndKiosk
    let visits := store.windowVisits none
    {member | Rendered visits 0 60 member}.Nontrivial ∧
      ¬ ∃ answer, DrawOrder.ascending.communityAnswer store 0 none 60 = .ok answer ∧
        SharedOnly visits 0 60 answer := by
  intro store visits
  have htwo : {member | Rendered visits 0 60 member}.Nontrivial :=
    ⟨0, rendered_marketAndKiosk (Or.inl rfl), 1, rendered_marketAndKiosk (Or.inr rfl), by decide⟩
  refine ⟨htwo, ?_⟩
  have hreads := (reads_or_overflows allComparable_marketAndKiosk none).1 (windowStarts_none _)
  rw [hreads.communityAnswer DrawOrder.ascending]
  intro h
  obtain ⟨answer, hanswer, hshared⟩ := h
  rw [← Except.ok.inj hanswer, GraphStore.sharedOnly_iff] at hshared
  apply (hshared htwo).1
  refine ⟨0, rendered_marketAndKiosk (Or.inl rfl), "kiosk",
    ⟨kioskVisit, mem_visits_marketAndKiosk.mpr (Or.inl rfl), rfl, rfl⟩, ?_⟩
  intro b _ hvisited
  obtain ⟨visit, hvisit, hcustomer, hmerchant⟩ := hvisited
  rcases mem_visits_marketAndKiosk.mp hvisit with rfl | rfl | rfl
  · exact hcustomer.symm
  · exact hcustomer.symm
  · exact absurd hmerchant (by decide)

/-- The label of a cluster tells whether anybody in it is flagged. -/
structure LabelsFlags (store : GraphStore) (visits : List ObservedTransaction) (customer : ℤ)
    (overview : CommunityOverview) : Prop where
  flagged_label : 2 ≤ {member | Found visits customer member}.encard →
    (∃ member, Found visits customer member ∧ store.isFlagged member = true) →
      overview.stats.get? "dominant_pattern" = some (.str "fraud_ring") ∨
        overview.stats.get? "dominant_pattern" = some (.str "mixed_cluster")
  clean_label : overview.stats.get? "dominant_pattern" = some (.str "normal_cluster") ∨
      overview.stats.get? "dominant_pattern" = some (.str "shared_merchant_collapse") →
    ∀ member, Found visits customer member → store.isFlagged member = false

/-- A flagged member is told from the label, but for a cluster of two. -/
theorem communityPattern_flagged {members flagged merchants : ℕ} (hmembers : 2 ≤ members)
    (hflagged : 0 < flagged) :
    communityPattern members flagged merchants =
      if members = 2 then "normal_cluster"
      else if members ≤ 2 * flagged then "fraud_ring" else "mixed_cluster" := by
  have hpositive : (0 : ℚ) < members := Nat.cast_pos.mpr (by omega)
  have hratio : (0 : ℚ) < flagged / members := div_pos (Nat.cast_pos.mpr hflagged) hpositive
  have hhalf : (1 : ℚ) / 2 ≤ flagged / members ↔ members ≤ 2 * flagged := by
    rw [div_le_div_iff₀ two_pos hpositive, one_mul, mul_comm]
    exact_mod_cast Iff.rfl
  rw [communityPattern, if_neg (by omega)]
  simp only [hhalf, hratio, true_and, ← not_le]
  by_cases htwo : members = 2
  · rw [if_neg (by omega), if_neg (by omega), if_neg (by omega), if_pos htwo]
  · rw [if_neg htwo]
    by_cases hmany : members ≤ 2 * flagged
    · rw [if_pos ⟨hmany, by omega⟩, if_pos hmany]
    · rw [if_neg (fun h => hmany h.1), if_pos hmany, if_neg hmany]

/-- So the label tells in every other cluster. -/
theorem communityPattern_tells_iff {members flagged : ℕ} (merchants : ℕ) :
    ((2 ≤ members → 0 < flagged →
        communityPattern members flagged merchants = "fraud_ring" ∨
          communityPattern members flagged merchants = "mixed_cluster") ∧
      (communityPattern members flagged merchants = "normal_cluster" ∨
          communityPattern members flagged merchants = "shared_merchant_collapse" →
        ¬ 0 < flagged)) ↔ ¬ (members = 2 ∧ 0 < flagged) := by
  constructor
  · intro h hpair
    apply h.2 (Or.inl _) hpair.2
    rw [communityPattern_flagged hpair.1.ge hpair.2, if_pos hpair.1]
  · intro h
    constructor
    · intro hmembers hflagged
      rw [communityPattern_flagged hmembers hflagged, if_neg fun htwo => h ⟨htwo, hflagged⟩]
      split_ifs
      · exact Or.inl rfl
      · exact Or.inr rfl
    · intro hpattern hflagged
      by_cases hmembers : 2 ≤ members
      · rw [communityPattern_flagged hmembers hflagged,
          if_neg fun htwo => h ⟨htwo, hflagged⟩] at hpattern
        split_ifs at hpattern <;> simp at hpattern
      · rw [communityPattern, if_pos (by omega)] at hpattern
        simp at hpattern

namespace GraphStore

variable {store : GraphStore} {windowDays : Option ℤ} {customer nodeLimit : ℤ}

theorem encard_found :
    {member | Found (store.windowVisits windowDays) customer member}.encard =
      ((store.windowReadings windowDays).members customer).card := by
  rw [← coe_members_found, Set.encard_coe_eq_coe_finsetCard]

theorem flagged_found_iff :
    (∃ member, Found (store.windowVisits windowDays) customer member ∧
        store.isFlagged member = true) ↔
      0 < (((store.windowReadings windowDays).members customer).filter
        (fun member => store.isFlagged member)).card := by
  rw [Finset.card_pos]
  simp only [Finset.Nonempty, Finset.mem_filter, mem_members_iff]

/-- A search that finds two customers has found the whole component. -/
theorem pair_found_iff :
    ((component (store.windowVisits windowDays) customer).encard = 2 ∧
        ∃ member ∈ component (store.windowVisits windowDays) customer,
          store.isFlagged member = true) ↔
      ((store.windowReadings windowDays).members customer).card = 2 ∧
        ∃ member, Found (store.windowVisits windowDays) customer member ∧
          store.isFlagged member = true := by
  have hwhole (h : (component (store.windowVisits windowDays) customer).encard ≤
      communityMaxNodes) : component (store.windowVisits windowDays) customer =
        {member | Found (store.windowVisits windowDays) customer member} := by
    rw [← coe_members_found, coe_members h]
  constructor
  · intro h
    have heq := hwhole (h.1.trans_le (by exact_mod_cast (by decide : 2 ≤ communityMaxNodes)))
    rw [heq, encard_found] at h
    exact ⟨Nat.cast_inj.mp h.1, h.2⟩
  · intro h
    have heq := hwhole ((card_members_le_iff customer).mp (h.1.trans_le (by decide)))
    rw [heq, encard_found, h.1]
    exact ⟨rfl, h.2⟩

theorem label_community (store : GraphStore) (windowDays : Option ℤ) (customer nodeLimit : ℤ) :
    ∃ merchants,
      ((store.windowReadings windowDays).community customer nodeLimit).stats.get?
        "dominant_pattern" = some (.str (communityPattern
          ((store.windowReadings windowDays).members customer).card
          (((store.windowReadings windowDays).members customer).filter
            (fun member => store.isFlagged member)).card merchants)) := by
  rw [Readings.community]
  simp only [orAlone_members]
  exact ⟨_, rfl⟩

theorem labelsFlags_iff :
    LabelsFlags store (store.windowVisits windowDays) customer
        ((store.windowReadings windowDays).community customer nodeLimit) ↔
      ¬ ((component (store.windowVisits windowDays) customer).encard = 2 ∧
        ∃ member ∈ component (store.windowVisits windowDays) customer,
          store.isFlagged member = true) := by
  obtain ⟨merchants, hlabel⟩ := label_community store windowDays customer nodeLimit
  have htwo : 2 ≤ {member | Found (store.windowVisits windowDays) customer member}.encard ↔
      2 ≤ ((store.windowReadings windowDays).members customer).card := by
    rw [encard_found]
    exact Nat.cast_le
  rw [pair_found_iff, flagged_found_iff, ← communityPattern_tells_iff merchants]
  constructor
  · intro h
    constructor
    · intro hmembers hflagged
      have hpattern := h.flagged_label (htwo.mpr hmembers) (flagged_found_iff.mpr hflagged)
      rw [hlabel] at hpattern
      simpa using hpattern
    · intro hpattern hflagged
      obtain ⟨member, hfound, hmember⟩ := flagged_found_iff.mpr hflagged
      have hclean := h.clean_label (by rw [hlabel]; simpa using hpattern) member hfound
      exact Bool.false_ne_true (hclean.symm.trans hmember)
  · intro h
    constructor
    · intro hmembers hflagged
      rw [hlabel]
      simpa using h.1 (htwo.mp hmembers) (flagged_found_iff.mp hflagged)
    · intro hpattern member hfound
      rw [hlabel] at hpattern
      rw [Bool.eq_false_iff]
      intro hflagged
      exact h.2 (by simpa using hpattern) (flagged_found_iff.mp ⟨member, hfound, hflagged⟩)

end GraphStore

/-- After any comparable observations the label tells flagged clusters from the others exactly
where the window starts on a date of the calendar and the component is not two customers with
a flagged one. -/
theorem labelsFlags_iff_not_pair {txs : List ObservedTransaction}
    (hcomparable : AllComparable txs) (windowDays : Option ℤ) (order : SetOrder)
    (customer nodeLimit : ℤ) :
    let store := GraphStore.observing txs
    let visits := store.windowVisits windowDays
    (∃ overview, order.community store customer windowDays nodeLimit = .ok overview ∧
      LabelsFlags store visits customer overview) ↔
    store.WindowStarts windowDays ∧ ¬ ((component visits customer).encard = 2 ∧
      ∃ member ∈ component visits customer, store.isFlagged member = true) := by
  intro store visits
  obtain ⟨hreads, hoverflow⟩ := reads_or_overflows hcomparable windowDays
  rw [Py.returns_iff (fun hwindow => (hreads hwindow).community order customer nodeLimit)
    (fun hwindow => community_error order (hoverflow hwindow) customer nodeLimit)]
  exact and_congr_right fun _ => GraphStore.labelsFlags_iff

theorem labelsFlags_iff_not_pair_market :
    let store := GraphStore.observing (crowdedMarket 2)
    let visits := store.windowVisits (some 30)
    (∃ overview, SetOrder.ascending.community store 0 (some 30) 60 = .ok overview ∧
      LabelsFlags store visits 0 overview) ↔
    store.WindowStarts (some 30) ∧ ¬ ((component visits 0).encard = 2 ∧
      ∃ member ∈ component visits 0, store.isFlagged member = true) :=
  labelsFlags_iff_not_pair (allComparable_crowdedMarket 2) (some 30) SetOrder.ascending 0 60

/-- Two customers at the market, and one of them committed a fraud there. -/
def flaggedMarket : List ObservedTransaction :=
  [marketVisit 0, { marketVisit 1 with flagged := true }]

theorem allComparable_flaggedMarket : AllComparable flaggedMarket := by
  unfold AllComparable DateTime.Comparable
  decide

theorem mem_visits_flaggedMarket {visit : ObservedTransaction} :
    visit ∈ (GraphStore.observing flaggedMarket).windowVisits none ↔
      visit = marketVisit 0 ∨ visit = { marketVisit 1 with flagged := true } := by
  have hids : IdsDetermine flaggedMarket := by
    unfold IdsDetermine
    decide
  rw [mem_windowVisits_none hids, flaggedMarket]
  simp only [List.mem_cons, List.not_mem_nil, or_false]

/-- The two are one component. -/
theorem component_flaggedMarket :
    component ((GraphStore.observing flaggedMarket).windowVisits none) 0 = {0, 1} := by
  ext member
  constructor
  · intro hmember
    cases hmember with
    | refl => exact Or.inl rfl
    | tail _ hlast =>
      obtain ⟨-, -, visit, hvisit, -, rfl, -⟩ := hlast
      rcases mem_visits_flaggedMarket.mp hvisit with rfl | rfl
      · exact Or.inl rfl
      · exact Or.inr rfl
  · intro hmember
    have hfirst := mem_visits_flaggedMarket.mpr (Or.inl rfl)
    rcases hmember with rfl | rfl
    · exact Relation.ReflTransGen.refl
    · exact Relation.ReflTransGen.single ⟨_, hfirst, _, mem_visits_flaggedMarket.mpr (Or.inr rfl),
        rfl, rfl, rfl⟩

/-- Half of a cluster of two is flagged, and it is labelled normal. -/
theorem not_labelsFlags_flaggedMarket :
    let store := GraphStore.observing flaggedMarket
    let visits := store.windowVisits none
    ¬ ∃ overview, SetOrder.ascending.community store 0 none 60 = .ok overview ∧
      LabelsFlags store visits 0 overview := by
  intro store visits
  have hreads := (reads_or_overflows allComparable_flaggedMarket none).1 (windowStarts_none _)
  rw [hreads.community SetOrder.ascending]
  intro h
  obtain ⟨overview, hoverview, hlabels⟩ := h
  rw [← Except.ok.inj hoverview, GraphStore.labelsFlags_iff] at hlabels
  apply hlabels
  rw [component_flaggedMarket]
  exact ⟨Set.encard_pair (by omega), 1, Or.inr rfl, by decide⟩

/-- The volume of the community is that of its members' transactions in the window, each
counted once. -/
def VolumeConserved (order : SetOrder) (store : GraphStore) (customer : ℤ)
    (windowDays : Option ℤ) (nodeLimit : ℤ) : Prop :=
  ∃ members overview, order.communityMembers store customer windowDays = .ok members ∧
    order.community store customer windowDays nodeLimit = .ok overview ∧
      overview.stats.get? "total_volume" = some (.float (roundTo 2
        (((store.windowVisits windowDays).filter (fun visit => visit.ccNum ∈ members)).map
          (fun visit => visit.amount)).sum))

namespace GraphStore

variable {store : GraphStore} {windowDays : Option ℤ}

/-- The volumes of a customer's edges add up to what the customer spent. -/
theorem sum_volume (customer : ℤ) :
    ∑ merchant ∈ (store.windowReadings windowDays).merchants customer,
        (store.windowReadings windowDays).volume customer merchant =
      (((store.windowVisits windowDays).filter (fun visit => visit.ccNum = customer)).map
        (fun visit => visit.amount)).sum := by
  have hall : ((store.windowVisits windowDays).filter (fun visit => visit.ccNum = customer)).filter
      (fun visit => visit.merchant ∈ (store.windowReadings windowDays).merchants customer) =
        (store.windowVisits windowDays).filter (fun visit => visit.ccNum = customer) := by
    rw [List.filter_eq_self]
    intro visit hvisit
    rw [decide_eq_true_eq, mem_merchants_iff]
    obtain ⟨hwindow, hcustomer⟩ := List.mem_filter.mp hvisit
    exact ⟨visit, hwindow, of_decide_eq_true hcustomer, rfl⟩
  rw [← hall, sum_filter_mem]
  apply Finset.sum_congr rfl
  intro merchant _
  rw [List.filter_filter]
  simp only [windowReadings, readings, windowVisits, ← Bool.decide_and, and_comm]

theorem volumeConserved (order : SetOrder) {customer nodeLimit : ℤ}
    (hreads : Reads store windowDays (store.windowReadings windowDays)) :
    VolumeConserved order store customer windowDays nodeLimit := by
  refine ⟨_, _, hreads.communityMembers order customer,
    hreads.community order customer nodeLimit, ?_⟩
  rw [sum_filter_mem _ (fun visit : ObservedTransaction => visit.ccNum),
    ← Finset.sum_congr rfl fun member _ => sum_volume member, Readings.community]
  simp [orAlone_members]

end GraphStore

/-- After any comparable observations the volume is conserved where the window starts on a
date of the calendar; counting back any other window raises. -/
theorem community_volume {txs : List ObservedTransaction} (hcomparable : AllComparable txs)
    (windowDays : Option ℤ) (order : SetOrder) (customer nodeLimit : ℤ) :
    let store := GraphStore.observing txs
    (store.WindowStarts windowDays →
      VolumeConserved order store customer windowDays nodeLimit) ∧
    (¬ store.WindowStarts windowDays →
      order.community store customer windowDays nodeLimit =
        .error (.overflowError "date value out of range")) := by
  intro store
  obtain ⟨hreads, hoverflow⟩ := reads_or_overflows hcomparable windowDays
  constructor
  · intro hwindow
    exact GraphStore.volumeConserved order (hreads hwindow)
  · intro hwindow
    exact community_error order (hoverflow hwindow) customer nodeLimit

theorem community_volume_market :
    VolumeConserved SetOrder.ascending (GraphStore.observing (crowdedMarket 2)) 0 (some 30) 60 :=
  (community_volume (allComparable_crowdedMarket 2) (some 30) SetOrder.ascending 0 60).1
    windowStarts_market

/-- A window of a million days goes back before year 1, and there is no volume. -/
theorem not_volumeConserved_market :
    ¬ VolumeConserved SetOrder.ascending (GraphStore.observing (crowdedMarket 1)) 0
      (some 1000000) 60 := by
  intro h
  obtain ⟨_, _, hmembers, -⟩ := h
  rw [communityMembers_error _ (by decide : (GraphStore.observing (crowdedMarket 1)).cutoff
    (some 1000000) = .error (.overflowError "date value out of range"))] at hmembers
  cases hmembers

end VeriPay.GraphEngine
