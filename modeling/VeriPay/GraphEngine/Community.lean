import VeriPay.Lib.DecimalText
import VeriPay.Lib.LevelSearch
import VeriPay.GraphEngine.Locality
import VeriPay.GraphEngine.Representation

/-!
What the community search finds. Two customers are neighbors when the window shows both at
one merchant, and the search is the level search over this relation: it stops at the first
level that takes it over the cap, with the whole of that level.
-/

namespace VeriPay.GraphEngine

open Lib

/-- The customers with a merchant in common with this one. -/
def sharing (visits : List ObservedTransaction) (customer : ℤ) : Finset ℤ :=
  ((visits.filter (fun visit => ∃ own ∈ visits, own.ccNum = customer ∧
    own.merchant = visit.merchant)).map (fun visit => visit.ccNum)).toFinset

/-- The connected component of a customer. -/
def component (visits : List ObservedTransaction) (customer : ℤ) : Set ℤ :=
  {member | Linked visits customer member}

/-- The search still goes on when it comes to this customer: every smaller neighborhood is
within the cap. -/
def Found (visits : List ObservedTransaction) (customer member : ℤ) : Prop :=
  Discovered (sharing visits) communityMaxNodes customer member

theorem mem_sharing {visits : List ObservedTransaction} {a b : ℤ} :
    b ∈ sharing visits a ↔ SharesMerchant visits a b := by
  simp only [sharing, List.mem_toFinset, List.mem_map, List.mem_filter, decide_eq_true_eq]
  constructor
  · intro h
    obtain ⟨visit, ⟨hvisit, own, hown, hcustomer, hmerchant⟩, hmember⟩ := h
    exact ⟨own, hown, visit, hvisit, hcustomer, hmember, hmerchant⟩
  · intro h
    obtain ⟨own, hown, visit, hvisit, hcustomer, hmember, hmerchant⟩ := h
    exact ⟨visit, ⟨hvisit, own, hown, hcustomer, hmerchant⟩, hmember⟩

theorem reaches_sharing (visits : List ObservedTransaction) :
    Reaches (sharing visits) = Linked visits := by
  unfold Reaches Linked
  simp only [mem_sharing]

theorem sharesMerchant_symm {visits : List ObservedTransaction} {a b : ℤ}
    (h : SharesMerchant visits a b) : SharesMerchant visits b a := by
  obtain ⟨x, hx, y, hy, hxa, hyb, hmerchant⟩ := h
  exact ⟨y, hy, x, hx, hyb, hxa, hmerchant.symm⟩

theorem linked_symm {visits : List ObservedTransaction} {a b : ℤ} (h : Linked visits a b) :
    Linked visits b a :=
  have : Std.Symm (SharesMerchant visits) := ⟨fun _ _ => sharesMerchant_symm⟩
  Relation.ReflTransGen.stdSymm.symm _ _ h

/-- The search never stops before it has found the direct neighbors. -/
theorem found_of_sharesMerchant {visits : List ObservedTransaction} {a b : ℤ}
    (h : SharesMerchant visits a b) : Found visits a b := by
  refine ⟨1, mem_ball_succ (start_mem_ball 0) (mem_sharing.mpr h), ?_⟩
  intro fewer hfewer
  rw [Nat.lt_one_iff.mp hfewer, ball, Finset.card_singleton, communityMaxNodes]
  omega

/-- Whoever is found beside the customer has a visit. -/
theorem Found.visited {visits : List ObservedTransaction} {a b : ℤ} (h : Found visits a b) :
    b = a ∨ ∃ visit ∈ visits, visit.ccNum = b := by
  obtain ⟨steps, hmem, -⟩ := h
  have hreaches := reaches_of_mem_ball hmem
  rw [reaches_sharing] at hreaches
  cases hreaches with
  | refl => exact Or.inl rfl
  | tail _ hlast =>
    obtain ⟨-, -, visit, hvisit, -, hcustomer, -⟩ := hlast
    exact Or.inr ⟨visit, hvisit, hcustomer⟩

/-- Linked customers have one component. -/
theorem component_eq {visits : List ObservedTransaction} {a b : ℤ} (h : Linked visits a b) :
    component visits a = component visits b := by
  ext member
  exact ⟨(linked_symm h).trans, h.trans⟩

namespace Readings

theorem reach_eq_levelSearch (r : Readings) (rounds : ℕ) (seen fresh : Finset ℤ) :
    r.reach rounds seen fresh = levelSearch r.nearby communityMaxNodes rounds seen fresh := by
  induction rounds generalizing seen fresh with
  | zero => rfl
  | succ rounds ih => rw [reach, levelSearch, ih]

end Readings

namespace GraphStore

variable {store : GraphStore} {windowDays start : Option ℤ}

/-- The start of the window, if one is asked for. -/
def startOf (store : GraphStore) (windowDays : Option ℤ) : Option ℤ := do
  let days ← windowDays
  let latest ← store.latest.toOption
  return latest.instant - days * DateTime.microsPerDay

/-- The transactions of the window that ends with the latest. -/
def windowVisits (store : GraphStore) (windowDays : Option ℤ) : List ObservedTransaction :=
  store.visits (store.startOf windowDays)

/-- What the window shows. -/
def windowReadings (store : GraphStore) (windowDays : Option ℤ) : Readings :=
  store.readings (store.startOf windowDays)

/-- The window, if one is asked for, starts on a date of the calendar. -/
def WindowStarts (store : GraphStore) (windowDays : Option ℤ) : Prop :=
  ∀ days ∈ windowDays, ∃ latest, store.latest = .ok latest ∧
    DateTime.InCalendar (latest.wall - days * DateTime.microsPerDay)

theorem nearby_readings (store : GraphStore) (start : Option ℤ) :
    (store.readings start).nearby = sharing (store.visits start) := by
  funext customer
  ext peer
  simp only [Readings.nearby, readings, Finset.mem_biUnion, List.mem_toFinset, List.mem_map,
    List.mem_filter, decide_eq_true_eq, mem_sharing]
  constructor
  · intro h
    obtain ⟨_, ⟨own, ⟨hown, hcustomer⟩, rfl⟩, visit, ⟨hvisit, hmerchant⟩, hpeer⟩ := h
    exact ⟨own, hown, visit, hvisit, hcustomer, hpeer, hmerchant.symm⟩
  · intro h
    obtain ⟨own, hown, visit, hvisit, hcustomer, hpeer, hmerchant⟩ := h
    exact ⟨own.merchant, ⟨own, ⟨hown, hcustomer⟩, rfl⟩, visit, ⟨hvisit, hmerchant.symm⟩, hpeer⟩

theorem members_readings (store : GraphStore) (start : Option ℤ) (customer : ℤ) :
    (store.readings start).members customer =
      levelSearch (sharing (store.visits start)) communityMaxNodes (communityMaxNodes + 1) ∅
        {customer} := by
  rw [Readings.members, Readings.reach_eq_levelSearch, nearby_readings]

theorem mem_members_iff {customer member : ℤ} :
    member ∈ (store.windowReadings windowDays).members customer ↔
      Found (store.windowVisits windowDays) customer member := by
  rw [windowReadings, members_readings]
  exact mem_levelSearch_iff

theorem self_mem_members (customer : ℤ) :
    customer ∈ (store.windowReadings windowDays).members customer :=
  mem_members_iff.mpr (start_discovered _ _ _)

theorem coe_members {customer : ℤ}
    (h : (component (store.windowVisits windowDays) customer).encard ≤ communityMaxNodes) :
    ((store.windowReadings windowDays).members customer : Set ℤ) =
      component (store.windowVisits windowDays) customer := by
  rw [component, ← reaches_sharing] at h ⊢
  rw [windowReadings, members_readings]
  exact coe_levelSearch h

theorem card_members_le_iff (customer : ℤ) :
    ((store.windowReadings windowDays).members customer).card ≤ communityMaxNodes ↔
      (component (store.windowVisits windowDays) customer).encard ≤ communityMaxNodes := by
  rw [component, ← reaches_sharing, windowReadings, members_readings]
  exact card_levelSearch_le_iff

theorem exists_latest_ok (hsame : store.SameKind) : ∃ latest, store.latest = .ok latest := by
  cases hlast : store.txns.argmax ObservedTransaction.instant with
  | none =>
    refine ⟨DateTime.minValue, ?_⟩
    rw [latest, List.argmax_eq_none.mp hlast]
    rfl
  | some last => exact ⟨last.timestamp, latest_ok hsame hlast⟩

/-- A window that starts on a date of the calendar is one the queries answer about. -/
theorem reads_of_windowStarts (hprojected : store.Projected) (hsame : store.SameKind)
    (h : store.WindowStarts windowDays) :
    Reads store windowDays (store.windowReadings windowDays) := by
  cases windowDays with
  | none => exact (scoped_none hprojected hsame).reads
  | some days =>
    obtain ⟨latest, hlatest, hcalendar⟩ := h days rfl
    rw [sub_eq_add_neg] at hcalendar
    have hcut : store.cutoff (some days) = .ok (some { latest with
        wall := latest.wall + -(days * DateTime.microsPerDay) }) := by
      rw [cutoff, hlatest, Py.ok_bind, DateTime.addMicros_ok hcalendar]
      rfl
    have hstart : store.startOf (some days) = some (latest.wall +
        -(days * DateTime.microsPerDay) - latest.utcOffset.getD 0) := by
      rw [startOf, hlatest]
      simp only [Except.toOption, Option.bind_eq_bind, Option.bind_some, DateTime.instant]
      refine congrArg some ?_
      omega
    rw [windowReadings, hstart]
    exact (scoped_of_cutoff hprojected hsame hcut).reads

/-- Counting back any other window raises. -/
theorem cutoff_of_not_windowStarts (hsame : store.SameKind)
    (h : ¬ store.WindowStarts windowDays) :
    store.cutoff windowDays = .error (.overflowError "date value out of range") := by
  cases windowDays with
  | none =>
    refine absurd ?_ h
    intro days hdays
    cases hdays
  | some days =>
    obtain ⟨latest, hlatest⟩ := exists_latest_ok hsame
    have hcalendar : ¬ DateTime.InCalendar (latest.wall + -(days * DateTime.microsPerDay)) := by
      intro hcalendar
      apply h
      intro days' hdays
      cases hdays
      exact ⟨latest, hlatest, hcalendar⟩
    rw [cutoff, hlatest, Py.ok_bind, DateTime.addMicros_error hcalendar]
    rfl

end GraphStore

/-- After any comparable observations, either the window is one the queries answer about or
counting it back raises. -/
theorem reads_or_overflows {txs : List ObservedTransaction} (hcomparable : AllComparable txs)
    (windowDays : Option ℤ) :
    let store := GraphStore.observing txs
    (store.WindowStarts windowDays → Reads store windowDays (store.windowReadings windowDays)) ∧
      (¬ store.WindowStarts windowDays →
        store.cutoff windowDays = .error (.overflowError "date value out of range")) := by
  have hsame := GraphStore.sameKind_observing hcomparable
  constructor
  · exact GraphStore.reads_of_windowStarts (GraphStore.projected_observing txs) hsame
  · exact GraphStore.cutoff_of_not_windowStarts hsame

/-- A search over these visits returns the whole component of every customer whose component
is within the cap, so such communities are the same or do not meet. -/
structure SearchExact (visits : List ObservedTransaction) (found : ℤ → Finset ℤ) : Prop where
  component : ∀ customer, (component visits customer).encard ≤ communityMaxNodes →
    (found customer : Set ℤ) = component visits customer
  equal_or_disjoint : ∀ a b, (GraphEngine.component visits a).encard ≤ communityMaxNodes →
    (GraphEngine.component visits b).encard ≤ communityMaxNodes →
      found a = found b ∨ Disjoint (found a) (found b)
  symmetric : ∀ a b, (GraphEngine.component visits a).encard ≤ communityMaxNodes →
    (GraphEngine.component visits b).encard ≤ communityMaxNodes → (b ∈ found a ↔ a ∈ found b)

/-- Whatever returns the components within the cap has the other two properties. -/
theorem searchExact_of_component {visits : List ObservedTransaction} {found : ℤ → Finset ℤ}
    (h : ∀ customer, (component visits customer).encard ≤ communityMaxNodes →
      (found customer : Set ℤ) = component visits customer) : SearchExact visits found where
  component := h
  equal_or_disjoint a b ha hb := by
    by_cases hmeet : ∃ member, member ∈ found a ∧ member ∈ found b
    · left
      obtain ⟨member, hmember, hmember'⟩ := hmeet
      rw [← Finset.mem_coe, h a ha] at hmember
      rw [← Finset.mem_coe, h b hb] at hmember'
      rw [← Finset.coe_inj, h a ha, h b hb, component_eq hmember, component_eq hmember']
    · right
      rw [Finset.disjoint_left]
      exact fun member hmember hmember' => hmeet ⟨member, hmember, hmember'⟩
  symmetric a b ha hb := by
    rw [← Finset.mem_coe, ← Finset.mem_coe, h a ha, h b hb]
    exact ⟨linked_symm, linked_symm⟩

/-- The search of a customer returns with no more than the cap, the customer among them. -/
def SearchCapped (order : SetOrder) (store : GraphStore) (customer : ℤ)
    (windowDays : Option ℤ) : Prop :=
  ∃ members, order.communityMembers store customer windowDays = .ok members ∧
    members.card ≤ communityMaxNodes ∧ customer ∈ members

/-- The cap is checked when a level is complete, so it holds where the whole component is
within it. -/
theorem card_le_and_mem_iff {store : GraphStore} {windowDays : Option ℤ} {customer : ℤ} :
    (((store.windowReadings windowDays).members customer).card ≤ communityMaxNodes ∧
        customer ∈ (store.windowReadings windowDays).members customer) ↔
      (component (store.windowVisits windowDays) customer).encard ≤ communityMaxNodes := by
  rw [and_iff_left (GraphStore.self_mem_members customer), GraphStore.card_members_le_iff]

/-- A visit of the market, at noon of a day in 2021. -/
def marketVisit (customer : ℕ) : ObservedTransaction where
  transactionId := "tx-" ++ toString customer
  ccNum := customer
  merchant := "market"
  amount := 10
  timestamp := .atHour true 738000 12

/-- One visit of the market by each of so many customers. -/
def crowdedMarket (customers : ℕ) : List ObservedTransaction :=
  (List.range customers).map marketVisit

theorem allComparable_crowdedMarket (customers : ℕ) : AllComparable (crowdedMarket customers) := by
  intro a ha b hb
  obtain ⟨i, -, rfl⟩ := List.mem_map.mp ha
  obtain ⟨j, -, rfl⟩ := List.mem_map.mp hb
  rfl

theorem idsDetermine_crowdedMarket (customers : ℕ) : IdsDetermine (crowdedMarket customers) := by
  intro a ha b hb hid
  obtain ⟨i, -, rfl⟩ := List.mem_map.mp ha
  obtain ⟨j, -, rfl⟩ := List.mem_map.mp hb
  rw [toString_nat_injective ((String.append_right_inj _).mp hid)]

theorem mem_txns_crowdedMarket {customers : ℕ} {tx : ObservedTransaction} :
    tx ∈ (GraphStore.observing (crowdedMarket customers)).txns ↔
      ∃ i < customers, marketVisit i = tx := by
  rw [GraphStore.mem_observing (idsDetermine_crowdedMarket customers), crowdedMarket,
    List.mem_map]
  simp only [List.mem_range]

/-- Without a window everything observed is visible. -/
theorem mem_windowVisits_none {txs : List ObservedTransaction} (hids : IdsDetermine txs)
    {visit : ObservedTransaction} :
    visit ∈ (GraphStore.observing txs).windowVisits none ↔ visit ∈ txs :=
  (GraphStore.mem_visits.trans (and_iff_left (inWindow_none _))).trans
    (GraphStore.mem_observing hids _)

theorem marketVisit_mem_visits {customers i : ℕ} (hi : i < customers) : marketVisit i ∈
    (GraphStore.observing (crowdedMarket customers)).windowVisits none :=
  (mem_windowVisits_none (idsDetermine_crowdedMarket customers)).mpr
    (List.mem_map_of_mem (List.mem_range.mpr hi))

theorem sharesMerchant_market {customers i j : ℕ} (hi : i < customers) (hj : j < customers) :
    SharesMerchant ((GraphStore.observing (crowdedMarket customers)).windowVisits none) i j :=
  ⟨marketVisit i, marketVisit_mem_visits hi, marketVisit j, marketVisit_mem_visits hj, rfl, rfl,
    rfl⟩

/-- Without a window every customer of the market is in the component of the first. -/
theorem le_encard_component_crowdedMarket {customers : ℕ} (h : 0 < customers) :
    let visits := (GraphStore.observing (crowdedMarket customers)).windowVisits none
    customers ≤ (component visits 0).encard := by
  intro visits
  have hsub : ((Finset.range customers).image Int.ofNat : Set ℤ) ⊆
      component ((GraphStore.observing (crowdedMarket customers)).windowVisits none) 0 := by
    intro member hmember
    obtain ⟨i, hi, rfl⟩ := Finset.mem_image.mp (Finset.mem_coe.mp hmember)
    rw [Finset.mem_range] at hi
    exact Relation.ReflTransGen.single (sharesMerchant_market h hi)
  have hcard := Set.encard_le_encard hsub
  rw [Set.encard_coe_eq_coe_finsetCard, Finset.card_image_of_injective _ Int.ofNat_injective,
    Finset.card_range] at hcard
  exact hcard

theorem windowStarts_none (store : GraphStore) : store.WindowStarts none := by
  intro days hdays
  cases hdays

theorem windowStarts_market :
    (GraphStore.observing (crowdedMarket 2)).WindowStarts (some 30) := by
  intro days hdays
  cases hdays
  exact ⟨.atHour true 738000 12, by decide, by decide⟩

/-- The search ends for every customer. Where the window starts on a date of the calendar it
is exact below its cap; counting back any other window raises. -/
theorem communityMembers_exact {txs : List ObservedTransaction} (hcomparable : AllComparable txs)
    (windowDays : Option ℤ) (order : SetOrder) :
    let store := GraphStore.observing txs
    (store.WindowStarts windowDays → ∃ found : ℤ → Finset ℤ,
      (∀ customer, order.communityMembers store customer windowDays = .ok (found customer)) ∧
        SearchExact (store.windowVisits windowDays) found) ∧
    (¬ store.WindowStarts windowDays → ∀ customer,
      order.communityMembers store customer windowDays =
        .error (.overflowError "date value out of range")) := by
  intro store
  obtain ⟨hreads, hoverflow⟩ := reads_or_overflows hcomparable windowDays
  constructor
  · intro hwindow
    refine ⟨(store.windowReadings windowDays).members, ?_, ?_⟩
    · exact (hreads hwindow).communityMembers order
    · exact searchExact_of_component fun _ h => GraphStore.coe_members h
  · intro hwindow
    exact communityMembers_error order (hoverflow hwindow)

theorem communityMembers_exact_market :
    let store := GraphStore.observing (crowdedMarket 2)
    ∃ found : ℤ → Finset ℤ,
      (∀ customer,
        SetOrder.ascending.communityMembers store customer (some 30) = .ok (found customer)) ∧
        SearchExact (store.windowVisits (some 30)) found :=
  (communityMembers_exact (allComparable_crowdedMarket 2) (some 30) SetOrder.ascending).1
    windowStarts_market

/-- A window of a million days goes back before year 1: the component is one customer, and
the search raises. -/
theorem communityMembers_overflows :
    let store := GraphStore.observing (crowdedMarket 1)
    (component (store.windowVisits (some 1000000)) 0).encard ≤ communityMaxNodes ∧
      SetOrder.ascending.communityMembers store 0 (some 1000000) =
        .error (.overflowError "date value out of range") := by
  intro store
  constructor
  · have hsub : component (store.windowVisits (some 1000000)) 0 ⊆ {0} := by
      intro member hmember
      cases hmember with
      | refl => rfl
      | tail _ hlast =>
        obtain ⟨-, -, visit, hvisit, -, rfl, -⟩ := hlast
        obtain ⟨i, hi, rfl⟩ := mem_txns_crowdedMarket.mp (GraphStore.mem_visits.mp hvisit).1
        rw [Nat.lt_one_iff.mp hi]
        rfl
    refine (Set.encard_le_encard hsub).trans ?_
    rw [Set.encard_singleton, communityMaxNodes]
    exact Nat.one_le_cast.mpr (by omega)
  · exact communityMembers_error _ (by decide) 0

/-- The search stays within the cap where the window starts on a date of the calendar and the
component is within it. -/
theorem searchCapped_iff {txs : List ObservedTransaction} (hcomparable : AllComparable txs)
    (windowDays : Option ℤ) (order : SetOrder) (customer : ℤ) :
    let store := GraphStore.observing txs
    SearchCapped order store customer windowDays ↔
      store.WindowStarts windowDays ∧
        (component (store.windowVisits windowDays) customer).encard ≤ communityMaxNodes := by
  intro store
  obtain ⟨hreads, hoverflow⟩ := reads_or_overflows hcomparable windowDays
  rw [SearchCapped, Py.returns_iff
    (fun hwindow => (hreads hwindow).communityMembers order customer)
    (fun hwindow => communityMembers_error order (hoverflow hwindow) customer),
    card_le_and_mem_iff]

theorem searchCapped_iff_market :
    let store := GraphStore.observing (crowdedMarket 2)
    SearchCapped SetOrder.ascending store 0 (some 30) ↔
      store.WindowStarts (some 30) ∧
        (component (store.windowVisits (some 30)) 0).encard ≤ communityMaxNodes :=
  searchCapped_iff (allComparable_crowdedMarket 2) (some 30) SetOrder.ascending 0

/-- One customer more than the cap at one market, and the first level holds them all. -/
theorem not_searchCapped_market :
    ¬ SearchCapped SetOrder.ascending (GraphStore.observing (crowdedMarket 501)) 0 none := by
  have hreads := (reads_or_overflows (allComparable_crowdedMarket 501) none).1 (windowStarts_none _)
  intro hcapped
  obtain ⟨members, hreturns, hcard, -⟩ := hcapped
  rw [hreads.communityMembers] at hreturns
  rw [← Except.ok.inj hreturns] at hcard
  have hmany := (le_encard_component_crowdedMarket (by omega : 0 < 501)).trans
    ((GraphStore.card_members_le_iff 0).mp hcard)
  rw [Nat.cast_le, communityMaxNodes] at hmany
  omega

end VeriPay.GraphEngine
