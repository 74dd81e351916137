import VeriPay.Lib.Paired
import VeriPay.GraphEngine.Community

/-!
The network score and the flags. Whatever the features, the score is between zero and one,
and it is zero for an isolated customer only. A flag more changes the exposure to flagged
customers and no other feature, so it never lowers a score.
-/

namespace VeriPay.GraphEngine

open Lib

/-- `network_context`, whatever order the sets of its queries are visited in. -/
def SetOrder.networkContext (order : SetOrder) (store : GraphStore) (ccNum : ℤ)
    (windowDays : Option ℤ := some 30) : Py JsonObj := do
  let score ← order.networkRiskScore store ccNum windowDays
  let findings ← order.findings store ccNum windowDays
  let features ← order.features store ccNum windowDays
  let ego ← store.egoGraph ccNum windowDays
  return [("network_risk_score", .float score),
    ("available", .bool (features.sharedCounterpartyCount ≠ 0)),
    ("findings", .arr (findings.map Json.str)),
    ("features", .obj features.fields),
    ("ego", .obj ego)]

theorem SetOrder.networkContext_ascending (store : GraphStore) (ccNum : ℤ)
    (windowDays : Option ℤ) :
    ascending.networkContext store ccNum windowDays = store.networkContext ccNum windowDays := by
  unfold networkContext GraphStore.networkContext networkRiskScore findings
  simp only [features_ascending]
  rfl

namespace NodeFeatures

theorem riskScore_nonneg (f : NodeFeatures) : 0 ≤ f.riskScore := by
  unfold riskScore
  split_ifs
  · exact le_rfl
  · exact roundTo_nonneg 4 (le_min zero_le_one (le_max_left _ _))

theorem riskScore_le_one (f : NodeFeatures) : f.riskScore ≤ 1 := by
  unfold riskScore
  split_ifs
  · exact zero_le_one
  · exact roundTo_le_one 4 (min_le_left _ _)

/-- One shared counterparty alone is worth a twentieth. -/
theorem riskScore_pos {f : NodeFeatures} (hexposure : 0 ≤ f.flaggedExposure)
    (hshared : f.sharedCounterpartyCount ≠ 0) : 0 < f.riskScore := by
  have hone : (1 : ℚ) ≤ f.sharedCounterpartyCount :=
    Nat.one_le_cast.mpr (Nat.one_le_iff_ne_zero.mpr hshared)
  have hpeers : (1 : ℚ) / 5 ≤ min 1 (f.sharedCounterpartyCount / 5 : ℚ) :=
    le_min (by norm_num) (by linarith)
  have hflagged : (0 : ℚ) ≤ min 1 f.flaggedExposure := le_min zero_le_one hexposure
  have hclose : (0 : ℚ) ≤ min 1 (f.coOccurrenceCount / 3 : ℚ) :=
    le_min zero_le_one (by positivity)
  have hfan : (0 : ℚ) ≤ min 1 (f.merchantFanIn / 10 : ℚ) := le_min zero_le_one (by positivity)
  have htwentieth : roundTo 4 (1 / 20) = 1 / 20 := by
    have hscaled : (1 / 20 : ℚ) * 10 ^ 4 = (500 : ℤ) := by norm_num
    rw [roundTo, hscaled, roundEven_intCast]
    norm_num
  have hfloor : (1 : ℚ) / 20 ≤ f.riskScore := by
    rw [riskScore, if_neg hshared, ← htwentieth]
    apply roundTo_mono
    refine le_min (by norm_num) (le_max_of_le_right ?_)
    unfold weightFlaggedExposure weightSharedCounterparty weightCoOccurrence weightMerchantFanIn
    linarith
  linarith

theorem riskScore_eq_zero_iff {f : NodeFeatures} (hexposure : 0 ≤ f.flaggedExposure) :
    f.riskScore = 0 ↔ f.sharedCounterpartyCount = 0 := by
  constructor
  · intro hzero
    by_contra hshared
    exact (riskScore_pos hexposure hshared).ne' hzero
  · intro hshared
    exact if_pos hshared

/-- The same features, but for more exposure to flagged customers. -/
structure NoLessExposed (f more : NodeFeatures) : Prop where
  merchantFanIn : f.merchantFanIn = more.merchantFanIn
  sharedCounterpartyCount : f.sharedCounterpartyCount = more.sharedCounterpartyCount
  coOccurrenceCount : f.coOccurrenceCount = more.coOccurrenceCount
  flaggedNeighborCount : f.flaggedNeighborCount ≤ more.flaggedNeighborCount
  flaggedExposure : f.flaggedExposure ≤ more.flaggedExposure

theorem NoLessExposed.riskScore_le {f more : NodeFeatures} (h : NoLessExposed f more) :
    f.riskScore ≤ more.riskScore := by
  unfold riskScore
  rw [h.merchantFanIn, h.sharedCounterpartyCount, h.coOccurrenceCount]
  split_ifs
  · exact le_rfl
  · have hexposure : weightFlaggedExposure * min 1 f.flaggedExposure ≤
        weightFlaggedExposure * min 1 more.flaggedExposure :=
      mul_le_mul_of_nonneg_left (min_le_min_left 1 h.flaggedExposure)
        (by unfold weightFlaggedExposure; norm_num)
    apply roundTo_mono
    apply min_le_min_left
    apply max_le_max_left
    linarith

end NodeFeatures

namespace Readings

/-- The same readings, but for customers flagged in addition. -/
structure FlagsMore (r more : Readings) : Prop where
  merchants : r.merchants = more.merchants
  customers : r.customers = more.customers
  close : r.close = more.close
  flagged : ∀ c, r.flagged c = true → more.flagged c = true

theorem exposure_nonneg (r : Readings) (c : ℤ) : 0 ≤ (r.features c).flaggedExposure := by
  rw [features]
  split_ifs
  · exact le_rfl
  · apply roundTo_nonneg
    split_ifs
    · positivity
    · exact le_rfl

variable {r more : Readings}

theorem FlagsMore.noLessExposed (h : FlagsMore r more) (c : ℤ) :
    (r.features c).NoLessExposed (more.features c) := by
  have hpeers : r.peers c = more.peers c := by rw [peers, peers, h.merchants, h.customers]
  have hfanIn : r.fanIn c = more.fanIn c := by rw [fanIn, fanIn, h.merchants, h.customers]
  have hclose : r.coOccurrence c = more.coOccurrence c := by
    rw [coOccurrence, coOccurrence, h.merchants, h.close]
  have hflagged : ((more.peers c).filter (fun p => r.flagged p)).card ≤
      ((more.peers c).filter (fun p => more.flagged p)).card :=
    Finset.card_le_card (Finset.monotone_filter_right _ fun p _ => h.flagged p)
  unfold features
  rw [h.merchants, hpeers, hfanIn, hclose]
  split_ifs with hempty
  · exact ⟨rfl, rfl, rfl, le_rfl, le_rfl⟩
  · refine ⟨rfl, rfl, rfl, hflagged, ?_⟩
    dsimp only
    apply roundTo_mono
    split_ifs
    · exact div_le_div_of_nonneg_right (Nat.cast_le.mpr hflagged) (Nat.cast_nonneg _)
    · exact le_rfl

end Readings

/-- The same transaction, or the same with a flag. -/
def MoreFlagged (tx more : ObservedTransaction) : Prop :=
  ∃ extra : Bool, more = { tx with flagged := tx.flagged || extra }

namespace MoreFlagged

variable {tx more : ObservedTransaction}

theorem transactionId (h : MoreFlagged tx more) : tx.transactionId = more.transactionId := by
  obtain ⟨extra, rfl⟩ := h
  rfl

theorem ccNum (h : MoreFlagged tx more) : tx.ccNum = more.ccNum := by
  obtain ⟨extra, rfl⟩ := h
  rfl

theorem merchant (h : MoreFlagged tx more) : tx.merchant = more.merchant := by
  obtain ⟨extra, rfl⟩ := h
  rfl

theorem timestamp (h : MoreFlagged tx more) : tx.timestamp = more.timestamp := by
  obtain ⟨extra, rfl⟩ := h
  rfl

theorem flagged (h : MoreFlagged tx more) (hflagged : tx.flagged = true) :
    more.flagged = true := by
  obtain ⟨extra, rfl⟩ := h
  exact Bool.or_eq_true_iff.mpr (Or.inl hflagged)

end MoreFlagged

namespace GraphStore

/-- The same transactions recorded, but for their flags. -/
def SameButFlags (store more : GraphStore) : Prop :=
  List.Forall₂ MoreFlagged store.txns more.txns

variable {store more : GraphStore} {windowDays start : Option ℤ}

theorem SameButFlags.knows (h : store.SameButFlags more) (id : String) :
    store.knows id = more.knows id := by
  have hids := map_eq_of_forall₂ h fun _ _ => MoreFlagged.transactionId
  have hany := congrArg (fun ids => ids.any (fun known => decide (known = id))) hids
  rwa [List.any_map, List.any_map] at hany

theorem SameButFlags.observe (h : store.SameButFlags more) {tx tx' : ObservedTransaction}
    (htx : MoreFlagged tx tx') : (store.observe tx).SameButFlags (more.observe tx') := by
  have hknows := h.knows tx.transactionId
  rw [htx.transactionId] at hknows
  cases hknown : more.knows tx'.transactionId with
  | true =>
    rw [observe_known hknown, observe_known (htx.transactionId ▸ hknows.trans hknown)]
    exact h
  | false =>
    rw [SameButFlags, observe_new hknown,
      observe_new (htx.transactionId ▸ hknows.trans hknown)]
    exact List.rel_append h (.cons htx .nil)

theorem sameButFlags_observing {txs txs' : List ObservedTransaction}
    (h : List.Forall₂ MoreFlagged txs txs') :
    (observing txs).SameButFlags (observing txs') := by
  have hstep : ∀ ⦃store more : GraphStore⦄, store.SameButFlags more →
      ∀ ⦃tx tx' : ObservedTransaction⦄, MoreFlagged tx tx' →
        (store.observe tx).SameButFlags (more.observe tx') :=
    fun _ _ hstore _ _ htx => hstore.observe htx
  have hstart : SameButFlags {} {} := List.Forall₂.nil
  exact List.rel_foldl hstep hstart h

theorem SameButFlags.latest (h : store.SameButFlags more) : store.latest = more.latest := by
  unfold SameButFlags at h
  unfold GraphStore.latest
  cases hstore : store.txns with
  | nil =>
    rw [hstore, List.forall₂_nil_left_iff] at h
    rw [h]
  | cons first rest =>
    rw [hstore, List.forall₂_cons_left_iff] at h
    obtain ⟨first', rest', hfirst, hrest, hmore⟩ := h
    rw [hmore]
    dsimp only
    rw [hfirst.timestamp]
    apply foldlM_eq_of_forall₂ hrest
    intro state tx tx' htx
    rw [htx.timestamp]

theorem SameButFlags.startOf (h : store.SameButFlags more) (windowDays : Option ℤ) :
    store.startOf windowDays = more.startOf windowDays := by
  rw [GraphStore.startOf, GraphStore.startOf, h.latest]

theorem SameButFlags.windowStarts (h : store.SameButFlags more)
    (hwindow : store.WindowStarts windowDays) : more.WindowStarts windowDays := by
  intro days hdays
  rw [← h.latest]
  exact hwindow days hdays

/-- A property that does not read the flag picks corresponding transactions of the window. -/
theorem SameButFlags.filter_visits (h : store.SameButFlags more) (start : Option ℤ)
    {p : ObservedTransaction → Prop} [DecidablePred p]
    (hp : ∀ tx tx', MoreFlagged tx tx' → (p tx ↔ p tx')) :
    List.Forall₂ MoreFlagged ((store.visits start).filter (fun tx => p tx))
      ((more.visits start).filter (fun tx => p tx)) := by
  have hvisits : List.Forall₂ MoreFlagged (store.visits start) (more.visits start) := by
    apply List.rel_filter _ h
    intro tx tx' htx
    dsimp only
    rw [htx.timestamp]
  apply List.rel_filter _ hvisits
  intro tx tx' htx
  dsimp only
  rw [decide_eq_true_eq, decide_eq_true_eq]
  exact hp tx tx' htx

theorem SameButFlags.visits_by (h : store.SameButFlags more) (start : Option ℤ) (c : ℤ) :
    List.Forall₂ MoreFlagged ((store.visits start).filter (fun tx => tx.ccNum = c))
      ((more.visits start).filter (fun tx => tx.ccNum = c)) := by
  apply h.filter_visits start
  intro tx tx' htx
  rw [htx.ccNum]

theorem SameButFlags.visits_at (h : store.SameButFlags more) (start : Option ℤ) (m : String) :
    List.Forall₂ MoreFlagged ((store.visits start).filter (fun tx => tx.merchant = m))
      ((more.visits start).filter (fun tx => tx.merchant = m)) := by
  apply h.filter_visits start
  intro tx tx' htx
  rw [htx.merchant]

theorem SameButFlags.windowEvents (h : store.SameButFlags more) (start : Option ℤ) (m : String) :
    store.windowEvents start m = more.windowEvents start m := by
  apply map_eq_of_forall₂ (h.visits_at start m)
  intro tx tx' htx
  unfold ObservedTransaction.event
  rw [htx.timestamp, htx.ccNum, htx.transactionId]

theorem SameButFlags.isFlagged (h : store.SameButFlags more) (hstore : store.Projected)
    (hmore : more.Projected) {c : ℤ} (hflagged : store.isFlagged c = true) :
    more.isFlagged c = true := by
  have hcount : store.flaggedCount c ≤ more.flaggedCount c := by
    rw [hstore.flaggedCount, hmore.flaggedCount]
    apply length_filter_le_of_forall₂ h
    intro tx tx' htx hown
    rw [decide_eq_true_eq] at hown ⊢
    exact ⟨htx.ccNum ▸ hown.1, htx.flagged hown.2⟩
  have hthreshold : flaggedTxnThreshold ≤ store.flaggedCount c := of_decide_eq_true hflagged
  apply decide_eq_true
  omega

/-- The window of both shows the same, but for the customers flagged. -/
theorem SameButFlags.flagsMore (h : store.SameButFlags more) (hstore : store.Projected)
    (hmore : more.Projected) (start : Option ℤ) :
    (store.readings start).FlagsMore (more.readings start) where
  merchants := by
    funext c
    exact congrArg List.toFinset
      (map_eq_of_forall₂ (h.visits_by start c) fun _ _ => MoreFlagged.merchant)
  customers := by
    funext m
    exact congrArg List.toFinset
      (map_eq_of_forall₂ (h.visits_at start m) fun _ _ => MoreFlagged.ccNum)
  close := by
    funext c m
    unfold readings
    dsimp only
    rw [h.windowEvents]
  flagged _ := h.isFlagged hstore hmore

end GraphStore

/-- What the bundle reports as the score of a customer: a number between zero and one, zero
where the network is marked unavailable and nowhere else. -/
structure ScoreReported (context : JsonObj) (score : ℚ) : Prop where
  reported : context.get? "network_risk_score" = some (.float score)
  nonneg : 0 ≤ score
  le_one : score ≤ 1
  zero_iff : score = 0 ↔ context.get? "available" = some (.bool false)

/-- With more flags neither the score nor the number of flagged neighbors is lower. -/
structure ScoreRises (order : SetOrder) (store more : GraphStore) (customer : ℤ)
    (windowDays : Option ℤ) : Prop where
  score : ∃ score score', order.networkRiskScore store customer windowDays = .ok score ∧
    order.networkRiskScore more customer windowDays = .ok score' ∧ score ≤ score'
  neighbors : ∃ f f', order.features store customer windowDays = .ok f ∧
    order.features more customer windowDays = .ok f' ∧
      f.flaggedNeighborCount ≤ f'.flaggedNeighborCount

theorem Readings.FlagsMore.scoreRises {store more : GraphStore} {windowDays : Option ℤ}
    {r r' : Readings} (h : r.FlagsMore r') (hreads : Reads store windowDays r)
    (hreads' : Reads more windowDays r') (order : SetOrder) (customer : ℤ) :
    ScoreRises order store more customer windowDays where
  score := ⟨_, _, hreads.networkRiskScore order customer, hreads'.networkRiskScore order customer,
    (h.noLessExposed customer).riskScore_le⟩
  neighbors := ⟨_, _, hreads.features order customer, hreads'.features order customer,
    (h.noLessExposed customer).flaggedNeighborCount⟩

/-- The bundle of these readings. -/
def Readings.networkContext (r : Readings) (ccNum : ℤ) : JsonObj :=
  let features := r.features ccNum
  [("network_risk_score", .float features.riskScore),
    ("available", .bool (features.sharedCounterpartyCount ≠ 0)),
    ("findings", .arr (features.indicators.map Json.str)),
    ("features", .obj features.fields),
    ("ego", .obj (r.egoGraph ccNum 24))]

theorem Readings.scoreReported (r : Readings) (customer : ℤ) :
    ScoreReported (r.networkContext customer) (r.features customer).riskScore where
  reported := by simp [networkContext]
  nonneg := NodeFeatures.riskScore_nonneg _
  le_one := NodeFeatures.riskScore_le_one _
  zero_iff := by
    rw [NodeFeatures.riskScore_eq_zero_iff (r.exposure_nonneg customer)]
    simp [networkContext]

theorem Reads.networkContext {store : GraphStore} {windowDays : Option ℤ} {r : Readings}
    (h : Reads store windowDays r) (order : SetOrder) (customer : ℤ) :
    order.networkContext store customer windowDays = .ok (r.networkContext customer) := by
  rw [SetOrder.networkContext, h.networkRiskScore, Py.ok_bind, h.findings, Py.ok_bind,
    h.features, Py.ok_bind, h.egoGraph]
  rfl

theorem networkRiskScore_error {store : GraphStore} {windowDays : Option ℤ} {e : PyErr}
    (h : store.cutoff windowDays = .error e) (order : SetOrder) (customer : ℤ) :
    order.networkRiskScore store customer windowDays = .error e := by
  rw [SetOrder.networkRiskScore, features_error order h]
  rfl

theorem allComparable_of_forall₂ {txs txs' : List ObservedTransaction}
    (h : List.Forall₂ MoreFlagged txs txs') (hcomparable : AllComparable txs) :
    AllComparable txs' := by
  have htimes := map_eq_of_forall₂ h fun _ _ => MoreFlagged.timestamp
  have htime : ∀ b ∈ txs', ∃ a ∈ txs, a.timestamp = b.timestamp := by
    intro b hb
    apply List.mem_map.mp
    rw [htimes]
    exact List.mem_map_of_mem hb
  intro a ha b hb
  obtain ⟨a', ha', heqa⟩ := htime a ha
  obtain ⟨b', hb', heqb⟩ := htime b hb
  rw [← heqa, ← heqb]
  exact hcomparable a' ha' b' hb'

/-- After any comparable observations, and where the window starts on a date of the calendar,
the score of every customer is in range, marks the isolated ones, and is no lower after the
same observations with more flags. Counting back any other window raises. -/
theorem networkRiskScore_lawful {txs : List ObservedTransaction}
    (hcomparable : AllComparable txs) (windowDays : Option ℤ) (order : SetOrder)
    (customer : ℤ) :
    let store := GraphStore.observing txs
    (store.WindowStarts windowDays →
      (∃ context score, order.networkContext store customer windowDays = .ok context ∧
        order.networkRiskScore store customer windowDays = .ok score ∧
          ScoreReported context score) ∧
      ∀ txs', List.Forall₂ MoreFlagged txs txs' →
        ScoreRises order store (GraphStore.observing txs') customer windowDays) ∧
    (¬ store.WindowStarts windowDays →
      order.networkRiskScore store customer windowDays =
        .error (.overflowError "date value out of range")) := by
  intro store
  obtain ⟨hreads, hoverflow⟩ := reads_or_overflows hcomparable windowDays
  constructor
  · intro hwindow
    refine ⟨⟨_, _, (hreads hwindow).networkContext order customer,
      (hreads hwindow).networkRiskScore order customer, Readings.scoreReported _ customer⟩, ?_⟩
    intro txs' hmore
    have hsame := GraphStore.sameButFlags_observing hmore
    have hreads' := (reads_or_overflows (allComparable_of_forall₂ hmore hcomparable)
      windowDays).1 (hsame.windowStarts hwindow)
    have hflags := hsame.flagsMore (GraphStore.projected_observing txs)
      (GraphStore.projected_observing txs') (store.startOf windowDays)
    rw [GraphStore.windowReadings, ← hsame.startOf] at hreads'
    exact hflags.scoreRises (hreads hwindow) hreads' order customer
  · intro hwindow
    exact networkRiskScore_error (hoverflow hwindow) order customer

/-- With a fraud confirmed the score of the other customer of the market is no lower. -/
theorem networkRiskScore_lawful_market :
    let store := GraphStore.observing (crowdedMarket 2)
    (∃ context score, SetOrder.ascending.networkContext store 0 (some 30) = .ok context ∧
      SetOrder.ascending.networkRiskScore store 0 (some 30) = .ok score ∧
        ScoreReported context score) ∧
      ScoreRises SetOrder.ascending store
        (GraphStore.observing [marketVisit 0, { marketVisit 1 with flagged := true }]) 0
        (some 30) := by
  have hlawful := (networkRiskScore_lawful (allComparable_crowdedMarket 2) (some 30)
    SetOrder.ascending 0).1 windowStarts_market
  refine ⟨hlawful.1, hlawful.2 _ ?_⟩
  exact .cons ⟨false, rfl⟩ (.cons ⟨true, rfl⟩ .nil)

/-- A window of a million days goes back before year 1, and there is no score. -/
theorem networkRiskScore_overflows :
    SetOrder.ascending.networkRiskScore (GraphStore.observing (crowdedMarket 1)) 0
      (some 1000000) = .error (.overflowError "date value out of range") :=
  networkRiskScore_error (by decide) SetOrder.ascending 0

end VeriPay.GraphEngine
