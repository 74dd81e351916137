import VeriPay.AnalystApi.SuddenDrift
import VeriPay.DeviceIntegrity.Gpv

/-!
The two judges of a jump. The drift check measures with a formula of its own, which gives the
distance of the location check; so a jump that it reports is one that the location check refuses,
and a customer who keeps to the speed of that check never gets one reported.
-/

namespace VeriPay.AnalystApi

open Lib Common DeviceIntegrity

section Model

variable {K : Type} [Field K] (math : FloatMath K)

/-- Great-circle distance in kilometres between two points. -/
def haversineKm (a b : GeoPoint) : Py K := do
  let lat1 := math.radians a.lat
  let lon1 := math.radians a.lon
  let lat2 := math.radians b.lat
  let lon2 := math.radians b.lon
  let dlat := lat2 - lat1
  let dlon := lon2 - lon1
  let h := math.sinSqHalf dlat + math.cos lat1 * math.cos lat2 * math.sinSqHalf dlon
  let root ← math.sqrt h
  let angle ← math.asin root
  return (2 * 6371 : ℚ) * angle

end Model

def GeoPoint.place (point : GeoPoint) : Place where
  latitude := ⟨point.lat, point.lat_bounds⟩
  longitude := ⟨point.lon, point.lon_bounds⟩

/-- The time of a transaction in minutes. -/
def StoredTransaction.minute (tx : StoredTransaction) : ℚ :=
  tx.timestamp.instant / DateTime.microsPerMinute

theorem StoredTransaction.minute_le {a b : StoredTransaction}
    (h : a.timestamp.instant ≤ b.timestamp.instant) : a.minute ≤ b.minute := by
  have hpos : (0 : ℚ) ≤ DateTime.microsPerMinute := by decide
  exact div_le_div_of_nonneg_right (Int.cast_le.mpr h) hpos

theorem SuddenPair.minutes {platform : Platform} {pair : StoredTransaction × StoredTransaction}
    (h : SuddenPair platform pair) : pair.2.minute - pair.1.minute ≤ 15 := by
  have hpos : (0 : ℚ) < DateTime.microsPerMinute := by decide
  have hgap : ((pair.2.timestamp.instant - pair.1.timestamp.instant : ℤ) : ℚ) ≤
      (15 * DateTime.microsPerMinute : ℤ) := Int.cast_le.mpr h.1
  push_cast at hgap
  rw [StoredTransaction.minute, StoredTransaction.minute, ← sub_div, div_le_iff₀ hpos]
  exact hgap

variable (round : ℕ → ℝ → ℝ)

/-- Without rounding errors the formula does not need the location check's guard against a sine
above one, and gives the same distance. -/
theorem haversineKm_place (a b : GeoPoint) :
    haversineKm (FloatMath.exact round) a b = .ok (a.place.distanceKm round b.place) := by
  have hvalue := FloatMath.exact_haversine round (a.place.point round) (b.place.point round)
  rw [Place.distanceKm, greatCircleKm, SpherePoint.centralAngle]
  simp only [Place.point, SpherePoint.ofDegrees, GeoPoint.place] at hvalue ⊢
  rw [haversineKm, hvalue, FloatMath.exact_sqrt round (SpherePoint.haversine_nonneg _ _),
    Py.ok_bind, FloatMath.exact_asin_sqrt, Py.ok_bind]
  exact congrArg Except.ok (by push_cast; ring)

/-- The distances of the platform are those of the formula, up to a kilometre. -/
def Measures (platform : Platform) : Prop :=
  ∀ a b, ∃ distance, haversineKm (FloatMath.exact round) a b = .ok distance ∧
    |(platform.haversineKm a b : ℝ) - distance| ≤ 1

/-- The location check refuses the leg. -/
def Refuses (request : GpvRequest) : Prop :=
  ∃ result, evaluateGpv (FloatMath.exact round) request = .ok result ∧
    result.outcome = .mismatched

variable {round} {platform : Platform}

theorem Measures.far (hmeasures : Measures round platform) {a b : GeoPoint}
    (hfar : suddenDistanceKm ≤ platform.haversineKm a b) :
    249 ≤ a.place.distanceKm round b.place := by
  obtain ⟨distance, hdistance, hnear⟩ := hmeasures a b
  rw [haversineKm_place] at hdistance
  cases hdistance
  have hcast : (250 : ℝ) ≤ platform.haversineKm a b := by exact_mod_cast hfar
  have hbound := (abs_le.mp hnear).2
  linarith

namespace ProfileStore

variable {store : ProfileStore} {customer : ℕ}

/-- A reported jump is made by two transactions of the customer, in the order of time. -/
theorem exists_suddenPair {report : DriftReport}
    (hreport : store.detectDrift platform customer = .ok (some report))
    (hkind : report.kind = "sudden") :
    ∃ pair : StoredTransaction × StoredTransaction, pair.1 ∈ store.transactions customer ∧
      pair.2 ∈ store.transactions customer ∧ pair.1.minute ≤ pair.2.minute ∧
      SuddenPair platform pair := by
  obtain ⟨history, hhistory, -⟩ := Py.bind_eq_ok.mp hreport
  cases hlast : history.getLast? with
  | none =>
    rw [detectDrift, hhistory, Py.ok_bind, hlast] at hreport
    cases hreport
  | some last =>
    obtain ⟨-, -, pair, hpair, hsudden⟩ :=
      (detectDrift_sudden_iff hhistory hlast).mp ⟨report, hreport, hkind⟩
    have hstored : ∀ tx ∈ window 30 last history, tx ∈ store.transactions customer :=
      fun tx htx => (DateTime.sortedBy_perm hhistory).mem_iff.mp (List.mem_of_mem_filter htx)
    have hsorted := (DateTime.sortedBy_pairwise hhistory).filter fun tx =>
      last.timestamp.instant - 30 * DateTime.microsPerDay ≤ tx.timestamp.instant
    have hordered := rel_of_mem_zip_tail hsorted pair hpair
    obtain ⟨hprev, hcurr⟩ := List.of_mem_zip hpair
    exact ⟨pair, hstored _ hprev, hstored _ (List.mem_of_mem_tail hcurr),
      StoredTransaction.minute_le hordered, hsudden⟩

end ProfileStore

/-- What a reported jump says about the customer's travels. -/
structure TravelJudged (round : ℕ → ℝ → ℝ) (platform : Platform) (store : ProfileStore)
    (customer : ℕ) : Prop where
  /-- Two of the transactions are a leg that the location check refuses, at its default speed and
  at every lower one. -/
  refused : ∀ report, store.detectDrift platform customer = .ok (some report) →
    report.kind = "sudden" →
    ∃ prev ∈ store.transactions customer, ∃ curr ∈ store.transactions customer,
      ∃ prevPoint ∈ prev.point, ∃ currPoint ∈ curr.point, ∃ elapsed : {q : ℚ // 0 ≤ q},
        elapsed.val = curr.minute - prev.minute ∧
        ∀ transactionId, ∀ speed : Speed, speed.val ≤ defaultSpeed.val →
          Refuses round (legRequest transactionId speed prevPoint.place ⟨elapsed, currPoint.place⟩)
  /-- Whoever is on a track that keeps to that speed is not reported. -/
  unharmed : ∀ track, KeepsTo defaultSpeed track →
    (∀ tx ∈ store.transactions customer, ∀ point ∈ tx.point,
      track tx.minute = point.place.point round) →
    ∀ report, store.detectDrift platform customer = .ok (some report) → report.kind ≠ "sudden"

/-- The console's drift check and the location check of a device agree on what cannot be
travelled. -/
theorem detectDrift_travelJudged (hmeasures : Measures round platform) (store : ProfileStore)
    (customer : ℕ) : TravelJudged round platform store customer where
  refused := by
    intro report hreport hkind
    obtain ⟨pair, hprev, hcurr, hordered, hsudden⟩ :=
      ProfileStore.exists_suddenPair hreport hkind
    have hminutes := hsudden.minutes
    obtain ⟨-, prevPoint, hprevPoint, currPoint, hcurrPoint, hfar⟩ := hsudden
    let elapsed : {q : ℚ // 0 ≤ q} := ⟨pair.2.minute - pair.1.minute, sub_nonneg.mpr hordered⟩
    refine ⟨pair.1, hprev, pair.2, hcurr, prevPoint, hprevPoint, currPoint, hcurrPoint,
      elapsed, rfl, ?_⟩
    intro transactionId speed hspeed
    obtain ⟨result, hresult, -, -, hmismatched⟩ := evaluateGpv_leg round transactionId speed
      prevPoint.place ⟨elapsed, currPoint.place⟩
    refine ⟨result, hresult, hmismatched.mpr (not_le.mpr ?_)⟩
    have hpermitted : speed.val * elapsed.val ≤ 900 * 15 :=
      mul_le_mul hspeed hminutes elapsed.property (by norm_num)
    have hpermittedKm : speed.val * elapsed.val / 60 + 1 / 4 < 249 := by linarith
    calc ((speed.val * elapsed.val / 60 + 1 / 4 : ℚ) : ℝ) < 249 := by exact_mod_cast hpermittedKm
      _ ≤ prevPoint.place.distanceKm round currPoint.place := hmeasures.far hfar
  unharmed := by
    intro track hkeeps hon report hreport hkind
    obtain ⟨pair, hprev, hcurr, hordered, hsudden⟩ :=
      ProfileStore.exists_suddenPair hreport hkind
    have hminutes : (pair.2.minute : ℝ) - pair.1.minute ≤ 15 := by exact_mod_cast hsudden.minutes
    obtain ⟨-, prevPoint, hprevPoint, currPoint, hcurrPoint, hfar⟩ := hsudden
    have htravelled := hkeeps _ _ (Rat.cast_le.mpr hordered)
    rw [hon _ hprev _ hprevPoint, hon _ hcurr _ hcurrPoint] at htravelled
    have hspeed : (defaultSpeed.val / 60 : ℚ) = 15 := by norm_num [defaultSpeed]
    rw [hspeed] at htravelled
    have hdistance : (249 : ℝ) ≤ _ := hmeasures.far hfar
    unfold Place.distanceKm at hdistance
    push_cast at htravelled
    linarith

section Metres

/-- A platform that measures down to the metre. -/
noncomputable def Platform.toTheMetre (round : ℕ → ℝ → ℝ) : Platform :=
  { Platform.atNoon with
    haversineKm := fun a b => ⌊a.place.distanceKm round b.place * 1000⌋ / 1000 }

theorem measures_toTheMetre (round : ℕ → ℝ → ℝ) : Measures round (.toTheMetre round) := by
  intro a b
  refine ⟨_, haversineKm_place round a b, ?_⟩
  have hfloor := Int.floor_le (a.place.distanceKm round b.place * 1000)
  have hlt := Int.lt_floor_add_one (a.place.distanceKm round b.place * 1000)
  rw [Platform.toTheMetre, abs_le]
  push_cast
  constructor <;> linarith

/-- Payments in the south and within ten minutes in the north are refused as a leg. -/
theorem jumpStore_travelJudged :
    TravelJudged (fun _ x => x) (.toTheMetre fun _ x => x) jumpStore 7 :=
  detectDrift_travelJudged (measures_toTheMetre _) jumpStore 7

end Metres

end VeriPay.AnalystApi
