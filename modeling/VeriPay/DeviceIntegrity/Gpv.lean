import Mathlib.Tactic.NormNum
import VeriPay.Common.Enums
import VeriPay.Lib.FloatMath

/-!
The check of a location against the previous one. Over an itinerary, legs that all pass bound how
far the traveller got; and whoever keeps to the speed passes every leg, whatever the stops are.
-/

namespace VeriPay.DeviceIntegrity

open Lib Common

section Model

abbrev Latitude := {q : ℚ // -90 ≤ q ∧ q ≤ 90}

abbrev Longitude := {q : ℚ // -180 ≤ q ∧ q ≤ 180}

abbrev Speed := {q : ℚ // 0 < q ∧ q ≤ 2000}

theorem defaultSpeed_bounds : (0 : ℚ) < 900 ∧ (900 : ℚ) ≤ 2000 := by norm_num

def defaultSpeed : Speed := ⟨900, defaultSpeed_bounds⟩

structure GpvRequest where
  transactionId : NonEmptyStr
  currentLatitude : Latitude
  currentLongitude : Longitude
  previousLatitude : Option Latitude := none
  previousLongitude : Option Longitude := none
  elapsedMinutes : {q : ℚ // 0 ≤ q} := ⟨0, le_rfl⟩
  maxSpeedKmh : Speed := defaultSpeed

variable {K : Type} [Field K] [LinearOrder K] (math : FloatMath K)

structure GpvResult (K : Type) where
  transactionId : String
  outcome : GpvOutcome
  available : Bool
  distanceKm : Option K := none
  permittedDistanceKm : Option K := none
  reasonCode : String

def haversineKm (latitudeA longitudeA latitudeB longitudeB : ℚ) : Py K := do
  let latA := math.radians latitudeA
  let latB := math.radians latitudeB
  let deltaLat := math.radians (latitudeB - latitudeA)
  let deltaLon := math.radians (longitudeB - longitudeA)
  let value := math.sinSqHalf deltaLat + math.cos latA * math.cos latB * math.sinSqHalf deltaLon
  let root ← math.sqrt (min 1 value)
  let angle ← math.asin root
  return (2 * 6371 : ℚ) * angle

/-- Compare consecutive locations, with a quarter of a kilometre to spare. -/
def evaluateGpv (request : GpvRequest) : Py (GpvResult K) :=
  match request.previousLatitude, request.previousLongitude with
  | some previousLatitude, some previousLongitude => do
    let distance ← haversineKm math previousLatitude.val previousLongitude.val
      request.currentLatitude.val request.currentLongitude.val
    let permitted : ℚ := request.maxSpeedKmh.val * request.elapsedMinutes.val / 60
    let matched := distance ≤ (permitted + 1 / 4 : ℚ)
    return {
      transactionId := request.transactionId.val
      outcome := if matched then .matched else .mismatched
      available := true
      distanceKm := some (math.round 3 distance)
      permittedDistanceKm := some (math.round 3 permitted)
      reasonCode := if matched then "GPV_MATCH" else "GPV_IMPOSSIBLE_TRAVEL" }
  | _, _ =>
    .ok {
      transactionId := request.transactionId.val
      outcome := .likelyMatch
      available := false
      reasonCode := "PREVIOUS_LOCATION_UNAVAILABLE" }

end Model

section Distance

variable (round : ℕ → ℝ → ℝ)

/-- The great-circle distance on the earth. -/
noncomputable def greatCircleKm (p q : SpherePoint) : ℝ := (6371 : ℚ) * p.centralAngle q

theorem greatCircleKm_triangle (p q r : SpherePoint) :
    greatCircleKm p r ≤ greatCircleKm p q + greatCircleKm q r := by
  have htriangle := p.centralAngle_triangle q r
  unfold greatCircleKm
  push_cast
  linarith

/-- Without rounding errors the formula gives the great-circle distance. -/
theorem haversineKm_exact (latitudeA longitudeA latitudeB longitudeB : ℚ) :
    haversineKm (FloatMath.exact round) latitudeA longitudeA latitudeB longitudeB =
      .ok (greatCircleKm (SpherePoint.ofDegrees round latitudeA longitudeA)
        (SpherePoint.ofDegrees round latitudeB longitudeB)) := by
  have hle := (SpherePoint.ofDegrees round latitudeA longitudeA).haversine_le_one
    (SpherePoint.ofDegrees round latitudeB longitudeB)
  have hnonneg := (SpherePoint.ofDegrees round latitudeA longitudeA).haversine_nonneg
    (SpherePoint.ofDegrees round latitudeB longitudeB)
  have hvalue := FloatMath.exact_haversine round
    (SpherePoint.ofDegrees round latitudeA longitudeA)
    (SpherePoint.ofDegrees round latitudeB longitudeB)
  simp only [SpherePoint.ofDegrees] at hle hnonneg hvalue ⊢
  simp only [haversineKm, FloatMath.exact_radians_sub]
  rw [hvalue, min_eq_right hle, FloatMath.exact_sqrt round hnonneg, Py.ok_bind,
    FloatMath.exact_asin_sqrt, Py.ok_bind, greatCircleKm, SpherePoint.centralAngle]
  exact congrArg Except.ok (by push_cast; ring)

end Distance

section Itineraries

structure Place where
  latitude : Latitude
  longitude : Longitude

noncomputable def Place.point (round : ℕ → ℝ → ℝ) (place : Place) : SpherePoint :=
  SpherePoint.ofDegrees round place.latitude.val place.longitude.val

noncomputable def Place.distanceKm (round : ℕ → ℝ → ℝ) (a b : Place) : ℝ :=
  greatCircleKm (a.point round) (b.point round)

/-- The next stop, and the minutes it took to get there. -/
structure Leg where
  elapsed : {q : ℚ // 0 ≤ q}
  place : Place

variable (round : ℕ → ℝ → ℝ) (transactionId : NonEmptyStr) (speed : Speed)

/-- The check of one leg. -/
def legRequest (start : Place) (leg : Leg) : GpvRequest where
  transactionId
  currentLatitude := leg.place.latitude
  currentLongitude := leg.place.longitude
  previousLatitude := some start.latitude
  previousLongitude := some start.longitude
  elapsedMinutes := leg.elapsed
  maxSpeedKmh := speed

/-- The checks of an itinerary, each leg from where the one before ended. -/
def legRequests : Place → List Leg → List GpvRequest
  | _, [] => []
  | start, leg :: rest =>
    legRequest transactionId speed start leg :: legRequests leg.place rest

def destination : Place → List Leg → Place
  | start, [] => start
  | _, leg :: rest => destination leg.place rest

def totalMinutes (legs : List Leg) : ℚ := (legs.map fun leg => leg.elapsed.val).sum

/-- The stops lie on a track, from the given minute on. -/
def FollowsTrack (track : ℝ → SpherePoint) : ℝ → List Leg → Prop
  | _, [] => True
  | minute, leg :: rest => track (minute + leg.elapsed.val) = leg.place.point round ∧
      FollowsTrack track (minute + leg.elapsed.val) rest

/-- Nobody on the track is faster than the speed, on whole hours or in between. -/
def KeepsTo (track : ℝ → SpherePoint) : Prop :=
  ∀ s t, s ≤ t → greatCircleKm (track s) (track t) ≤ (speed.val / 60 : ℚ) * (t - s)

/-- The check finds that the leg can be travelled. -/
def Passes (request : GpvRequest) : Prop :=
  ∃ result, evaluateGpv (FloatMath.exact round) request = .ok result ∧ result.outcome = .matched

theorem evaluateGpv_leg (start : Place) (leg : Leg) :
    ∃ result, evaluateGpv (FloatMath.exact round) (legRequest transactionId speed start leg) =
        .ok result ∧ result.available = true ∧
      (result.outcome = .matched ↔ start.distanceKm round leg.place ≤
        (speed.val * leg.elapsed.val / 60 + 1 / 4 : ℚ)) ∧
      (result.outcome = .mismatched ↔ ¬ start.distanceKm round leg.place ≤
        (speed.val * leg.elapsed.val / 60 + 1 / 4 : ℚ)) := by
  unfold evaluateGpv legRequest
  simp only [haversineKm_exact, Py.ok_bind]
  refine ⟨_, rfl, rfl, ?_, ?_⟩
  · show (if start.distanceKm round leg.place ≤ (speed.val * leg.elapsed.val / 60 + 1 / 4 : ℚ)
      then GpvOutcome.matched else .mismatched) = _ ↔ _
    split_ifs with h
    · exact iff_of_true rfl h
    · exact iff_of_false (by decide) h
  · show (if start.distanceKm round leg.place ≤ (speed.val * leg.elapsed.val / 60 + 1 / 4 : ℚ)
      then GpvOutcome.matched else .mismatched) = _ ↔ _
    split_ifs with h
    · exact iff_of_false (by decide) (not_not.mpr h)
    · exact iff_of_true rfl h

theorem passes_leg_iff (start : Place) (leg : Leg) :
    Passes round (legRequest transactionId speed start leg) ↔
      start.distanceKm round leg.place ≤ (speed.val * leg.elapsed.val / 60 + 1 / 4 : ℚ) := by
  obtain ⟨result, hresult, -, hmatched, -⟩ :=
    evaluateGpv_leg round transactionId speed start leg
  rw [← hmatched]
  constructor
  · rintro ⟨result', hresult', hpasses⟩
    rw [hresult] at hresult'
    cases hresult'
    exact hpasses
  · intro hpasses
    exact ⟨result, hresult, hpasses⟩

/-- Legs that all pass bound the way from the first stop to the last. -/
theorem distanceKm_le_of_passes (legs : List Leg) : ∀ start : Place,
    (∀ request ∈ legRequests transactionId speed start legs, Passes round request) →
    start.distanceKm round (destination start legs) ≤
      (speed.val * totalMinutes legs / 60 + legs.length / 4 : ℚ) := by
  induction legs with
  | nil =>
    intro start _
    simp [destination, totalMinutes, Place.distanceKm, greatCircleKm,
      SpherePoint.centralAngle_self]
  | cons leg rest ih =>
    intro start hpasses
    obtain ⟨hfirst, hrest⟩ := List.forall_mem_cons.mp hpasses
    have hleg := (passes_leg_iff round transactionId speed start leg).mp hfirst
    have hrun := ih leg.place hrest
    have htotal : totalMinutes (leg :: rest) = leg.elapsed.val + totalMinutes rest :=
      List.sum_cons
    calc start.distanceKm round (destination start (leg :: rest))
        ≤ start.distanceKm round leg.place +
            leg.place.distanceKm round (destination leg.place rest) :=
          greatCircleKm_triangle _ _ _
      _ ≤ (speed.val * leg.elapsed.val / 60 + 1 / 4 : ℚ) +
            (speed.val * totalMinutes rest / 60 + rest.length / 4 : ℚ) := add_le_add hleg hrun
      _ = (speed.val * totalMinutes (leg :: rest) / 60 + (leg :: rest).length / 4 : ℚ) := by
          rw [htotal, List.length_cons]
          push_cast
          ring

theorem passes_of_keepsTo {track : ℝ → SpherePoint} (hspeed : KeepsTo speed track)
    (legs : List Leg) : ∀ (start : Place) (minute : ℝ), track minute = start.point round →
    FollowsTrack round track minute legs →
    ∀ request ∈ legRequests transactionId speed start legs, Passes round request := by
  induction legs with
  | nil =>
    intro start minute _ _ request hrequest
    cases hrequest
  | cons leg rest ih =>
    intro start minute hstart hfollows
    obtain ⟨hplace, hrest⟩ := hfollows
    refine List.forall_mem_cons.mpr ⟨?_, ih leg.place _ hplace hrest⟩
    have helapsed : (0 : ℝ) ≤ leg.elapsed.val := by exact_mod_cast leg.elapsed.property
    have hleg := hspeed minute (minute + leg.elapsed.val) (by linarith)
    rw [add_sub_cancel_left, hstart, hplace] at hleg
    refine (passes_leg_iff round transactionId speed _ leg).mpr (hleg.trans ?_)
    push_cast
    linarith

/-- What the checks of an itinerary tell. -/
structure Surveyed (start : Place) (legs : List Leg) : Prop where
  answered : ∀ request ∈ legRequests transactionId speed start legs, ∃ result,
    evaluateGpv (FloatMath.exact round) request = .ok result ∧ result.available = true ∧
      (result.outcome = .matched ∨ result.outcome = .mismatched)
  bounded : (∀ request ∈ legRequests transactionId speed start legs, Passes round request) →
    start.distanceKm round (destination start legs) ≤
      (speed.val * totalMinutes legs / 60 + legs.length / 4 : ℚ)
  unharmed : ∀ track minute, track minute = start.point round →
    FollowsTrack round track minute legs → KeepsTo speed track →
    ∀ request ∈ legRequests transactionId speed start legs, Passes round request

theorem answered_legRequests (legs : List Leg) : ∀ start : Place,
    ∀ request ∈ legRequests transactionId speed start legs, ∃ result,
      evaluateGpv (FloatMath.exact round) request = .ok result ∧ result.available = true ∧
        (result.outcome = .matched ∨ result.outcome = .mismatched) := by
  induction legs with
  | nil =>
    intro start request hrequest
    cases hrequest
  | cons leg rest ih =>
    intro start
    refine List.forall_mem_cons.mpr ⟨?_, ih leg.place⟩
    obtain ⟨result, hresult, havailable, hmatched, hmismatched⟩ :=
      evaluateGpv_leg round transactionId speed start leg
    exact ⟨result, hresult, havailable, (em _).imp hmatched.mpr hmismatched.mpr⟩

/-- Over every itinerary the checks answer; if all pass, the traveller got no further than the
speed allows, and a quarter of a kilometre for each leg; and no traveller who keeps to the speed
is stopped. -/
theorem evaluateGpv_surveyed (start : Place) (legs : List Leg) :
    Surveyed round transactionId speed start legs where
  answered := answered_legRequests round transactionId speed legs start
  bounded := distanceKm_le_of_passes round transactionId speed legs start
  unharmed := by
    intro track minute hstart hfollows hspeed
    exact passes_of_keepsTo round transactionId speed hspeed legs start minute hstart hfollows

end Itineraries

end VeriPay.DeviceIntegrity
