import Itinerary.Proofs.Calendar.Minute
import Itinerary.Proofs.Page.Overtaking

/-!
# What the neighbours of a page ask for

A step from a page moves a bound by a minute, seconds and all, and what is sent of the outcome is a
date, an hour and a minute. A minute could be asked for twice on the way, or be left out, where the
seconds are lost or where an hour, a day, a month or a year begins.

Neither happens: the figures that are sent are those of the minute behind the bound, or before it
(`laterQuery_asks`, `earlierQuery_asks`). The bounds are times of rides, so walks do not move them
(`ofTrips_congr`), and in a page in the order of departures no trip leaves as late as the minute
that the later query asks for (`not_le_boarding`).
-/

namespace Itinerary

open Calendar

/-- Whether a query asks for what another one asks for, but at a minute of its own. -/
structure TripQuery.Asks (next q : TripQuery) (m : Minute) (timeType : TimeType) : Prop where
  origin : next.origin = q.origin
  destination : next.destination = q.destination
  via : next.via = q.via
  options : next.options = q.options
  timeType_eq : next.timeType = timeType
  /-- it is sent with the figures of the minute -/
  parameters : next.parameters = q.placeParameters.map fun places => places ++
    [("date", m.day.text), ("time", clockText m.hour m.minute), ("time_type", timeType.name)] ++
    TripQuery.optionParameters q.options

theorem TripQuery.asks_reanchored (q : TripQuery) (moment : DateTime) (timeType : TimeType) :
    (q.reanchored moment timeType).Asks q (Minute.of moment) timeType where
  origin := rfl
  destination := rfl
  via := rfl
  options := rfl
  timeType_eq := rfl
  parameters := by
    rw [parameters_eq, timeParameters_eq, placeParameters_reanchored, ← Minute.slashedDate_write,
      ← Minute.hourMinute_write]
    refine congrArg (Except.map · _) (funext fun places => ?_)
    exact (List.append_assoc _ _ _).symm

theorem Trip.rides_eq_filterMap (t : Trip) :
    t.rides = (t.legs.filter Leg.isRide).filterMap Leg.ride? := by
  rw [rides, List.filterMap_filter]
  refine List.filterMap_congr fun l _ => ?_
  cases l <;> rfl

namespace PageContext

variable {trips : List Trip} {q : TripQuery} {c : PageContext} {first last : Trip}

/-! ### Walks -/

/-- The context of a page is made of the rides of its trips. -/
theorem ofTrips_eq_rides (trips : List Trip) (q : TripQuery) :
    ofTrips trips q = (trips.map Trip.rides).head?.bind fun first =>
      (trips.map Trip.rides).getLast?.map fun last =>
        ⟨q, last.head?.map (·.departureTime.planned),
          first.getLast?.map (·.arrivalTime.planned)⟩ := by
  unfold ofTrips
  rw [List.head?_map, List.getLast?_map]
  cases trips.head? with
  | none => rfl
  | some first => cases trips.getLast? <;> rfl

/-- **Walks do not move the bounds of a page**, wherever they come. -/
theorem ofTrips_congr {trips' : List Trip}
    (h : trips'.map (fun t => t.legs.filter Leg.isRide) =
      trips.map fun t => t.legs.filter Leg.isRide) (q : TripQuery) :
    ofTrips trips' q = ofTrips trips q := by
  have hrides : trips'.map Trip.rides = trips.map Trip.rides := by
    -- the rides of a trip can be read off its legs without the walks
    have hmap := congrArg (List.map (List.filterMap Leg.ride?)) h
    rw [List.map_map, List.map_map] at hmap
    simp only [funext Trip.rides_eq_filterMap]
    exact hmap
  rw [ofTrips_eq_rides, ofTrips_eq_rides, hrides]

/-! ### Steps -/

/-- From a bound that is not at the edge of the calendar there is a step. -/
theorem exists_nextQuery {t : DateTime} {later : Bool} (hbound : c.bound later = some t)
    (hedge : ¬ t.IsAtEdge later) :
    ∃ moment, t.addMinutes? (minutesBeyond later) = some moment ∧
      c.nextQuery later = .ok (c.query.reanchored moment (timeTypeBeyond later)) := by
  obtain ⟨moment, hmoment⟩ :=
    Option.ne_none_iff_exists'.mp (mt DateTime.addMinutes?_eq_none_iff.mp hedge)
  exact ⟨moment, hmoment, nextQuery_of_bound_some hbound hmoment⟩

/-- The later query asks for the minute behind the departure of the last trip. -/
theorem laterQuery_asks (hc : ofTrips trips q = some c) (hlast : trips.getLast? = some last)
    (hedge : ¬ last.boarding.IsAtEdge true) :
    ∃ later, c.laterQuery = .ok later ∧ later.Asks q (Minute.of last.boarding).next .depart := by
  obtain ⟨first, last', -, hlast', rfl⟩ := ofTrips_eq_some_iff.mp hc
  obtain rfl := Option.some.inj (hlast.symm.trans hlast')
  have hbound : bound ⟨q, some last.boarding, some first.alighting⟩ true = some last.boarding :=
    rfl
  obtain ⟨moment, hmoment, hnext⟩ := exists_nextQuery hbound hedge
  refine ⟨_, hnext, ?_⟩
  rw [← Minute.of_addMinutes?_one hmoment]
  exact q.asks_reanchored moment .depart

/-- The earlier query asks for the minute before the arrival of the first trip. -/
theorem earlierQuery_asks (hc : ofTrips trips q = some c) (hfirst : trips.head? = some first)
    (hedge : ¬ first.alighting.IsAtEdge false) (hleap : first.alighting.clock.isLeap = false) :
    ∃ earlier, c.earlierQuery = .ok earlier ∧
      earlier.Asks q (Minute.of first.alighting).previous .arrival := by
  obtain ⟨first', last, hfirst', -, rfl⟩ := ofTrips_eq_some_iff.mp hc
  obtain rfl := Option.some.inj (hfirst.symm.trans hfirst')
  have hbound : bound ⟨q, some last.boarding, some first.alighting⟩ false = some first.alighting :=
    rfl
  obtain ⟨moment, hmoment, hnext⟩ := exists_nextQuery hbound hedge
  refine ⟨_, hnext, ?_⟩
  rw [← Minute.of_addMinutes?_neg_one hleap hmoment]
  exact q.asks_reanchored moment .arrival

/-- Of trips in the order of departures none leaves in the minute behind the last departure, or
later. -/
theorem not_le_boarding (horder : InDepartureOrder trips) (hlast : trips.getLast? = some last)
    {t : Trip} (ht : t ∈ trips) {moment : DateTime}
    (hmoment : Minute.of moment = (Minute.of last.boarding).next) :
    ¬ moment.le t.boarding = true := by
  intro hle
  -- the figures of the moment count one minute more than those of the last departure
  have hminutes : moment.minutes = last.boarding.minutes + 1 := by
    rw [← Minute.number_of, hmoment, Minute.number_next, Minute.number_of]
  have hlate := DateTime.minutes_le_of_le (DateTime.le_trans hle (horder.le_last hlast ht))
  omega

/-- **A step asks for exactly the minute behind a page, or before it**, with the places and the
options of the page. Walks move neither minute, and of a page in the order of departures all trips
leave before the later one. -/
theorem neighbours_ask (q : TripQuery) (hfirst : trips.head? = some first)
    (hlast : trips.getLast? = some last) (hlater : ¬ last.boarding.IsAtEdge true)
    (hearlier : ¬ first.alighting.IsAtEdge false)
    (hleap : first.alighting.clock.isLeap = false) :
    ∃ c later earlier, ofTrips trips q = some c ∧
      c.laterQuery = .ok later ∧ later.Asks q (Minute.of last.boarding).next .depart ∧
      c.earlierQuery = .ok earlier ∧
      earlier.Asks q (Minute.of first.alighting).previous .arrival ∧
      (∀ trips' : List Trip, (trips'.map fun t => t.legs.filter Leg.isRide) =
        (trips.map fun t => t.legs.filter Leg.isRide) → ofTrips trips' q = some c) ∧
      (InDepartureOrder trips → ∀ t ∈ trips, ∀ moment,
        Minute.of moment = (Minute.of last.boarding).next → ¬ moment.le t.boarding = true) := by
  have hc : ofTrips trips q = some ⟨q, some last.boarding, some first.alighting⟩ :=
    ofTrips_eq_some_iff.mpr ⟨first, last, hfirst, hlast, rfl⟩
  obtain ⟨later, hlaterQuery, hlaterAsks⟩ := laterQuery_asks hc hlast hlater
  obtain ⟨earlier, hearlierQuery, hearlierAsks⟩ := earlierQuery_asks hc hfirst hearlier hleap
  refine ⟨_, later, earlier, hc, hlaterQuery, hlaterAsks, hearlierQuery, hearlierAsks, ?_, ?_⟩
  · intro trips' hwalks
    exact (ofTrips_congr hwalks q).trans hc
  · intro horder t ht moment hmoment
    exact not_le_boarding horder hlast ht hmoment

/-- A time on a day. -/
def onDay (date : Option Date) (hdate : date.isSome) (clock : Option Clock)
    (hclock : clock.isSome) : DateTime :=
  ⟨date.get hdate, clock.get hclock⟩

/-- A train that arrives a quarter of a minute into a new year. -/
def newYearTrain : Trip :=
  byTrain (onDay (Date.of? 2023 12 31) (by decide) (Clock.of? 23 40 0 0) (by decide))
    (onDay (Date.of? 2024 1 1) (by decide) (Clock.of? 0 0 15 0) (by decide))

/-- A train that leaves in the last minute of a leap day. -/
def leapDayTrain : Trip :=
  byTrain (onDay (Date.of? 2024 2 29) (by decide) (Clock.of? 23 59 30 0) (by decide))
    (onDay (Date.of? 2024 3 1) (by decide) (Clock.of? 0 20 0 0) (by decide))

theorem neighbours_ask_leapDayTrain :
    ∃ c later earlier, ofTrips [newYearTrain, leapDayTrain] morningQuery = some c ∧
      c.laterQuery = .ok later ∧ c.earlierQuery = .ok earlier ∧
      later.parameters = .ok ([("from", "Bern"), ("to", "Thun"), ("date", "03/01/2024"),
        ("time", "00:00"), ("time_type", "depart")] ++
          TripQuery.optionParameters morningQuery.options) ∧
      earlier.parameters = .ok ([("from", "Bern"), ("to", "Thun"), ("date", "12/31/2023"),
        ("time", "23:59"), ("time_type", "arrival")] ++
          TripQuery.optionParameters morningQuery.options) := by
  -- neither bound lies at an edge of the calendar
  have hlater : ¬ leapDayTrain.boarding.IsAtEdge true := by
    change ¬ leapDayTrain.boarding.minutes = DateTime.lastMinute
    decide +kernel
  have hearlier : ¬ newYearTrain.alighting.IsAtEdge false := by
    change ¬ (newYearTrain.alighting.minutes = DateTime.firstMinute ∧ _)
    decide +kernel
  have hfirst : [newYearTrain, leapDayTrain].head? = some newYearTrain := rfl
  obtain ⟨c, later, earlier, hc, hlaterQuery, hlaterAsks, hearlierQuery, hearlierAsks, -⟩ :=
    neighbours_ask morningQuery hfirst rfl hlater hearlier (by decide +kernel)
  refine ⟨c, later, earlier, hc, hlaterQuery, hearlierQuery, ?_, ?_⟩
  · rw [hlaterAsks.parameters]
    decide +kernel
  · rw [hearlierAsks.parameters]
    decide +kernel

end PageContext

end Itinerary
