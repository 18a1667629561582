import Itinerary.Proofs.Calendar.Order
import Itinerary.Proofs.Page.Bounds

/-!
# Which trips of a page are asked for again

The trips of a page stand in the order in which they leave (`InDepartureOrder`), and a step to a
neighbour starts from one end of them. That is sound for the later page: it has the trips that leave
after the last one does, and so after all of them (`not_satisfies_laterQuery`).

The earlier page ends by an arrival, about which the order of departures says nothing. Its bound is
the arrival of the *first* trip, and a trip that leaves later may arrive sooner. Just these trips
are asked for again (`satisfies_earlierQuery_iff`); there are none if the first trip is the first to
arrive as well.
-/

namespace Itinerary

open Calendar

/-! ### Trips and times -/

/-- Whether the time of a query lets a trip in. -/
def Trip.Satisfies (t : Trip) (q : TripQuery) : Prop :=
  match q.timeType with
  | .depart => q.moment.le t.boarding = true
  | .arrival => t.alighting.le q.moment = true

/-- Whether a trip overtakes another one by a minute: it leaves no sooner, and arrives by the minute
before the other one does. -/
def Trip.Overtakes (t other : Trip) : Prop :=
  other.boarding.le t.boarding = true ∧
    ∃ moment, other.alighting.addMinutes? (-1) = some moment ∧ t.alighting.le moment = true

/-- What overtakes a trip arrives before it. -/
theorem Trip.Overtakes.not_le {t other : Trip} (h : t.Overtakes other) :
    ¬ other.alighting.le t.alighting = true := by
  obtain ⟨-, moment, hmoment, hle⟩ := h
  have hbefore := DateTime.position_gt_of_addMinutes? hmoment (by decide)
  have hbefore' := DateTime.le_iff.mp hle
  rw [DateTime.not_le_iff]
  omega

/-- Whether trips stand in the order in which they leave. -/
def InDepartureOrder (trips : List Trip) : Prop :=
  trips.Pairwise fun a b => a.boarding.le b.boarding = true

namespace InDepartureOrder

variable {trips : List Trip} {t : Trip}

/-- The first of the trips leaves before all of them. -/
theorem first_le {first : Trip} (h : InDepartureOrder trips) (hfirst : trips.head? = some first)
    (ht : t ∈ trips) : first.boarding.le t.boarding = true := by
  obtain ⟨rest, rfl⟩ := List.head?_eq_some_iff.mp hfirst
  rcases List.mem_cons.mp ht with rfl | ht
  · exact DateTime.le_refl _
  · exact List.rel_of_pairwise_cons h ht

/-- The last of the trips leaves after all of them. -/
theorem le_last {last : Trip} (h : InDepartureOrder trips) (hlast : trips.getLast? = some last)
    (ht : t ∈ trips) : t.boarding.le last.boarding = true := by
  obtain ⟨before, rfl⟩ := List.getLast?_eq_some_iff.mp hlast
  rcases List.mem_append.mp ht with ht | ht
  · exact (List.pairwise_append.mp h).2.2 t ht last (List.mem_singleton_self last)
  · obtain rfl := List.mem_singleton.mp ht
    exact DateTime.le_refl _

end InDepartureOrder

namespace PageContext

variable {trips : List Trip} {q next : TripQuery} {c : PageContext}

/-! ### The later page -/

/-- **The later page repeats nothing.** No trip of a page in the order of departures leaves at the
time of the later query or behind it. -/
theorem not_satisfies_laterQuery (horder : InDepartureOrder trips)
    (hc : ofTrips trips q = some c) (hnext : c.laterQuery = .ok next) :
    ∀ t ∈ trips, ¬ t.Satisfies next := by
  have hstep : c.nextQuery true = .ok next := hnext
  obtain ⟨t₀, moment, hbound, hmoment, rfl⟩ := nextQuery_eq_ok_iff.mp hstep
  obtain ⟨first, last, -, hlast, rfl⟩ := ofTrips_eq_some_iff.mp hc
  obtain rfl : last.boarding = t₀ := Option.some.inj hbound
  intro t ht hsatisfies
  have hsatisfies : moment.le t.boarding = true := hsatisfies
  -- the query starts behind the departure of the last trip
  have hbehind := DateTime.position_lt_of_addMinutes? hmoment (by decide)
  have hlate := DateTime.le_iff.mp (DateTime.le_trans hsatisfies (horder.le_last hlast ht))
  omega

/-! ### The earlier page -/

/-- **The earlier page repeats the trips that overtake the first one.** Of a page in the order of
departures the earlier query lets in exactly those, so never the first trip, and none at all if no
trip arrives before it does. -/
theorem satisfies_earlierQuery_iff (horder : InDepartureOrder trips)
    (hc : ofTrips trips q = some c) (hnext : c.earlierQuery = .ok next) :
    ∃ first, trips.head? = some first ∧ c.earliestArrival = some first.alighting ∧
      ¬ first.Satisfies next ∧
      (∀ t ∈ trips, t.Satisfies next ↔ t.Overtakes first) ∧
      ((∀ t ∈ trips, first.alighting.le t.alighting = true) →
        ∀ t ∈ trips, ¬ t.Satisfies next) := by
  -- the bound of the earlier page is the arrival of the first trip
  have hstep : c.nextQuery false = .ok next := hnext
  obtain ⟨t₀, moment, hbound, hmoment, rfl⟩ := nextQuery_eq_ok_iff.mp hstep
  obtain ⟨first, last, hfirst, -, rfl⟩ := ofTrips_eq_some_iff.mp hc
  obtain rfl : first.alighting = t₀ := Option.some.inj hbound
  -- every trip departs with the first or later, so to be let in is to arrive before it
  have hiff : ∀ t ∈ trips, t.Satisfies (q.reanchored moment .arrival) ↔ t.Overtakes first := by
    intro t ht
    constructor
    · intro hsatisfies
      exact ⟨horder.first_le hfirst ht, moment, hmoment, hsatisfies⟩
    · rintro ⟨-, moment', hmoment', hle⟩
      obtain rfl := Option.some.inj (hmoment.symm.trans hmoment')
      exact hle
  refine ⟨first, hfirst, rfl, ?_, hiff, ?_⟩
  · intro hsatisfies
    exact ((hiff first (List.mem_of_head? hfirst)).mp hsatisfies).not_le (DateTime.le_refl _)
  · intro hearliest t ht hsatisfies
    exact ((hiff t ht).mp hsatisfies).not_le (hearliest t ht)

/-! ### A page with an overtaking -/

/-- A time of day on the fifteenth of March. -/
def onMarchDay (clock : Option Clock) (h : clock.isSome) : DateTime :=
  ⟨(Date.of? 2024 3 15).get (by decide), clock.get h⟩

/-- A trip by one train that leaves and arrives at some times. -/
def byTrain (leaves arrives : DateTime) : Trip where
  id := ⟨"train"⟩
  legs := [.ride
    { line := .unknown
      departure := { Stop.bare (.station "1" "Bern") with departure := some (.onTime leaves) }
      arrival := { Stop.bare (.station "2" "Thun") with arrival := some (.onTime arrives) }
      stops := []
      destination := none
      info := none
      disruptions := []
      departureTime := .onTime leaves
      arrivalTime := .onTime arrives }]
  transfers := 0
  disruptions := []
  connected := rfl
  counted := rfl

/-- A train from eight to ten. -/
def slowTrain : Trip :=
  byTrain (onMarchDay (Clock.of? 8 0 0 0) (by decide)) (onMarchDay (Clock.of? 10 0 0 0) (by decide))

/-- A train that leaves ten minutes behind it and arrives at nine. -/
def fastTrain : Trip :=
  byTrain (onMarchDay (Clock.of? 8 10 0 0) (by decide)) (onMarchDay (Clock.of? 9 0 0 0) (by decide))

/-- Trips on that day from five minutes to eight on. -/
def morningQuery : TripQuery :=
  .departing (.named "Bern") (.named "Thun") (onMarchDay (Clock.of? 7 55 0 0) (by decide))

theorem inDepartureOrder_slowTrain_fastTrain : InDepartureOrder [slowTrain, fastTrain] := by
  refine .cons ?_ (.cons (fun t ht => absurd ht List.not_mem_nil) .nil)
  intro t ht
  obtain rfl := List.mem_singleton.mp ht
  decide +kernel

/-- What the step from that page asks for: arrivals up to the minute before ten. -/
theorem exists_earlierQuery_slowTrain :
    ∃ c moment, ofTrips [slowTrain, fastTrain] morningQuery = some c ∧
      c.earlierQuery = .ok (morningQuery.reanchored moment .arrival) ∧
      fastTrain.alighting.le moment = true := by
  have hmoment : (slowTrain.alighting.addMinutes? (-1)).map fastTrain.alighting.le = some true := by
    decide +kernel
  obtain ⟨moment, hmoment, hle⟩ := Option.map_eq_some_iff.mp hmoment
  have hbound : bound ⟨morningQuery, some fastTrain.boarding, some slowTrain.alighting⟩ false =
      some slowTrain.alighting := rfl
  exact ⟨_, moment, ofTrips_eq_some_iff.mpr ⟨_, _, rfl, rfl, rfl⟩,
    nextQuery_of_bound_some hbound hmoment, hle⟩

/-- **The bound need not be the first arrival.** The fast train arrives at nine and is asked for
again. -/
theorem earlierQuery_repeats_fastTrain :
    InDepartureOrder [slowTrain, fastTrain] ∧
      ∃ c next, ofTrips [slowTrain, fastTrain] morningQuery = some c ∧
        c.earlierQuery = .ok next ∧ fastTrain.Satisfies next := by
  obtain ⟨c, moment, hc, hnext, hle⟩ := exists_earlierQuery_slowTrain
  exact ⟨inDepartureOrder_slowTrain_fastTrain, c, _, hc, hnext, hle⟩

theorem satisfies_earlierQuery_slowTrain :
    ∃ c next, ofTrips [slowTrain, fastTrain] morningQuery = some c ∧ c.earlierQuery = .ok next ∧
      ¬ slowTrain.Satisfies next ∧ fastTrain.Overtakes slowTrain := by
  obtain ⟨c, moment, hc, hnext, hle⟩ := exists_earlierQuery_slowTrain
  obtain ⟨first, hfirst, -, hnot, hiff, -⟩ :=
    satisfies_earlierQuery_iff inDepartureOrder_slowTrain_fastTrain hc hnext
  obtain rfl : slowTrain = first := Option.some.inj hfirst
  exact ⟨c, _, hc, hnext, hnot,
    (hiff fastTrain (List.mem_cons_of_mem _ (List.mem_singleton_self _))).mp hle⟩

end PageContext

end Itinerary
