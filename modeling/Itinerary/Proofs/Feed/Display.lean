import Itinerary.Proofs.Feed.Journey
import Itinerary.Proofs.Page

/-!
# What is shown has no say

Much of a connection is there to be shown or is not used at all: names of its ends, line, colours,
tracks, info texts, alerts. Whether there is a trip, and when and where it goes, is decided by the
rest. So two connections that differ in such data only come to the same error or to two trips with
the same *course*: the same legs between the same places at the same times, and with that the same
changes, duration and bounds.

Both runs are compared with a third one, on the connection without what is shown (`bare`). Leg by
leg it has the course of either (`Leg.course_interpret_bare`), and a trip is assembled by looking at
the courses of its legs only (`Trip.course_assemble`).
-/

namespace Itinerary

open Calendar

/-! ### Courses -/

/-- The way a leg takes, apart from what is shown of it. -/
structure LegCourse where
  isRide : Bool
  origin : Location
  destination : Location
  departure : StopTime
  arrival : StopTime
  /-- the stops on the way, of which a walk has none -/
  stops : List Stop
  cancelled : Bool

/-- The course of a leg. -/
def Leg.course (l : Leg) : LegCourse where
  isRide := l.isRide
  origin := l.origin
  destination := l.destination
  departure := l.departureTime
  arrival := l.arrivalTime
  stops := (l.ride?.map Ride.stops).getD []
  cancelled := l.isCancelled

/-- The way a trip takes, and what follows from it. -/
structure TripCourse where
  legs : List LegCourse
  transfers : Nat
  seconds : Int
  origin : Location
  destination : Location
  departure : StopTime
  arrival : StopTime
  cancelled : Bool
  /-- the bounds of a page with nothing but the trip -/
  bound : Bool → Option DateTime

/-- The course of a trip. -/
def Trip.course (t : Trip) : TripCourse where
  legs := t.legs.map Leg.course
  transfers := t.transfers
  seconds := t.seconds
  origin := t.origin
  destination := t.destination
  departure := t.departureTime
  arrival := t.arrivalTime
  cancelled := t.isCancelled
  bound := PageContext.boundOf [t]

/-! ### The course of a trip is that of its legs -/

/-- The planned times of the rides, by their course. -/
def ridePlans (time : LegCourse → StopTime) (legs : List LegCourse) : List DateTime :=
  (legs.filter LegCourse.isRide).map fun l => (time l).planned

theorem map_rides (t : Trip) (time : LegCourse → StopTime) (own : Ride → StopTime)
    (h : ∀ r, time (Leg.ride r).course = own r) :
    t.rides.map (fun r => (own r).planned) = ridePlans time (t.legs.map Leg.course) := by
  rw [Trip.rides, ridePlans]
  induction t.legs with
  | nil => rfl
  | cons l rest ih =>
    cases l with
    | walk w => exact ih
    | ride r =>
      rw [List.filterMap_cons_some (by rfl), List.map_cons, ih, ← h r]
      rfl

/-- The bounds of a trip are times of its first and its last ride. -/
theorem boundOf_singleton (t : Trip) (later : Bool) :
    PageContext.boundOf [t] later =
      if later then (ridePlans LegCourse.departure (t.legs.map Leg.course)).head?
      else (ridePlans LegCourse.arrival (t.legs.map Leg.course)).getLast? := by
  rw [← map_rides t LegCourse.departure Ride.departureTime fun _ => rfl,
    ← map_rides t LegCourse.arrival Ride.arrivalTime fun _ => rfl, List.head?_map,
    List.getLast?_map]
  cases later <;> rfl

/-- **Trips with the same legs in order take the same course.** -/
theorem Trip.course_eq_of_legs {t t' : Trip}
    (h : t.legs.map Leg.course = t'.legs.map Leg.course) : t.course = t'.course := by
  -- the course of a trip is made of its first leg, its last leg, and counts over all of them
  have hfirst : t.firstLeg.course = t'.firstLeg.course := by
    have hhead := congrArg List.head? h
    rw [List.head?_map, List.head?_map, List.head?_eq_some_head t.legs_ne_nil,
      List.head?_eq_some_head t'.legs_ne_nil] at hhead
    exact Option.some.inj hhead
  have hlast : t.lastLeg.course = t'.lastLeg.course := by
    have hend := congrArg List.getLast? h
    rw [List.getLast?_map, List.getLast?_map, List.getLast?_eq_some_getLast t.legs_ne_nil,
      List.getLast?_eq_some_getLast t'.legs_ne_nil] at hend
    exact Option.some.inj hend
  have htransfers : t.transfers = t'.transfers := by
    have hcount := congrArg (List.countP LegCourse.isRide) h
    rw [List.countP_map, List.countP_map] at hcount
    have hrides : t.transfers + 1 = t'.transfers + 1 := by
      rw [t.transfers_add_one, t'.transfers_add_one]
      exact hcount
    exact Nat.succ_injective hrides
  have hcancelled : t.isCancelled = t'.isCancelled := by
    have hany := congrArg (List.any · LegCourse.cancelled) h
    rw [List.any_map, List.any_map] at hany
    exact hany
  have hdeparture : t.departureTime = t'.departureTime := congrArg LegCourse.departure hfirst
  have harrival : t.arrivalTime = t'.arrivalTime := congrArg LegCourse.arrival hlast
  rw [Trip.course, Trip.course, TripCourse.mk.injEq]
  refine ⟨h, htransfers, ?_, congrArg LegCourse.origin hfirst,
    congrArg LegCourse.destination hlast, hdeparture, harrival, hcancelled, ?_⟩
  · rw [Trip.seconds, Trip.seconds, hdeparture, harrival]
  · funext later
    rw [boundOf_singleton, boundOf_singleton, h]

/-! ### Trips are assembled by course -/

/-- Whether there is a gap between legs shows in their courses. -/
theorem firstGap_eq_of_course {legs legs' : List Leg}
    (h : legs.map Leg.course = legs'.map Leg.course) : firstGap legs = firstGap legs' := by
  induction legs generalizing legs' with
  | nil => rw [List.map_eq_nil_iff.mp h.symm]
  | cons a rest ih =>
    obtain ⟨a', rest', rfl, ha, hrest⟩ := List.map_eq_cons_iff.mp h.symm
    cases rest with
    | nil => rw [List.map_eq_nil_iff.mp hrest]; rfl
    | cons b rest =>
      obtain ⟨b', rest', rfl, hb, -⟩ := List.map_eq_cons_iff.mp hrest
      -- whether two legs meet is told by the places at which their courses end and start
      have hmeets : a.meets b = a'.meets b' := by
        show a.course.destination.samePlace b.course.origin =
          a'.course.destination.samePlace b'.course.origin
        rw [ha, hb]
      rw [firstGap, firstGap, hmeets, ih hrest.symm]

/-- **What legs come to as a trip shows in their courses**, be it an error or the course of the
trip. -/
theorem Trip.course_assemble {legs legs' : List Leg}
    (h : legs.map Leg.course = legs'.map Leg.course) (id id' : TripId)
    (disruptions disruptions' : List Disruption) :
    (assemble id legs disruptions).map Trip.course =
      (assemble id' legs' disruptions').map Trip.course := by
  -- what an assembly looks at is seen in the courses: gaps, rides and how many rides
  have hgap := firstGap_eq_of_course h
  have hany : legs.any Leg.isRide = legs'.any Leg.isRide := by
    have hany := congrArg (List.any · LegCourse.isRide) h
    rw [List.any_map, List.any_map] at hany
    exact hany
  have hcount : transferCount legs = transferCount legs' := by
    have hcount := congrArg (List.countP LegCourse.isRide) h
    rw [List.countP_map, List.countP_map] at hcount
    rw [transferCount_eq, transferCount_eq]
    exact congrArg (fun n : Nat => (n : Int) - 1) hcount
  by_cases hnil : legs = []
  · subst hnil
    rw [List.map_eq_nil_iff.mp h.symm, assemble_nil, assemble_nil]
  have hnil' : legs' ≠ [] := fun hnil' => hnil (List.map_eq_nil_iff.mp (h.trans (hnil' ▸ rfl)))
  cases hfirst : firstGap legs with
  | some index =>
    rw [assemble_of_firstGap id disruptions hnil hfirst,
      assemble_of_firstGap id' disruptions' hnil' (hgap.symm.trans hfirst)]
  | none =>
    -- without a gap it is left whether there is a ride
    by_cases hride : legs.any Leg.isRide = true
    · obtain ⟨n, hn⟩ := exists_transferCount hride
      rw [assemble_of_transferCount id disruptions hfirst hn,
        assemble_of_transferCount id' disruptions' (hgap.symm.trans hfirst) (hcount.symm.trans hn)]
      exact congrArg Except.ok (Trip.course_eq_of_legs h)
    · rw [assemble_of_not_any id disruptions hnil hfirst hride,
        assemble_of_not_any id' disruptions' hnil' (hgap.symm.trans hfirst) (hany ▸ hride)]

/-! ### Connections without what is shown -/

namespace Feed

/-- The end of a leg without its track and the wait behind it. -/
def Exit.bare (e : Exit) : Exit := { e with waitTime := none, track := none }

/-- A leg without what is only shown and what is not used: all that is said about its line, the
tracks, info texts and alerts, and the delay of the arrival at the boarding place. -/
def Leg.bare (l : Leg) : Leg :=
  { l with
    line := none
    operator := none
    terminal := none
    tripNumber := none
    productCode := none
    foreground := none
    background := none
    track := none
    arrivalDelay := none
    notes := []
    alerts := none
    exit := l.exit.map Exit.bare
    runningTime := none
    tripId := none }

/-- A connection without what is only shown and what is not used: its alerts, what it says of
itself as a whole, and the same of its legs. -/
def Connection.bare (c : Connection) : Connection where
  origin := none
  destination := none
  duration := none
  departure := none
  arrival := none
  alerts := none
  legs := c.legs.map Leg.bare

/-- A ride takes the same course without what is shown of it, or fails alike. -/
theorem course_rideOf_bare (l : Leg) (exit : Exit) (departure arrival : Option StopTime)
    (around around' : List Disruption) :
    (rideOf l exit departure arrival around).map Itinerary.Leg.course =
      (rideOf l.bare exit.bare departure arrival around').map Itinerary.Leg.course := by
  have hstops : l.bare.stopsOf = l.stopsOf := rfl
  unfold rideOf
  rw [hstops]
  cases l.stopsOf with
  | error e => rfl
  | ok stops =>
    -- whether a ride can be boarded is told by the times alone
    cases departure with
    | none => rfl
    | some departureTime => cases arrival <;> rfl

/-- **A leg takes the same course without what is shown of it**, or fails alike. -/
theorem Leg.course_interpret_bare (l : Leg) (around around' : List Disruption) :
    (l.interpret around).map (Option.map Itinerary.Leg.course) =
      (l.bare.interpret around').map (Option.map Itinerary.Leg.course) := by
  cases hexit : l.exit with
  | none =>
    -- a leg that ends nowhere is passed over with and without
    have hbare : l.bare.hasExit = false := by
      rw [Leg.hasExit, Leg.bare, hexit]
      rfl
    rw [Leg.interpret_of_terminal (by rw [Leg.hasExit, hexit]; rfl),
      Leg.interpret_of_terminal hbare]
  | some exit =>
    have hbare : l.bare.exit = some exit.bare := by
      rw [Leg.bare, hexit]
      rfl
    -- the times are not among what is left out
    have htimes : stopTimesOf l.bare exit.bare = stopTimesOf l exit := rfl
    rw [Leg.interpret_of_exit hexit, Leg.interpret_of_exit hbare, htimes]
    cases stopTimesOf l exit with
    | error e => rfl
    | ok times =>
      have hleg : (legOf l exit around times).map Itinerary.Leg.course =
          (legOf l.bare exit.bare around' times).map Itinerary.Leg.course := by
        have hwalk : l.bare.isWalk = l.isWalk := rfl
        unfold legOf
        rw [hwalk]
        -- a walk shows nothing but its ends, and of a ride the rest is no part of its course
        split
        · rfl
        · exact course_rideOf_bare l exit times.1 times.2 around around'
      -- a leg that is found is the outcome
      have hsome : ∀ a a' : Itinerary.Leg, a.course = a'.course →
          (Except.ok (some a) : Except ConversionError (Option Itinerary.Leg)).map
              (Option.map Itinerary.Leg.course) =
            (Except.ok (some a')).map (Option.map Itinerary.Leg.course) := by
        intro a a' ha
        rw [Except.map, Except.map, Option.map_some, Option.map_some, ha]
      exact map_bind_eq_map_bind hleg hsome

/-- Legs take the same courses without what is shown of them, or fail alike. -/
theorem course_interpretLegs_bare (legs : List Leg) (around around' : List Disruption) :
    (interpretLegs legs around).map (List.map Itinerary.Leg.course) =
      (interpretLegs (legs.map Leg.bare) around').map (List.map Itinerary.Leg.course) := by
  induction legs with
  | nil => rfl
  | cons l rest ih =>
    -- the first leg that fails is the same on both sides
    rw [List.map_cons, interpretLegs_cons, interpretLegs_cons]
    refine map_bind_eq_map_bind (l.course_interpret_bare around around') fun first first' hfirst =>
      map_bind_eq_map_bind ih fun others others' hothers => ?_
    have htoList : first.toList.map Itinerary.Leg.course =
        first'.toList.map Itinerary.Leg.course := by
      rw [← Option.toList_map, hfirst, Option.toList_map]
    rw [Except.map, Except.map, List.map_append, List.map_append, htoList, hothers]

/-- A connection takes the same course without what is shown of it, or fails alike. -/
theorem Connection.course_interpret_bare (c : Connection) (id id' : TripId) :
    (c.interpret id).map Trip.course = (c.bare.interpret id').map Trip.course := by
  rw [Connection.interpret_eq, Connection.interpret_eq]
  refine map_bind_eq_map_bind (course_interpretLegs_bare c.legs _ _) fun legs legs' hlegs => ?_
  rw [map_mapError, map_mapError, Trip.course_assemble hlegs id id' _ (disruptionsOf c.bare.alerts)]

/-- **What is shown has no say.** Two connections that are the same but for what is only shown or
not used, however malformed that is, are refused with the same error or make two trips of the same
course: leg by leg the same kind, places, times, stops and cancellation, and as a whole the same
changes, duration, ends and bounds. -/
theorem Connection.interpret_of_bare_eq {c c' : Connection} (h : c.bare = c'.bare)
    (id id' : TripId) :
    (∀ e, c.interpret id = .error e ↔ c'.interpret id' = .error e) ∧
      ∀ t, c.interpret id = .ok t → ∃ t', c'.interpret id' = .ok t' ∧ t'.course = t.course := by
  have hcourse : (c.interpret id).map Trip.course = (c'.interpret id').map Trip.course :=
    (c.course_interpret_bare id id).trans (h ▸ (c'.course_interpret_bare id' id).symm)
  exact error_iff_and_ok_of_map_eq hcourse

/-- A connection with everything that is only shown or not used in a form that means nothing. -/
def Connection.garbled (c : Connection) : Connection :=
  { c with
    origin := some ""
    duration := some (-1)
    arrival := some "never"
    alerts := some (Keyed.ofList [("", ⟨none, some " ", none, some "\n", some "tomorrow"⟩)])
    legs := c.legs.map fun l =>
      { l with
        line := some "\x00"
        productCode := some "?"
        foreground := some "#12345"
        background := some "red"
        track := some " "
        arrivalDelay := some (.text "X")
        notes := [.plain "\u2028", .wrapped none]
        alerts := some Keyed.empty
        exit := l.exit.map fun e => { e with track := some "", waitTime := some (-5) } } }

theorem course_garbled_cancelledTrain :
    cancelledTrain.garbled.bare = cancelledTrain.bare ∧
      ∃ t t', cancelledTrain.garbled.interpret ⟨"a"⟩ = .ok t ∧
        cancelledTrain.interpret ⟨"b"⟩ = .ok t' ∧ t'.course = t.course := by
  have hbare : cancelledTrain.garbled.bare = cancelledTrain.bare := rfl
  obtain ⟨t, ht⟩ : ∃ t, cancelledTrain.garbled.interpret ⟨"a"⟩ = .ok t :=
    exists_eq_ok (by decide +kernel)
  obtain ⟨t', ht', hcourse⟩ :=
    (Connection.interpret_of_bare_eq hbare ⟨"a"⟩ ⟨"b"⟩).2 t ht
  exact ⟨hbare, t, t', ht, ht', hcourse⟩

end Feed

end Itinerary
