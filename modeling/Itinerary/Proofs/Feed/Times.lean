import Itinerary.Proofs.Feed.Journey

/-!
# The times of a ride

A leg of the feed has up to three times for its two ends, and a call on the way up to two. A time
that is missing is taken from another place, and each has a delay of its own, so a ride could well
show a time that is none of its own, or one with the delay that belongs to the other side.

`Leg.TimesOf` says which text and which delay each time of a ride is made of. A text and its moment
go together (`stampOf_ok`), and the first of two texts goes with the first of their moments
(`Reads.or`), so that what is chosen among moments is chosen among texts. The calls on the way are
taken one by one (`Call.stop_ok`), so none of them is lost and none comes twice.
-/

namespace Itinerary.Feed

open Calendar

/-! ### Texts, moments and times -/

/-- Whether a time is that of a text, with a delay laid over it. -/
def IsTimeOf (value : Option String) (delay : Option DelayMark) (t : StopTime) : Prop :=
  ∃ s planned, value = some s ∧ readStamp s = .ok planned ∧
    t = .withDelay planned (delayOf delay)

/-- The times of a call. Each side has its own text and its own delay, and one that has no text is
as the other side. -/
inductive Call.TimesOf (c : Call) : StopTime → StopTime → Prop where
  | both {arrival departure : StopTime} (harrival : IsTimeOf c.arrival c.arrivalDelay arrival)
    (hdeparture : IsTimeOf c.departure c.departureDelay departure) : TimesOf c arrival departure
  | arrival {t : StopTime} (harrival : IsTimeOf c.arrival c.arrivalDelay t)
    (hdeparture : c.departure = none) : TimesOf c t t
  | departure {t : StopTime} (harrival : c.arrival = none)
    (hdeparture : IsTimeOf c.departure c.departureDelay t) : TimesOf c t t

/-- Whether a stop is what a call with a time comes to: it has both of its times, and is not
cancelled. -/
def Call.IsStop (c : Call) (s : Stop) : Prop :=
  ∃ arrival departure, c.TimesOf arrival departure ∧
    s = { Stop.bare c.place with arrival := some arrival, departure := some departure }

/-- What the times of a ride are made of. -/
structure Leg.TimesOf (l : Leg) (exit : Exit) (r : Ride) : Prop where
  /-- boarding is at the departure or else the arrival, with the delay of the departure -/
  boarding : IsTimeOf (l.departure.or l.arrival) l.departureDelay r.departureTime
  /-- alighting is at the arrival of the exit or else at the time of boarding, with the delay of
  the exit -/
  alighting : IsTimeOf (exit.arrival.or (l.departure.or l.arrival)) exit.arrivalDelay
    r.arrivalTime
  /-- the stops at the ends have these times -/
  departure : r.departure.departure = some r.departureTime
  arrival : r.arrival.arrival = some r.arrivalTime
  cancelled : r.departure.cancelled = r.arrival.cancelled
  /-- the stops on the way are the calls with a time, in order -/
  stops : List.Forall₂ Call.IsStop
    ((l.calls.getD []).filter fun c => c.arrival.isSome || c.departure.isSome) r.stops

/-! ### From texts to moments -/

/-- Whether a moment is that of a text, and is missing if the text is. -/
def Reads : Option String → Option DateTime → Prop := Option.Rel fun s t => readStamp s = .ok t

theorem stampOf_ok {field : TimeField} {value : Option String} {stamp : Option DateTime}
    (h : stampOf field value = .ok stamp) : Reads value stamp := by
  unfold stampOf at h
  split at h
  · cases h
    exact .none
  · split at h
    · next ht =>
      cases h
      exact .some ht
    · cases h

/-- The first of two texts goes with the first of their moments. -/
theorem Reads.or {value value' : Option String} {stamp stamp' : Option DateTime}
    (h : Reads value stamp) (h' : Reads value' stamp') :
    Reads (value.or value') (stamp.or stamp') := by
  cases h with
  | none => exact h'
  | some ht => exact .some ht

theorem Reads.eq_none {value : Option String} (h : Reads value none) : value = none := by
  cases h
  rfl

/-- A moment with a delay laid over it is the time of its text. -/
theorem Reads.isTimeOf {value : Option String} {stamp : Option DateTime}
    {delay : Option DelayMark} {t : StopTime} (h : Reads value stamp)
    (ht : stamp.map (StopTime.withDelay · (delayOf delay)) = some t) : IsTimeOf value delay t := by
  cases h with
  | none => cases ht
  | some hread => exact ⟨_, _, rfl, hread, (Option.some.inj ht).symm⟩

theorem plannedTimes_ok {l : Leg} {exit : Exit} {planned : Option DateTime × Option DateTime}
    (h : plannedTimes l exit = .ok planned) :
    Reads (l.departure.or l.arrival) planned.1 ∧
      Reads (exit.arrival.or (l.departure.or l.arrival)) planned.2 := by
  unfold plannedTimes at h
  obtain ⟨departure, hdeparture, h⟩ := bind_eq_ok_iff.mp h
  obtain ⟨arrival, harrival, h⟩ := bind_eq_ok_iff.mp h
  obtain ⟨exitArrival, hexitArrival, h⟩ := bind_eq_ok_iff.mp h
  cases h
  have hboarding := (stampOf_ok hdeparture).or (stampOf_ok harrival)
  exact ⟨hboarding, (stampOf_ok hexitArrival).or hboarding⟩

/-! ### Stops on the way -/

/-- A call with a time is a stop with two. -/
theorem Call.stop_ok {c : Call} {s : Stop} (hwaypoint : c.isWaypoint = false)
    (h : c.stop = .ok s) : c.IsStop s := by
  unfold Call.stop at h
  -- either text is absent or a stamp
  obtain ⟨arrival, harrival, h⟩ := bind_eq_ok_iff.mp h
  obtain ⟨departure, hdeparture, h⟩ := bind_eq_ok_iff.mp h
  cases h
  have hreadArrival := stampOf_ok harrival
  have hreadDeparture := stampOf_ok hdeparture
  -- a side is filled where its text is missing, and one of the two texts is there
  cases arrival with
  | none =>
    cases departure with
    | none =>
      unfold Call.isWaypoint at hwaypoint
      rw [hreadArrival.eq_none, hreadDeparture.eq_none] at hwaypoint
      cases hwaypoint
    | some departure =>
      -- the arrival is filled in
      exact ⟨_, _, .departure hreadArrival.eq_none (hreadDeparture.isTimeOf rfl), rfl⟩
  | some arrival =>
    have htime : IsTimeOf c.arrival c.arrivalDelay _ := hreadArrival.isTimeOf rfl
    cases departure with
    | none => exact ⟨_, _, .arrival htime hreadDeparture.eq_none, rfl⟩
    | some departure => exact ⟨_, _, .both htime (hreadDeparture.isTimeOf rfl), rfl⟩

/-- The stops of a ride are its calls with a time. -/
theorem Leg.stopsOf_ok {l : Leg} {stops : List Stop} (h : l.stopsOf = .ok stops) :
    List.Forall₂ Call.IsStop
      ((l.calls.getD []).filter fun c => c.arrival.isSome || c.departure.isSome) stops := by
  unfold Leg.stopsOf at h
  have hfilter : (fun c : Call => !c.isWaypoint) = fun c =>
      c.arrival.isSome || c.departure.isSome := by
    funext c
    unfold Call.isWaypoint
    rw [Bool.not_and, Option.not_isNone, Option.not_isNone]
  have hstep := mapM_eq_ok_iff.mp h
  rw [hfilter] at hstep
  refine forall₂_of_mem hstep fun c hc s _ hstop => Call.stop_ok ?_ hstop
  rw [← Bool.not_eq_true', congrFun hfilter c]
  exact (List.mem_filter.mp hc).2

/-! ### Rides -/

/-- **Each time of a ride is of its own text and has its own delay**, and a time that is missing is
that of the other side. -/
theorem Leg.timesOf_of_interpret {l : Leg} {around : List Disruption} {r : Ride}
    (h : l.interpret around = .ok (some (.ride r))) :
    ∃ exit, l.exit = some exit ∧ l.TimesOf exit r := by
  cases hexit : l.exit with
  | none =>
    rw [Leg.interpret_of_terminal (by rw [Leg.hasExit, hexit]; rfl)] at h
    cases h
  | some exit =>
    refine ⟨exit, rfl, ?_⟩
    obtain ⟨times, leg, htimes, hleg, hresult⟩ := Leg.interpret_ok hexit h
    cases hresult
    -- the times at the ends are read before it is known what kind of leg it is
    obtain ⟨planned, hplanned, htimes⟩ := bind_eq_ok_iff.mp htimes
    cases htimes
    obtain ⟨hboarding, halighting⟩ := plannedTimes_ok hplanned
    unfold legOf at hleg
    split at hleg
    · -- a walk is no ride
      obtain ⟨_, _, _, _, hwalk⟩ := walkOf_ok hleg
      cases hwalk
    · obtain ⟨stops, departureTime, arrivalTime, hstops, hdeparture, harrival, hride⟩ :=
        rideOf_ok hleg
      cases hride
      exact ⟨hboarding.isTimeOf hdeparture, halighting.isTimeOf harrival, hdeparture, harrival, rfl,
        Leg.stopsOf_ok hstops⟩

theorem eq_ok_of_ride? {x : Except ConversionError (Option Itinerary.Leg)} {r : Ride}
    (h : x.toOption.join.bind Itinerary.Leg.ride? = some r) : x = .ok (some (.ride r)) := by
  obtain ⟨leg, hleg, hride⟩ := Option.bind_eq_some_iff.mp h
  cases x with
  | error e => cases hleg
  | ok result =>
    cases leg with
    | walk w => cases hride
    | ride r' =>
      cases hride
      exact congrArg _ (Option.some.inj (Option.join_eq_some_iff.mp hleg))

/-- A call of which nothing is known. -/
def Call.blank : Call where
  stopId := none
  name := none
  lat := none
  lon := none
  arrival := none
  departure := none
  departureDelay := none
  arrivalDelay := none

/-- A train with no time but that of its arrival where one gets on. Of its calls one has both times,
one has none, one lacks the arrival and one the departure, and each has delays of its own. -/
def lateTrain : Leg :=
  { Leg.blank with
    arrival := some "2024-02-29 23:40:00"
    departureDelay := some (.minutes 3)
    arrivalDelay := some (.minutes 30)
    calls := some [
      { Call.blank with
        arrival := some "2024-02-29 23:50:00"
        arrivalDelay := some (.minutes 4)
        departure := some "2024-02-29 23:52:00"
        departureDelay := some (.minutes 5) },
      { Call.blank with departureDelay := some (.text "X") },
      { Call.blank with
        arrivalDelay := some (.minutes 60)
        departure := some "2024-02-29 23:57:00"
        departureDelay := some (.minutes 6) },
      { Call.blank with
        arrival := some "2024-02-29 23:59:00"
        arrivalDelay := some (.minutes 7)
        departureDelay := some (.minutes 90) }]
    exit := some { Exit.atStation "5" "" (some (.minutes 12)) with arrival := none } }

theorem timesOf_lateTrain :
    ∃ exit r, lateTrain.interpret [] = .ok (some (.ride r)) ∧ lateTrain.exit = some exit ∧
      lateTrain.TimesOf exit r ∧ r.departureTime.planned = r.arrivalTime.planned ∧
      r.departureTime.delayMinutes = 3 ∧ r.arrivalTime.delayMinutes = 12 ∧
      (r.stops.map fun s => (s.arrival.map StopTime.delayMinutes,
        s.departure.map StopTime.delayMinutes)) =
          [(some 4, some 5), (some 6, some 6), (some 7, some 7)] := by
  have hshown : ((lateTrain.interpret []).toOption.join.bind Itinerary.Leg.ride?).any (fun r =>
      r.departureTime.planned = r.arrivalTime.planned ∧
      r.departureTime.delayMinutes = 3 ∧ r.arrivalTime.delayMinutes = 12 ∧
      (r.stops.map fun s => (s.arrival.map StopTime.delayMinutes,
        s.departure.map StopTime.delayMinutes)) =
          [(some 4, some 5), (some 6, some 6), (some 7, some 7)]) = true := by decide +kernel
  obtain ⟨r, hr, hshown⟩ := (Option.any_eq_true _ _).mp hshown
  have hride := eq_ok_of_ride? hr
  obtain ⟨exit, hexit, htimes⟩ := Leg.timesOf_of_interpret hride
  exact ⟨exit, r, hride, hexit, htimes, of_decide_eq_true hshown⟩

end Itinerary.Feed
