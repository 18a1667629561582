import Itinerary.Proofs.Calendar.Shown
import Itinerary.Proofs.Feed.Sources
import Itinerary.Proofs.Service.Response
import Itinerary.Proofs.Stop.Shown

/-!
# What a caller is shown agrees with itself

A caller sees the same things of a trip twice. A time is shown as two texts and as the minutes
between them, but the texts are cut off behind the minute and the minutes are cut off toward zero.
The changes, the cancellation and the ends of a trip are computed from the trip, and its legs are
shown beside them.

The texts and the minutes agree as long as the two times are whole minutes apart
(`TimeEntry.isConsistent_of`). A delay laid over a time leads that far and no further, or nowhere at
all (`StopTime.exists_isApart_withDelay`), and every time of a trip is a text of its connection with
a delay laid over it (`Feed.Connection.forall_mem_times_of_interpret`). Only a leap second is left
by less than a minute, so the texts of the connection must not name one. What else is shown twice is
the same question asked of the legs and of their entries, and these are in step.
-/

namespace Itinerary

open Calendar

/-! ### Times that are minutes apart -/

/-- Whether the expected time is so many whole minutes from a planned one in no leap second. -/
structure StopTime.IsApart (t : StopTime) (n : Int) : Prop where
  isLeap : t.planned.clock.isLeap = false
  moved : t.planned.addMinutes? n = some t.expected

/-- Outside of leap seconds a time with a delay is whole minutes from the one without. -/
theorem StopTime.exists_isApart_withDelay {planned : DateTime}
    (hleap : planned.clock.isLeap = false) (delay : Delay) :
    ∃ n, (withDelay planned delay).IsApart n := by
  by_cases h : planned.Reaches delay.offset
  · exact ⟨delay.offset, hleap, (delayed_of_reaches hleap h).1⟩
  · -- a delay that leads out of the calendar leads nowhere, which is no minutes far
    have hstays : (withDelay planned delay).expected = planned :=
      delayed_of_not_reaches hleap h
    refine ⟨0, hleap, ?_⟩
    rw [hstays, DateTime.addMinutes?, if_pos rfl]
    rfl

theorem minutesSince_of_not_isLeap {planned expected : DateTime} {n : Int}
    (hleap : planned.clock.isLeap = false) (h : planned.addMinutes? n = some expected) :
    expected.minutesSince planned = n := by
  refine minutesSince_of_not_missesLeapSecond h fun hmisses => ?_
  exact Bool.false_ne_true (hleap.symm.trans hmisses.1)

namespace Feed

/-- Whether no text of a connection names a moment in a leap second. -/
def Connection.AvoidsLeapSeconds (c : Connection) : Prop :=
  ∀ text ∈ c.stampTexts, ∀ moment, readStamp text.2 = .ok moment → moment.clock.isLeap = false

theorem Connection.exists_isApart {c : Connection} {id : TripId} {t : Trip}
    (h : c.interpret id = .ok t) (hleap : c.AvoidsLeapSeconds) {leg : Itinerary.Leg}
    (hleg : leg ∈ t.legs) {time : StopTime} (htime : time ∈ leg.times) : ∃ n, time.IsApart n := by
  obtain ⟨-, hread⟩ := Connection.forall_mem_times_of_interpret h leg hleg
  obtain ⟨text, htext, planned, delay, hplanned, rfl⟩ := hread time htime
  exact StopTime.exists_isApart_withDelay (hleap text htext planned hplanned) delay

end Feed

namespace Service

/-! ### Times -/

/-- Whether a time entry agrees with itself. Its texts are read back as two minutes, of which the
expected one is as many minutes behind the planned one as the delay says, and where so many steps of
the calendar lead from there. -/
def TimeEntry.IsConsistent (e : TimeEntry) : Prop :=
  ∃ planned expected, shownMinute.read e.planned = some planned ∧
    shownMinute.read e.expected = some expected ∧
    expected.minutesSince planned = e.delayMinutes ∧
    Minute.of expected = (Minute.of planned).shift e.delayMinutes

/-- **The texts are as far apart as the times.** -/
theorem TimeEntry.isConsistent_of {t : StopTime} {n : Int} (h : t.IsApart n) :
    (TimeEntry.of t).IsConsistent := by
  have hdelay : (TimeEntry.of t).delayMinutes = n := minutesSince_of_not_isLeap h.isLeap h.moved
  -- both texts are short of the same seconds, so what they are read as is no nearer together
  have hshown := DateTime.addMinutes?_truncated h.isLeap h.moved
  have hminute := DateTime.isLeap_truncated t.planned
  refine ⟨_, _, shownMinute_read_write t.planned, shownMinute_read_write t.expected, ?_, ?_⟩
  · rw [hdelay]
    exact minutesSince_of_not_isLeap hminute hshown
  · rw [hdelay]
    exact (DateTime.isMoved_of_addMinutes? hminute hshown).minute

/-- The times of a stop entry. -/
def StopEntry.times (e : StopEntry) : List TimeEntry := e.arrival.toList ++ e.departure.toList

theorem StopEntry.times_of (s : Stop) : (StopEntry.of s).times = s.times.map TimeEntry.of := by
  show (s.arrival.map TimeEntry.of).toList ++ (s.departure.map TimeEntry.of).toList = _
  rw [Option.toList_map, Option.toList_map, Stop.times, List.map_append]

/-! ### Legs -/

namespace LegEntry

/-- Whether the entry is that of a ride. -/
def isTransit : LegEntry → Bool
  | walk _ => false
  | transit _ => true

/-- Whether the entry is that of a cancelled ride. -/
def isCancelled : LegEntry → Bool
  | walk _ => false
  | transit r => r.cancelled

/-- The departure that the entry shows: that of a walk, or that at the first stop of a ride. -/
def departure? : LegEntry → Option TimeEntry
  | walk w => some w.departure
  | transit r => r.departure.departure

/-- The arrival that the entry shows: that of a walk, or that at the last stop of a ride. -/
def arrival? : LegEntry → Option TimeEntry
  | walk w => some w.arrival
  | transit r => r.arrival.arrival

/-- The times of a leg entry. -/
def times : LegEntry → List TimeEntry
  | walk w => [w.departure, w.arrival]
  | transit r => r.departure.times ++ (r.arrival.times ++ r.stops.flatMap StopEntry.times)

/-- Whether an entry is that of a leg, under the name of its kind. -/
structure Shows (e : LegEntry) (l : Leg) : Prop where
  eq_of : e = of l
  isTransit : e.isTransit = l.isRide
  tag : textMember? "type" e.toJson = some (if l.isRide then "transit" else "walk")

theorem shows_of (l : Leg) : (of l).Shows l := by
  cases l with
  | walk w => exact ⟨rfl, rfl, by simp [of, toJson]⟩
  | ride r => exact ⟨rfl, rfl, by simp [of, toJson]⟩

theorem isTransit_of (l : Leg) : (of l).isTransit = l.isRide := (shows_of l).isTransit

theorem isCancelled_of (l : Leg) : (of l).isCancelled = l.isCancelled := by cases l <;> rfl

theorem departure?_of {l : Leg} (h : l.ShowsEnds) :
    (of l).departure? = some (TimeEntry.of l.departureTime) := by
  cases l with
  | walk w => rfl
  | ride r => exact congrArg (Option.map TimeEntry.of) h.1

theorem arrival?_of {l : Leg} (h : l.ShowsEnds) :
    (of l).arrival? = some (TimeEntry.of l.arrivalTime) := by
  cases l with
  | walk w => rfl
  | ride r => exact congrArg (Option.map TimeEntry.of) h.2

theorem times_of (l : Leg) : (of l).times = l.times.map TimeEntry.of := by
  cases l with
  | walk w => rfl
  | ride r =>
    show (StopEntry.of r.departure).times ++ ((StopEntry.of r.arrival).times ++
      (r.stops.map StopEntry.of).flatMap StopEntry.times) = _
    rw [Leg.times, List.map_append, List.map_append, List.map_flatMap, List.flatMap_map]
    simp only [StopEntry.times_of]

end LegEntry

/-! ### Trips -/

namespace TripEntry

/-- Every time that a trip entry shows: its own and those of its legs. -/
def times (e : TripEntry) : List TimeEntry :=
  e.departure :: e.arrival :: e.legs.flatMap LegEntry.times

/-- Whether a trip entry agrees with itself. -/
structure IsConsistent (e : TripEntry) : Prop where
  /-- there is one transit entry more than there are changes -/
  transfers : e.transfers + 1 = e.legs.countP LegEntry.isTransit
  /-- the trip is cancelled if one of its transit entries is -/
  cancelled : e.cancelled = e.legs.any LegEntry.isCancelled
  /-- the trip departs as its first entry does -/
  departure : ∃ first, e.legs.head? = some first ∧ first.departure? = some e.departure
  /-- the trip arrives as its last entry does -/
  arrival : ∃ last, e.legs.getLast? = some last ∧ last.arrival? = some e.arrival
  /-- the texts of every time are as far apart as its delay says -/
  times : ∀ time ∈ e.times, time.IsConsistent

theorem transfers_of (t : Trip) :
    (of t).transfers + 1 = (of t).legs.countP LegEntry.isTransit := by
  show t.transfers + 1 = (t.legs.map LegEntry.of).countP LegEntry.isTransit
  -- entry by entry, a transit is the entry of a ride
  rw [t.transfers_add_one, List.countP_map]
  exact List.countP_congr fun l _ => by rw [Function.comp_apply, LegEntry.isTransit_of]

theorem cancelled_of (t : Trip) : (of t).cancelled = (of t).legs.any LegEntry.isCancelled := by
  show t.legs.any Leg.isCancelled = (t.legs.map LegEntry.of).any LegEntry.isCancelled
  rw [List.any_map]
  exact congrArg t.legs.any (funext fun l => (LegEntry.isCancelled_of l).symm)

section

variable {t : Trip} (h : ∀ l ∈ t.legs, l.ShowsEnds)

include h

theorem departure_of :
    ∃ first, (of t).legs.head? = some first ∧ first.departure? = some (of t).departure := by
  have hhead : t.legs.head? = some t.firstLeg := List.head?_eq_some_head t.legs_ne_nil
  refine ⟨LegEntry.of t.firstLeg, ?_, ?_⟩
  · show (t.legs.map LegEntry.of).head? = _
    rw [List.head?_map, hhead, Option.map_some]
  · exact LegEntry.departure?_of (h _ (List.mem_of_mem_head? hhead))

theorem arrival_of :
    ∃ last, (of t).legs.getLast? = some last ∧ last.arrival? = some (of t).arrival := by
  have hlast : t.legs.getLast? = some t.lastLeg := List.getLast?_eq_some_getLast t.legs_ne_nil
  refine ⟨LegEntry.of t.lastLeg, ?_, ?_⟩
  · show (t.legs.map LegEntry.of).getLast? = _
    rw [List.getLast?_map, hlast, Option.map_some]
  · exact LegEntry.arrival?_of (h _ (List.mem_of_getLast? hlast))

/-- Every time of a trip entry is a time of one of the legs. -/
theorem exists_of_mem_times {time : TimeEntry} (htime : time ∈ (of t).times) :
    ∃ l ∈ t.legs, ∃ shown ∈ l.times, time = TimeEntry.of shown := by
  have hfirst : t.firstLeg ∈ t.legs := List.head_mem t.legs_ne_nil
  have hlast : t.lastLeg ∈ t.legs := List.getLast_mem t.legs_ne_nil
  -- the two times of the trip itself are also times of its first and its last leg
  rcases List.mem_cons.mp htime with rfl | htime
  · exact ⟨t.firstLeg, hfirst, _, Leg.departureTime_mem_times (h _ hfirst), rfl⟩
  rcases List.mem_cons.mp htime with rfl | htime
  · exact ⟨t.lastLeg, hlast, _, Leg.arrivalTime_mem_times (h _ hlast), rfl⟩
  · obtain ⟨e, he, htime⟩ := List.mem_flatMap.mp htime
    obtain ⟨l, hl, rfl⟩ := List.mem_map.mp he
    rw [LegEntry.times_of] at htime
    obtain ⟨shown, hshown, rfl⟩ := List.mem_map.mp htime
    exact ⟨l, hl, shown, hshown, rfl⟩

end

/-- **What is shown of a trip agrees with itself**, if no text of its connection names a leap
second. The legs appear in order, each under the name of its kind. The changes, the cancellation and
the times at both ends are those of the entries of the legs. And the two texts of a time, wherever
it stands, are as many minutes apart as the delay beside them says, whatever seconds they leave out
and whichever ends of days, months and years lie between them. -/
theorem isConsistent_of_interpret {c : Feed.Connection} {id : TripId} {t : Trip}
    (h : c.interpret id = .ok t) (hleap : c.AvoidsLeapSeconds) :
    List.Forall₂ (fun l e => LegEntry.Shows e l) t.legs (of t).legs ∧ (of t).IsConsistent := by
  -- every ride shows a time at either end, since it was boarded and left there
  have hends : ∀ l ∈ t.legs, l.ShowsEnds := fun l hl =>
    (Feed.Connection.forall_mem_times_of_interpret h l hl).1
  refine ⟨?legs, transfers_of t, cancelled_of t, departure_of hends, arrival_of hends, ?times⟩
  case legs =>
    show List.Forall₂ _ t.legs (t.legs.map LegEntry.of)
    rw [List.forall₂_map_right_iff, List.forall₂_same]
    exact fun l _ => LegEntry.shows_of l
  case times =>
    intro time htime
    -- every time that is shown is one of a leg, and that is one of a text with its delay
    obtain ⟨l, hl, shown, hshown, rfl⟩ := exists_of_mem_times hends htime
    obtain ⟨n, hn⟩ := Feed.Connection.exists_isApart h hleap hl hshown
    exact TimeEntry.isConsistent_of hn

end TripEntry

end Service

namespace Feed

/-- A walk and a train around the turn of a year and around a leap day. The train leaves late into
the new year and arrives early on the day before; of its calls one is reached in the old year again,
and the other is left a day late. A leg behind them that ends nowhere names a leap second. -/
def newYearTrain : Connection where
  origin := none
  destination := none
  duration := none
  departure := none
  arrival := none
  alerts := none
  legs := [
    { Leg.blank with
      kind := some "walk"
      stopId := some "1"
      departure := some "2023-12-31 23:40:50"
      exit := some (Exit.atStation "2" "2023-12-31 23:45:10" none) },
    { Leg.blank with
      kind := some "train"
      stopId := some "2"
      departure := some "2023-12-31 23:58:45"
      departureDelay := some (.minutes 3)
      calls := some [
        { Call.blank with
          arrival := some "2024-01-01 00:01:59"
          arrivalDelay := some (.text "-2")
          departure := some "2024-02-28 23:59:30"
          departureDelay := some (.text "+1440") }]
      exit := some (Exit.atStation "3" "2024-03-01 00:00:30" (some (.minutes (-1)))) },
    { Leg.blank with name := some "3", departure := some "2016-12-31 23:59:60" }]

theorem avoidsLeapSeconds_newYearTrain : newYearTrain.AvoidsLeapSeconds := by
  have hall : (newYearTrain.stampTexts.all fun text =>
      (readStamp text.2).toOption.all fun moment => !moment.clock.isLeap) = true := by
    decide +kernel
  intro text htext moment hmoment
  have hmoment' := List.all_eq_true.mp hall text htext
  rw [hmoment] at hmoment'
  exact (Bool.not_eq_true' _).mp hmoment'

end Feed

namespace Service

theorem TripEntry.isConsistent_newYearTrain :
    ∃ t, Feed.newYearTrain.interpret ⟨"trip-0"⟩ = .ok t ∧ Feed.newYearTrain.AvoidsLeapSeconds ∧
      List.Forall₂ (fun l e => LegEntry.Shows e l) t.legs (of t).legs ∧ (of t).IsConsistent ∧
      (of t).legs.flatMap LegEntry.times = [
        ⟨"2023-12-31 23:40", "2023-12-31 23:40", 0⟩, ⟨"2023-12-31 23:45", "2023-12-31 23:45", 0⟩,
        ⟨"2023-12-31 23:58", "2024-01-01 00:01", 3⟩, ⟨"2024-03-01 00:00", "2024-02-29 23:59", -1⟩,
        ⟨"2024-01-01 00:01", "2023-12-31 23:59", -2⟩,
        ⟨"2024-02-28 23:59", "2024-02-29 23:59", 1440⟩] := by
  have htimes : (Feed.newYearTrain.interpret ⟨"trip-0"⟩).map
      (fun t => (of t).legs.flatMap LegEntry.times) = .ok [
        ⟨"2023-12-31 23:40", "2023-12-31 23:40", 0⟩, ⟨"2023-12-31 23:45", "2023-12-31 23:45", 0⟩,
        ⟨"2023-12-31 23:58", "2024-01-01 00:01", 3⟩, ⟨"2024-03-01 00:00", "2024-02-29 23:59", -1⟩,
        ⟨"2024-01-01 00:01", "2023-12-31 23:59", -2⟩,
        ⟨"2024-02-28 23:59", "2024-02-29 23:59", 1440⟩] := by decide +kernel
  obtain ⟨t, ht, htimes⟩ := map_eq_ok_iff.mp htimes
  have hleap := Feed.avoidsLeapSeconds_newYearTrain
  obtain ⟨hlegs, hconsistent⟩ := isConsistent_of_interpret ht hleap
  exact ⟨t, ht, hleap, hlegs, hconsistent, htimes⟩

end Service

end Itinerary
