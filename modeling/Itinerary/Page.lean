import Itinerary.Query
import Itinerary.Trip

/-!
# Pages of trips

A response holds one page of trips. What is needed to ask for the page before or after it is a
`PageContext`: the query, the planned departure of the first ride of the last trip, and the
planned arrival of the last ride of the first trip. The later page starts one minute after the
former, the earlier page ends one minute before the latter.
-/

namespace Itinerary

open Calendar

/-- What remains of a page for the steps to its neighbours. -/
structure PageContext where
  query : TripQuery
  /-- the planned departure of the first ride of the last trip -/
  latestDeparture : Option DateTime
  /-- the planned arrival of the last ride of the first trip -/
  earliestArrival : Option DateTime
deriving DecidableEq, Repr

/-- Why there is no step from a page. -/
inductive StepFault where
  /-- the page has no bound on that side -/
  | noBound
  /-- the neighbouring minute lies outside the calendar -/
  | offCalendar
deriving DecidableEq, Repr

namespace PageContext

/-- The context of a page; an empty page has none. -/
def ofTrips (trips : List Trip) (query : TripQuery) : Option PageContext :=
  match trips.head?, trips.getLast? with
  | some first, some last =>
    some
      { query
        latestDeparture := last.firstRide?.map (·.departureTime.planned)
        earliestArrival := first.lastRide?.map (·.arrivalTime.planned) }
  | _, _ => none

/-- Whether the later page can be asked for. -/
def canStepLater (c : PageContext) : Bool := c.latestDeparture.isSome

/-- Whether the earlier page can be asked for. -/
def canStepEarlier (c : PageContext) : Bool := c.earliestArrival.isSome

/-- The query moved to so many minutes from a bound. -/
def stepFrom (c : PageContext) (bound : Option DateTime) (minutes : Int) (timeType : TimeType) :
    Except StepFault TripQuery :=
  match bound with
  | none => .error .noBound
  | some t =>
    match t.addMinutes? minutes with
    | some moment => .ok (c.query.reanchored moment timeType)
    | none => .error .offCalendar

/-- Departures from one minute after the latest departure. -/
def laterQuery (c : PageContext) : Except StepFault TripQuery :=
  c.stepFrom c.latestDeparture 1 .depart

/-- Arrivals up to one minute before the earliest arrival. -/
def earlierQuery (c : PageContext) : Except StepFault TripQuery :=
  c.stepFrom c.earliestArrival (-1) .arrival

/-- The query of the neighbouring page. -/
def nextQuery (c : PageContext) (later : Bool) : Except StepFault TripQuery :=
  if later then c.laterQuery else c.earlierQuery

end PageContext

end Itinerary
