import Itinerary.Calendar.DateTime
import Itinerary.Delay
import Itinerary.Place

/-!
# Stops

A stop is a call at a place: where a ride begins or ends, or where it stops on the way. Each side
of a call, arrival and departure, has a planned time and the time expected with the reported
delay.
-/

namespace Itinerary

open Calendar

/-! ### Planned and expected times -/

/-- The planned time moved by so many minutes; where the calendar does not reach, the planned
time itself. -/
def delayed (planned : DateTime) (minutes : Int) : DateTime :=
  (planned.addMinutes? minutes).getD planned

/-- A planned time with its expectation. -/
structure StopTime where
  /-- the time of the timetable -/
  planned : DateTime
  /-- the time with the reported delay -/
  expected : DateTime
deriving DecidableEq, Repr

namespace StopTime

/-- A time without a reported delay. -/
def onTime (planned : DateTime) : StopTime := ⟨planned, planned⟩

/-- A planned time with a delay laid over it. -/
def withDelay (planned : DateTime) (delay : Delay) : StopTime :=
  ⟨planned, delayed planned delay.offset⟩

/-- The whole minutes between plan and expectation. -/
def delayMinutes (t : StopTime) : Int := t.expected.minutesSince t.planned

/-- The planned seconds from one time to another, whole and rounded toward zero. -/
def secondsUntil (start finish : StopTime) : Int := finish.planned.secondsSince start.planned

/-- The planned minutes from one time to another, whole and rounded toward zero. -/
def minutesUntil (start finish : StopTime) : Int := finish.planned.minutesSince start.planned

end StopTime

/-! ### Stops -/

/-- A call at a place. -/
structure Stop where
  location : Location
  /-- the arrival, if known -/
  arrival : Option StopTime
  /-- the departure, if known -/
  departure : Option StopTime
  track : Option String
  cancelled : Bool
deriving DecidableEq, Repr

namespace Stop

/-- A call of which only the place is known. -/
def bare (location : Location) : Stop := ⟨location, none, none, none, false⟩

/-- The call with a track, if the text is not blank, and without one otherwise. -/
def withTrack (s : Stop) (track : Option String) : Stop :=
  { s with track := track.filter fun t => !Text.isBlankText t }

/-- The call with a missing side taken from the other one: both then mean the same moment. -/
def fillSides (s : Stop) : Stop :=
  { s with arrival := s.arrival.or s.departure, departure := s.departure.or s.arrival }

/-- The arrival, else the departure. -/
def arrivalOrDeparture (s : Stop) : Option StopTime := s.arrival.or s.departure

/-- The departure, else the arrival. -/
def departureOrArrival (s : Stop) : Option StopTime := s.departure.or s.arrival

end Stop

end Itinerary
