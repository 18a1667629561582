import Itinerary.Disruption
import Itinerary.Line
import Itinerary.Stop

/-!
# Legs

A trip is made of legs. A leg is a walk between two places or a ride on one line. A ride is only
made from stops that have times, so every leg has a time at either end (`Ride.board`); the two
times are kept with the ride.
-/

namespace Itinerary

/-- A time that a leg cannot do without. -/
inductive MissingTime where
  /-- a walk has no time at all -/
  | walkDeparture
  /-- a walk has no time of arrival -/
  | walkArrival
  /-- the boarding stop has no time -/
  | boardingDeparture
  /-- the alighting stop has no time -/
  | alightingArrival
deriving DecidableEq, Repr

/-- What is missing. -/
def MissingTime.what : MissingTime → String
  | .walkDeparture => "walk departure"
  | .walkArrival => "walk arrival"
  | .boardingDeparture => "boarding departure"
  | .alightingArrival => "alighting arrival"

/-- The wording of a missing time. -/
def MissingTime.message (m : MissingTime) : String := "missing required time data: " ++ m.what

/-! ### Walks and rides -/

/-- A walk between two places. -/
structure Walk where
  departure : Location
  arrival : Location
  departureTime : StopTime
  arrivalTime : StopTime
deriving DecidableEq, Repr

/-- A ride on one line, from boarding to alighting. -/
structure Ride where
  line : Line
  /-- the boarding stop -/
  departure : Stop
  /-- the alighting stop -/
  arrival : Stop
  /-- the stops on the way -/
  stops : List Stop
  /-- the headsign of the vehicle -/
  destination : Option String
  /-- free texts and alerts, one a line -/
  info : Option String
  disruptions : List Disruption
  departureTime : StopTime
  arrivalTime : StopTime
deriving DecidableEq, Repr

namespace Ride

/-- A ride between two stops. The boarding stop has to have a departure or else an arrival, the
alighting stop an arrival or else a departure. -/
def board (line : Line) (departure arrival : Stop) : Except MissingTime Ride :=
  match departure.departureOrArrival, arrival.arrivalOrDeparture with
  | none, _ => .error .boardingDeparture
  | some _, none => .error .alightingArrival
  | some departureTime, some arrivalTime =>
    .ok
      { line, departure, arrival
        stops := []
        destination := none
        info := none
        disruptions := []
        departureTime, arrivalTime }

/-- How many seconds the ride takes by plan. -/
def seconds (r : Ride) : Int := r.departureTime.secondsUntil r.arrivalTime

/-- Whether the ride is cancelled at either end. -/
def isCancelled (r : Ride) : Bool := r.departure.cancelled || r.arrival.cancelled

end Ride

/-! ### Legs -/

/-- A part of a trip. -/
inductive Leg where
  | walk (w : Walk)
  | ride (r : Ride)
deriving DecidableEq, Repr

namespace Leg

/-- Where the leg starts. -/
def origin : Leg → Location
  | walk w => w.departure
  | ride r => r.departure.location

/-- Where the leg ends. -/
def destination : Leg → Location
  | walk w => w.arrival
  | ride r => r.arrival.location

/-- When the leg starts. -/
def departureTime : Leg → StopTime
  | walk w => w.departureTime
  | ride r => r.departureTime

/-- When the leg ends. -/
def arrivalTime : Leg → StopTime
  | walk w => w.arrivalTime
  | ride r => r.arrivalTime

/-- The ride, if the leg is one. -/
def ride? : Leg → Option Ride
  | walk _ => none
  | ride r => some r

/-- Whether the leg is a ride. -/
def isRide : Leg → Bool
  | walk _ => false
  | ride _ => true

/-- Whether the leg is cancelled. Walks never are. -/
def isCancelled : Leg → Bool
  | walk _ => false
  | ride r => r.isCancelled

/-- Whether the leg ends where the other one starts. -/
def meets (a b : Leg) : Bool := a.destination.samePlace b.origin

@[simp] theorem isRide_walk (w : Walk) : (walk w).isRide = false := rfl

@[simp] theorem isRide_ride (r : Ride) : (ride r).isRide = true := rfl

@[simp] theorem ride?_isSome (l : Leg) : l.ride?.isSome = l.isRide := by cases l <;> rfl

end Leg

end Itinerary
