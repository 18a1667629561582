import Itinerary.Calendar.Formats
import Itinerary.Place

/-!
# Queries

A query asks for trips between two places, perhaps by way of a third, that leave after a time or
arrive before it. It is sent to the provider as a list of parameters in a fixed order; every
place of the query has to have a term for that.
-/

namespace Itinerary

open Calendar

/-- Which end of a trip the time of a query bounds. -/
inductive TimeType where
  /-- trips leave at the time or later -/
  | depart
  /-- trips arrive at the time or earlier -/
  | arrival
deriving DecidableEq, Repr

/-- The name of a time type, for the provider and in stored form. -/
def TimeType.name : TimeType → String
  | .depart => "depart"
  | .arrival => "arrival"

/-- What is asked for besides the trips themselves. -/
structure TripOptions where
  maxTrips : UInt32
  showDelays : Bool
  showTrackChanges : Bool
deriving DecidableEq, Repr

/-- Eight trips with delays and changes of track. -/
def TripOptions.standard : TripOptions := ⟨8, true, true⟩

/-- A search for trips. -/
structure TripQuery where
  origin : Location
  destination : Location
  /-- a place the trip passes -/
  via : Option Location
  moment : DateTime
  /-- which end of the trip the time bounds -/
  timeType : TimeType
  /-- what else is asked for -/
  options : TripOptions
deriving DecidableEq, Repr

/-- The part that a place plays in a query. -/
inductive Role where
  | origin
  | destination
  | via
deriving DecidableEq, Repr

/-- The parameter of a role. -/
def Role.name : Role → String
  | .origin => "from"
  | .destination => "to"
  | .via => "via"

/-- A place of a query that has no term. -/
structure Unresolvable where
  role : Role
deriving DecidableEq, Repr

/-- The wording of an unresolvable place. -/
def Unresolvable.message (e : Unresolvable) : String :=
  e.role.name ++ " location has no id, coordinate or name"

/-- A parameter: its name and its value. -/
abbrev Parameter := String × String

namespace TripQuery

/-- Trips that leave at the time or later. -/
def departing (origin destination : Location) (moment : DateTime) : TripQuery :=
  ⟨origin, destination, none, moment, .depart, .standard⟩

/-- Trips that arrive at the time or earlier. -/
def arriving (origin destination : Location) (moment : DateTime) : TripQuery :=
  ⟨origin, destination, none, moment, .arrival, .standard⟩

/-- The same query for another time. -/
def reanchored (q : TripQuery) (moment : DateTime) (timeType : TimeType) : TripQuery :=
  { q with moment, timeType }

/-- The parameter that names a place. -/
def placeParameter (role : Role) (place : Location) : Except Unresolvable Parameter :=
  match place.term? with
  | some term => .ok (role.name, term)
  | none => .error ⟨role⟩

/-- The parameters for the time and the options. -/
def timeParameters (q : TripQuery) : List Parameter :=
  let flag (on : Bool) : String := if on then "1" else "0"
  [("date", slashedDate.write q.moment),
    ("time", hourMinute.write q.moment),
    ("time_type", q.timeType.name),
    ("num", toString q.options.maxTrips.toNat),
    ("show_delays", flag q.options.showDelays),
    ("show_trackchanges", flag q.options.showTrackChanges)]

/-- The parameters of a query. -/
def parameters (q : TripQuery) : Except Unresolvable (List Parameter) := do
  let origin ← placeParameter .origin q.origin
  let destination ← placeParameter .destination q.destination
  let via ←
    match q.via with
    | some place => (placeParameter .via place).map ([·])
    | none => .ok []
  return origin :: destination :: via ++ q.timeParameters

end TripQuery

end Itinerary
