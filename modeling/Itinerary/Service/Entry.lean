import Itinerary.Stored.Query
import Itinerary.Stored.Service

/-!
# What callers are shown

A caller sees a trip as entries: times by the minute beside their delay, every place with a name,
colours as text, and durations in minutes. An entry is made from one thing of the domain and
keeps its order: a trip entry has one leg entry per leg, a ride entry one stop entry per stop.

Each entry is first a record of its own and then JSON, so what is shown can be talked about
without the text it is shown in.
-/

namespace Itinerary.Service

open Json

/-! ### Entries -/

/-- A planned time and what is expected instead. -/
structure TimeEntry where
  planned : String
  expected : String
  delayMinutes : Int
deriving DecidableEq, Repr

/-- The entry of a time. -/
def TimeEntry.of (t : StopTime) : TimeEntry where
  planned := Calendar.shownMinute.write t.planned
  expected := Calendar.shownMinute.write t.expected
  delayMinutes := t.delayMinutes

/-- A place. -/
structure PlaceEntry where
  kind : LocationKind
  id : Option String
  name : String
  coord : Option Point
deriving DecidableEq, Repr

/-- The entry of a place. -/
def PlaceEntry.of (l : Location) : PlaceEntry where
  kind := l.kind
  id := l.id
  name := l.display
  coord := l.coord

/-- A stop of a ride. -/
structure StopEntry where
  place : PlaceEntry
  arrival : Option TimeEntry
  departure : Option TimeEntry
  track : Option String
  /-- whether the ride leaves it out -/
  cancelled : Bool
deriving DecidableEq, Repr

/-- The entry of a stop. -/
def StopEntry.of (s : Stop) : StopEntry where
  place := .of s.location
  arrival := s.arrival.map .of
  departure := s.departure.map .of
  track := s.track
  cancelled := s.cancelled

/-- A line. -/
structure LineEntry where
  label : Option String
  product : Product
  operator : Option String
  tripNumber : Option String
  background : String
  foreground : String
deriving DecidableEq, Repr

/-- The entry of a line. -/
def LineEntry.of (l : Line) : LineEntry where
  label := l.label
  product := l.product
  operator := l.operator
  tripNumber := l.tripNumber
  background := l.style.background.hex
  foreground := l.style.foreground.hex

/-- A walk. -/
structure WalkEntry where
  origin : PlaceEntry
  destination : PlaceEntry
  departure : TimeEntry
  arrival : TimeEntry
  durationMinutes : Int
deriving DecidableEq, Repr

/-- The entry of a walk. -/
def WalkEntry.of (w : Walk) : WalkEntry where
  origin := .of w.departure
  destination := .of w.arrival
  departure := .of w.departureTime
  arrival := .of w.arrivalTime
  durationMinutes := w.departureTime.minutesUntil w.arrivalTime

/-- A ride. -/
structure RideEntry where
  line : LineEntry
  /-- the headsign -/
  destination : Option String
  departure : StopEntry
  arrival : StopEntry
  /-- the stops in between -/
  stops : List StopEntry
  info : Option String
  cancelled : Bool
  disruptions : List Disruption
deriving DecidableEq, Repr

/-- The entry of a ride. -/
def RideEntry.of (r : Ride) : RideEntry where
  line := .of r.line
  destination := r.destination
  departure := .of r.departure
  arrival := .of r.arrival
  stops := r.stops.map .of
  info := r.info
  cancelled := r.isCancelled
  disruptions := r.disruptions

/-- A leg. -/
inductive LegEntry where
  | walk (w : WalkEntry)
  | transit (r : RideEntry)
deriving DecidableEq, Repr

/-- The entry of a leg. -/
def LegEntry.of : Leg → LegEntry
  | .walk w => .walk (.of w)
  | .ride r => .transit (.of r)

/-- A trip. -/
structure TripEntry where
  id : String
  origin : PlaceEntry
  destination : PlaceEntry
  departure : TimeEntry
  arrival : TimeEntry
  durationMinutes : Int
  transfers : Nat
  /-- whether a ride is cancelled -/
  cancelled : Bool
  legs : List LegEntry
  /-- the alerts of the whole trip -/
  disruptions : List Disruption
deriving DecidableEq, Repr

/-- The entry of a trip. -/
def TripEntry.of (t : Trip) : TripEntry where
  id := t.id.text
  origin := .of t.origin
  destination := .of t.destination
  departure := .of t.departureTime
  arrival := .of t.arrivalTime
  durationMinutes := t.departureTime.minutesUntil t.arrivalTime
  transfers := t.transfers
  cancelled := t.isCancelled
  legs := t.legs.map .of
  disruptions := t.disruptions

/-! ### Entries as JSON -/

/-- A time entry as a record. -/
def TimeEntry.toJson (e : TimeEntry) : Value :=
  .record [
    ("planned", .string e.planned),
    ("expected", .string e.expected),
    ("delay_mins", .int e.delayMinutes)]

/-- A place entry as a record. -/
def PlaceEntry.toJson (e : PlaceEntry) : Value :=
  .record [
    ("kind", .string e.kind.name),
    ("id", .optional .string e.id),
    ("name", .string e.name),
    ("lat", .optional .float (e.coord.map Point.lat)),
    ("lon", .optional .float (e.coord.map Point.lon))]

/-- A stop entry as a record. -/
def StopEntry.toJson (e : StopEntry) : Value :=
  .record [
    ("location", e.place.toJson),
    ("arrival", .optional TimeEntry.toJson e.arrival),
    ("departure", .optional TimeEntry.toJson e.departure),
    ("track", .optional .string e.track),
    ("cancelled", .bool e.cancelled)]

/-- A line entry as a record. -/
def LineEntry.toJson (e : LineEntry) : Value :=
  .record [
    ("label", .optional .string e.label),
    ("product", e.product.toJson),
    ("operator", .optional .string e.operator),
    ("trip_number", .optional .string e.tripNumber),
    ("background", .string e.background),
    ("foreground", .string e.foreground)]

/-- A leg entry as a record, its kind first. -/
def LegEntry.toJson : LegEntry → Value
  | .walk w =>
    .record [
      ("type", .string "walk"),
      ("from", w.origin.toJson),
      ("to", w.destination.toJson),
      ("departure", w.departure.toJson),
      ("arrival", w.arrival.toJson),
      ("duration_mins", .int w.durationMinutes)]
  | .transit r =>
    .record [
      ("type", .string "transit"),
      ("line", r.line.toJson),
      ("destination", .optional .string r.destination),
      ("departure", r.departure.toJson),
      ("arrival", r.arrival.toJson),
      ("stops", .listOf StopEntry.toJson r.stops),
      ("info", .optional .string r.info),
      ("cancelled", .bool r.cancelled),
      ("disruptions", .listOf Disruption.toJson r.disruptions)]

/-- A trip entry as a record. -/
def TripEntry.toJson (e : TripEntry) : Value :=
  .record [
    ("id", .string e.id),
    ("origin", e.origin.toJson),
    ("destination", e.destination.toJson),
    ("departure", e.departure.toJson),
    ("arrival", e.arrival.toJson),
    ("duration_mins", .int e.durationMinutes),
    ("transfers", .int e.transfers),
    ("cancelled", .bool e.cancelled),
    ("legs", .listOf LegEntry.toJson e.legs),
    ("disruptions", .listOf Disruption.toJson e.disruptions)]

end Itinerary.Service
