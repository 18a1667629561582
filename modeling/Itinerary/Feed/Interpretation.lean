import Itinerary.Feed.Response
import Itinerary.Trip

/-!
# What the feed means

Here the records of the feed become trips. A leg without an exit only names the destination and
is dropped; the others are walks or rides. Delays are laid over planned times, alerts become
disruptions, and texts and alerts of a ride are joined into its info.

A connection is interpreted by itself. One that cannot be interpreted is left out, and its
position in the response takes its identifier with it.
-/

namespace Itinerary.Feed

open Calendar

/-! ### Errors -/

/-- A time of the feed. -/
inductive TimeField where
  | legDeparture
  /-- the arrival at the boarding place of a leg -/
  | legArrival
  /-- the arrival at the exit of a leg -/
  | exitArrival
  /-- the arrival of a call on the way -/
  | callArrival
  /-- the departure of a call on the way -/
  | callDeparture
deriving DecidableEq, Repr

/-- The name of a time. -/
def TimeField.name : TimeField → String
  | .legDeparture => "leg departure"
  | .legArrival => "leg arrival"
  | .exitArrival => "exit arrival"
  | .callArrival => "stop arrival"
  | .callDeparture => "stop departure"

/-- Why a connection is no trip. -/
inductive ConversionError where
  /-- a time is there but is no stamp -/
  | badTime (field : TimeField) (value : String)
  /-- a leg has not the times it needs -/
  | missing (m : MissingTime)
  /-- the legs make no trip -/
  | assembly (e : AssemblyError)
deriving DecidableEq, Repr

/-- The wording of a conversion error. -/
def ConversionError.message : ConversionError → String
  | .badTime field value => "invalid " ++ field.name ++ " timestamp: " ++ Text.quote value
  | .missing m => m.message
  | .assembly e => e.message

/-- An optional stamp, which has to be one if it is there. -/
def stampOf (field : TimeField) (value : Option String) :
    Except ConversionError (Option DateTime) :=
  match value with
  | none => .ok none
  | some s =>
    match readStamp s with
    | .ok t => .ok (some t)
    | .error _ => .error (.badTime field s)

/-! ### Places, lines and alerts -/

/-- A place of the feed. An empty id is none. -/
def placeOf (isAddress : Bool) (id : Option String) (lat lon : Option Float)
    (name : Option String) : Location where
  kind := if isAddress then .address else .station
  id := id.filter fun i => !i.isEmpty
  coord := Point.ofParts lat lon
  name := name

/-- The place where a leg starts. -/
def Leg.place (l : Leg) : Location := placeOf l.isAddress l.stopId l.lat l.lon l.name

/-- The place where a leg ends. -/
def Exit.place (e : Exit) : Location := placeOf e.isAddress e.stopId e.lat e.lon e.name

/-- The place of a call. -/
def Call.place (c : Call) : Location := placeOf false c.stopId c.lat c.lon c.name

/-- A colour of the feed, or the default if there is none or it is no colour. -/
def colorOr (raw : Option String) (default : Color) : Color :=
  (raw.bind fun s => (Color.ofHex s).toOption).getD default

/-- The line of a ride. -/
def Leg.lineOf (l : Leg) : Line where
  tripNumber := l.tripNumber
  operator := l.operator
  product := (l.productCode.map Product.ofCode).getD .unknown
  label := l.line
  style := ⟨.rect, colorOr l.background .black, colorOr l.foreground .white⟩

/-- An alert as a disruption. A time range that cannot be read is left out. -/
def Alert.disruption (key : String) (a : Alert) : Disruption where
  key := key
  id := a.id
  header := a.header
  lead := a.lead
  text := a.text
  timeRange := a.timeRange.bind TimeRange.ofString?

/-- Alerts as disruptions, in the order of their keys. -/
def disruptionsOf (alerts : Option Alerts) : List Disruption :=
  match alerts with
  | none => []
  | some m => m.entries.map fun (key, a) => a.disruption key

/-- The lines of an info: the notes, then the disruptions, each on a line of its own, and none
for what is blank. -/
def infoLines (notes : List Note) (disruptions : List Disruption) : List String :=
  notes.filterMap (fun n => nonBlank? n.text?) ++ disruptions.filterMap Disruption.summary?

/-- The info of some notes and disruptions. -/
def infoOf (notes : List Note) (disruptions : List Disruption) : Option String :=
  match infoLines notes disruptions with
  | [] => none
  | lines => some (String.intercalate "\n" lines)

/-! ### Legs -/

/-- How a leg of the feed is taken. -/
inductive LegClass where
  /-- as a walk -/
  | walking
  /-- as a ride -/
  | transit
  /-- not at all, since it only names the destination -/
  | terminal
deriving DecidableEq, Repr

/-- The class of a leg by its type and by whether it has an exit. -/
def LegClass.of (kind : Option String) (hasExit : Bool) : LegClass :=
  if !hasExit then .terminal
  else if kind = some "walk" then .walking
  else .transit

/-- The planned times at the two ends of a leg. Boarding is at the departure or else the arrival
at the boarding place, alighting at the arrival of the exit or else at the time of boarding. -/
def plannedTimes (l : Leg) (exit : Exit) :
    Except ConversionError (Option DateTime × Option DateTime) := do
  let departure ← stampOf .legDeparture l.departure
  let arrival ← stampOf .legArrival l.arrival
  let exitArrival ← stampOf .exitArrival exit.arrival
  let boarding := departure.or arrival
  return (boarding, exitArrival.or boarding)

/-- A call on the way as a stop. -/
def Call.stop (c : Call) : Except ConversionError Stop := do
  let arrival ← stampOf .callArrival c.arrival
  let departure ← stampOf .callDeparture c.departure
  let stop : Stop :=
    { Stop.bare c.place with
      arrival := arrival.map (StopTime.withDelay · (delayOf c.arrivalDelay))
      departure := departure.map (StopTime.withDelay · (delayOf c.departureDelay)) }
  return stop.fillSides

/-- The stops of a ride: its calls that have a time. -/
def Leg.stopsOf (l : Leg) : Except ConversionError (List Stop) :=
  ((l.calls.getD []).filter fun c => !c.isWaypoint).mapM Call.stop

/-- A leg taken as a walk. A walk with one time has it at both ends. -/
def walkOf (l : Leg) (exit : Exit) (departure arrival : Option StopTime) :
    Except ConversionError Itinerary.Leg :=
  match departure.or arrival, arrival.or departure with
  | none, _ => .error (.missing .walkDeparture)
  | some _, none => .error (.missing .walkArrival)
  | some departureTime, some arrivalTime =>
    .ok (.walk ⟨l.place, exit.place, departureTime, arrivalTime⟩)

/-- Whether a leg taken as a ride is cancelled: it says so, or the mark stands for one of the
delays at its ends. -/
def Leg.isCancelled (l : Leg) (exit : Exit) : Bool :=
  l.cancelled || (delayOf l.departureDelay).isCancelled || (delayOf exit.arrivalDelay).isCancelled

/-- A leg taken as a ride, inside a connection with its own disruptions. -/
def rideOf (l : Leg) (exit : Exit) (departure arrival : Option StopTime)
    (around : List Disruption) : Except ConversionError Itinerary.Leg := do
  let cancelled := l.isCancelled exit
  let boarding : Stop := { Stop.bare l.place with departure, cancelled }
  let alighting : Stop := { Stop.bare exit.place with arrival, cancelled }
  let stops ← l.stopsOf
  let disruptions := disruptionsOf l.alerts
  let ride ←
    match Ride.board l.lineOf (boarding.withTrack l.track) (alighting.withTrack exit.track) with
    | .ok ride => .ok ride
    | .error m => .error (.missing m)
  return .ride
    { ride with
      stops
      destination := l.terminal
      info := infoOf l.notes (disruptions ++ around)
      disruptions }

/-- A leg of the feed as a leg of a trip, or none if it only names the destination. -/
def Leg.interpret (l : Leg) (around : List Disruption) :
    Except ConversionError (Option Itinerary.Leg) :=
  match LegClass.of l.kind l.exit.isSome, l.exit with
  | .terminal, _ => .ok none
  | _, none => .ok none
  | c, some exit => do
    let (boarding, alighting) ← plannedTimes l exit
    let departure := boarding.map (StopTime.withDelay · (delayOf l.departureDelay))
    let arrival := alighting.map (StopTime.withDelay · (delayOf exit.arrivalDelay))
    let leg ←
      if c = .walking then walkOf l exit departure arrival
      else rideOf l exit departure arrival around
    return some leg

/-! ### Connections -/

/-- The legs of a connection; the first that cannot be interpreted fails it. -/
def interpretLegs (legs : List Leg) (around : List Disruption) :
    Except ConversionError (List Itinerary.Leg) := do
  let legs ← legs.mapM fun l => l.interpret around
  return legs.filterMap id

/-- A connection as a trip. -/
def Connection.interpret (c : Connection) (id : TripId) : Except ConversionError Trip := do
  let disruptions := disruptionsOf c.alerts
  let legs ← interpretLegs c.legs disruptions
  match Trip.assemble id legs disruptions with
  | .ok trip => .ok trip
  | .error e => .error (.assembly e)

/-- The trips of a list of connections, one after the other, and the generator behind them. Every
connection takes an identifier, also one that is left out. -/
def interpretAll {σ : Type} [IdGenerator σ] (ids : σ) : List Connection → List Trip × σ
  | [] => ([], ids)
  | c :: rest =>
    let (id, ids) := IdGenerator.nextId ids
    let (trips, ids) := interpretAll ids rest
    match c.interpret id with
    | .ok trip => (trip :: trips, ids)
    | .error _ => (trips, ids)

/-- The trips of a list of connections, each with an identifier of the supply. -/
def tripsOf (ids : IdSupply) (connections : List Connection) : List Trip :=
  (interpretAll (IdSupply.Opened.mk ids 0) connections).1

/-! ### Suggestions -/

/-- Whether a text occurs in another one. -/
def occursIn (part : List Char) : List Char → Bool
  | [] => part.isEmpty
  | c :: cs => part.isPrefixOf (c :: cs) || occursIn part cs

/-- The place of a suggestion, if it has an id or a label. -/
def Suggestion.location? (s : Suggestion) : Option Location :=
  let id := s.id.filter fun i => !i.isEmpty
  let name := s.label.filter fun l => !Text.isBlankText l
  if id.isNone && name.isNone then none
  else
    let isAddress := s.icon.any fun icon => occursIn ['a', 'd', 'r'] icon.toList
    some
      { kind := if isAddress then .address else if id.isSome then .station else .any
        id
        coord := Point.ofParts s.lat s.lon
        name }

end Itinerary.Feed
