import Itinerary.Delay
import Itinerary.Json.Reader
import Itinerary.Keyed

/-!
# The records of the timetable feed

The timetable provider answers in records of its own. They are read leniently: nearly every field
may be absent or null, unknown fields are passed over, ids and tracks come as texts or as
numbers, a delay as a number or a text, an info text bare or wrapped in an object, and the alerts
of a connection as an object by key or, when there are none, as an empty list.

Nothing is interpreted here. Times stay texts, delays keep the form they came in.
-/

namespace Itinerary.Feed

open Json

/-! ### Lenient values -/

/-- A text, or a number taken as its text: integers in decimal, all else as a double in display
form. -/
def looseText : Reader String := fun room v =>
  match v with
  | .number n =>
    match n.integer?.bind Decimal.fit64 with
    | some i => some (String.ofList (Decimal.intText i))
    | none => n.float?.map Decimal.display
  | v => Reader.string room v

/-- A delay as it came. -/
inductive DelayMark where
  | minutes (n : Int)
  | text (s : String)
deriving DecidableEq, Repr

namespace DelayMark

/-- Reads a delay: an integer or a text. -/
def reader : Reader DelayMark := fun room v =>
  match v with
  | .text _ => (Reader.string room v).map text
  | v => (Reader.int64 room v).map minutes

/-- The delay that a mark reports. -/
def delay : DelayMark → Delay
  | minutes n => .minutes n
  | text s => Delay.ofText s

end DelayMark

/-- The delay of an optional mark. -/
def delayOf (mark : Option DelayMark) : Delay := (mark.map DelayMark.delay).getD .absent

/-- An info text as it came. -/
inductive Note where
  | plain (s : String)
  /-- an object that may have a text -/
  | wrapped (s : Option String)
deriving DecidableEq, Repr

namespace Note

/-- The text of a note, if it has one. -/
def text? : Note → Option String
  | plain s => some s
  | wrapped s => s

/-- The field of a note in object form. -/
def shape : Shape := .all ["text"]

/-- Reads a note. The object form is no list. -/
def reader : Reader Note := Reader.whole fun room v =>
  match room, v with
  | _, .text l => l.plain?.map plain
  | room + 1, .object members =>
    (shape.ofMembers room members).bind fun f =>
      (f.optional "text" Reader.string).map wrapped
  | _, _ => none

end Note

/-! ### Alerts -/

/-- An alert. -/
structure Alert where
  id : Option String
  header : Option String
  lead : Option String
  text : Option String
  /-- when the alert holds, as a text -/
  timeRange : Option String
deriving DecidableEq, Repr

/-- The fields of an alert. -/
def Alert.shape : Shape := .all ["id", "header", "lead", "text", "timerange"]

/-- Reads an alert. -/
def Alert.reader : Reader Alert :=
  Reader.record Alert.shape fun f => do
    return {
      id := ← f.optional "id" looseText
      header := ← f.optional "header" Reader.string
      lead := ← f.optional "lead" Reader.string
      text := ← f.optional "text" Reader.string
      timeRange := ← f.optional "timerange" Reader.string }

/-- Alerts by key. -/
abbrev Alerts := Keyed Alert

/-- Reads an alert with its key. -/
def Alerts.entry (room : Nat) (member : Literal × Value) : Option (String × Alert) := do
  return (← member.1.plain?, ← Alert.reader room member.2)

/-- Reads an object of alerts. Of a repeated key the last one stays. -/
def Alerts.reader : Reader Alerts := fun room v =>
  match room, v with
  | room + 1, .object members =>
    (members.mapM (Alerts.entry room)).map Keyed.ofList
  | _, _ => none

/-- Reads an object of alerts, or the empty list for none. -/
def Alerts.lenientReader : Reader (Option Alerts) := Reader.whole fun room v =>
  match v with
  | .list [] => some none
  | v => (Alerts.reader room v).map some

/-! ### Connections -/

/-- The end of a leg. -/
structure Exit where
  arrival : Option String
  stopId : Option String
  name : Option String
  lat : Option Float
  lon : Option Float
  /-- the seconds until the next leg -/
  waitTime : Option Float
  track : Option String
  arrivalDelay : Option DelayMark
  isAddress : Bool
deriving DecidableEq, Repr

/-- The fields of the end of a leg. -/
def Exit.shape : Shape :=
  ⟨["arrival", "stopid", "name", "lat", "lon", "waittime", "track", "arr_delay", "isaddress"], 8⟩

/-- Reads the end of a leg. -/
def Exit.reader : Reader Exit :=
  Reader.record Exit.shape fun f => do
    return {
      arrival := ← f.optional "arrival" Reader.string
      stopId := ← f.optional "stopid" looseText
      name := ← f.optional "name" Reader.string
      lat := ← f.optional "lat" Reader.float
      lon := ← f.optional "lon" Reader.float
      waitTime := ← f.optional "waittime" Reader.float
      track := ← f.optional "track" looseText
      arrivalDelay := ← f.optional "arr_delay" DelayMark.reader
      isAddress := ← f.orElse "isaddress" Reader.bool false }

/-- A call on the way. -/
structure Call where
  stopId : Option String
  name : Option String
  lat : Option Float
  lon : Option Float
  arrival : Option String
  departure : Option String
  departureDelay : Option DelayMark
  arrivalDelay : Option DelayMark
deriving DecidableEq, Repr

/-- The fields of a call. -/
def Call.shape : Shape :=
  .all ["stopid", "name", "lat", "lon", "arrival", "departure", "dep_delay", "arr_delay"]

/-- Reads a call. -/
def Call.reader : Reader Call :=
  Reader.record Call.shape fun f => do
    return {
      stopId := ← f.optional "stopid" looseText
      name := ← f.optional "name" Reader.string
      lat := ← f.optional "lat" Reader.float
      lon := ← f.optional "lon" Reader.float
      arrival := ← f.optional "arrival" Reader.string
      departure := ← f.optional "departure" Reader.string
      departureDelay := ← f.optional "dep_delay" DelayMark.reader
      arrivalDelay := ← f.optional "arr_delay" DelayMark.reader }

/-- Whether a call has no times, as a tunnel portal has none. -/
def Call.isWaypoint (c : Call) : Bool := c.arrival.isNone && c.departure.isNone

/-- A leg of a connection. The last one only names the destination and has no exit. -/
structure Leg where
  /-- the type, `walk` for a walk -/
  kind : Option String
  /-- the name of the boarding place -/
  name : Option String
  stopId : Option String
  lat : Option Float
  lon : Option Float
  departure : Option String
  /-- the time of arrival at the boarding place -/
  arrival : Option String
  line : Option String
  operator : Option String
  /-- the headsign of the vehicle -/
  terminal : Option String
  tripNumber : Option String
  productCode : Option String
  foreground : Option String
  background : Option String
  /-- the boarding track -/
  track : Option String
  departureDelay : Option DelayMark
  /-- the delay of the arrival at the boarding place -/
  arrivalDelay : Option DelayMark
  cancelled : Bool
  /-- whether the boarding place is an address -/
  isAddress : Bool
  notes : List Note
  /-- the calls on the way -/
  calls : Option (List Call)
  alerts : Option Alerts
  exit : Option Exit
  /-- the running time in seconds -/
  runningTime : Option Float
  tripId : Option String

/-- The fields of a leg. -/
def Leg.shape : Shape :=
  .all ["type", "name", "stopid", "lat", "lon", "departure", "arrival", "line", "operator",
    "terminal", "*Z", "*G", "fgcolor", "bgcolor", "track", "dep_delay", "arr_delay", "cancelled",
    "isaddress", "infotext", "stops", "disruptions", "exit", "runningtime", "tripid"]

/-- Reads a leg. -/
def Leg.reader : Reader Leg :=
  Reader.record Leg.shape fun f => do
    return {
      kind := ← f.optional "type" Reader.string
      name := ← f.optional "name" Reader.string
      stopId := ← f.optional "stopid" looseText
      lat := ← f.optional "lat" Reader.float
      lon := ← f.optional "lon" Reader.float
      departure := ← f.optional "departure" Reader.string
      arrival := ← f.optional "arrival" Reader.string
      line := ← f.optional "line" Reader.string
      operator := ← f.optional "operator" Reader.string
      terminal := ← f.optional "terminal" Reader.string
      tripNumber := ← f.optional "*Z" looseText
      productCode := ← f.optional "*G" Reader.string
      foreground := ← f.optional "fgcolor" Reader.string
      background := ← f.optional "bgcolor" Reader.string
      track := ← f.optional "track" looseText
      departureDelay := ← f.optional "dep_delay" DelayMark.reader
      arrivalDelay := ← f.optional "arr_delay" DelayMark.reader
      cancelled := ← f.orElse "cancelled" Reader.bool false
      isAddress := ← f.orElse "isaddress" Reader.bool false
      notes := ← f.orElse "infotext" (Reader.list Note.reader) []
      calls := ← f.optional "stops" (Reader.list Call.reader)
      alerts := ← f.orElse "disruptions" Alerts.lenientReader none
      exit := ← f.optional "exit" Exit.reader
      runningTime := ← f.optional "runningtime" Reader.float
      tripId := ← f.optional "tripid" Reader.string }

/-- A connection: a way to travel from the start to the end of a query. -/
structure Connection where
  origin : Option String
  destination : Option String
  /-- the duration in seconds -/
  duration : Option Float
  departure : Option String
  arrival : Option String
  alerts : Option Alerts
  legs : List Leg

/-- The fields of a connection. -/
def Connection.shape : Shape :=
  ⟨["from", "to", "duration", "departure", "arrival", "disruptions", "legs"], 5⟩

/-- Reads a connection. -/
def Connection.reader : Reader Connection :=
  Reader.record Connection.shape fun f => do
    return {
      origin := ← f.optional "from" Reader.string
      destination := ← f.optional "to" Reader.string
      duration := ← f.optional "duration" Reader.float
      departure := ← f.optional "departure" Reader.string
      arrival := ← f.optional "arrival" Reader.string
      alerts := ← f.orElse "disruptions" Alerts.lenientReader none
      legs := ← f.orElse "legs" (Reader.list Leg.reader) [] }

/-! ### Suggestions -/

/-- A place suggested for a search text or near a coordinate. -/
structure Suggestion where
  id : Option String
  label : Option String
  lat : Option Float
  lon : Option Float
  /-- a hint at the icon, with `adr` in it for an address -/
  icon : Option String
  /-- the distance in metres -/
  distance : Option Float
deriving DecidableEq, Repr

/-- The fields of a suggestion. -/
def Suggestion.shape : Shape := .all ["id", "label", "lat", "lon", "iconclass", "dist"]

/-- Reads a suggestion. -/
def Suggestion.reader : Reader Suggestion :=
  Reader.record Suggestion.shape fun f => do
    return {
      id := ← f.optional "id" looseText
      label := ← f.optional "label" Reader.string
      lat := ← f.optional "lat" Reader.float
      lon := ← f.optional "lon" Reader.float
      icon := ← f.optional "iconclass" Reader.string
      distance := ← f.optional "dist" Reader.float }

end Itinerary.Feed
