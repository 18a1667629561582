import Itinerary.Decimal.Reading
import Itinerary.Decimal.Whole
import Itinerary.Url.Form

/-!
# The parameters of requests

A route knows its parameters by name. They are taken from the query in the order they stand
there, so the first that is given twice or has no proper value is the fault that is reported;
only then is it asked whether one is missing. Unknown parameters are passed over.

A request is first a *draft*, in which every parameter may still be absent.
-/

namespace Itinerary.Service

open Decimal

/-- Why a query does not make a request. -/
inductive ParameterFault where
  /-- a parameter that has to be there is not -/
  | missing (name : String)
  /-- a parameter is there twice -/
  | duplicate (name : String)
  /-- a value is no count -/
  | count (fault : CountFault)
  /-- a value is no number -/
  | number (fault : NumberFault)
  /-- a value is neither true nor false -/
  | flag
deriving DecidableEq, Repr

/-- The wording of a fault. -/
def ParameterFault.message (f : ParameterFault) : String :=
  "Failed to deserialize query string: " ++
    match f with
    | .missing name => "missing field `" ++ name ++ "`"
    | .duplicate name => "duplicate field `" ++ name ++ "`"
    | .count fault => fault.message
    | .number fault => fault.message
    | .flag => "provided string was not `true` or `false`"

/-! ### Values -/

/-- Any text. -/
def readText (s : String) : Except ParameterFault String := .ok s

/-- A count up to a bound. -/
def readCountValue (bound : Nat) (s : String) : Except ParameterFault Nat :=
  (readCount bound s.toList).mapError .count

/-- A number. -/
def readNumberValue (s : String) : Except ParameterFault Float :=
  (readFloat s).mapError .number

/-- A flag. -/
def readFlag (s : String) : Except ParameterFault Bool :=
  match s with
  | "true" => .ok true
  | "false" => .ok false
  | _ => .error .flag

/-! ### Drafts -/

/-- The value of a parameter that was absent so far. -/
def once {α : Type} (name : String) (present : Option α) (value : Except ParameterFault α) :
    Except ParameterFault (Option α) :=
  match present with
  | some _ => .error (.duplicate name)
  | none => value.map some

/-- The value of a parameter that has to be there. -/
def need {α : Type} (name : String) (present : Option α) : Except ParameterFault α :=
  match present with
  | some a => .ok a
  | none => .error (.missing name)

/-- The draft after all parameters of a query. -/
def fill {α : Type} (put : α → String → String → Except ParameterFault α) (start : α)
    (query : String) : Except ParameterFault α :=
  (Url.Form.decode (Text.Utf8.encode query)).foldlM (fun draft p => put draft p.1 p.2) start

/-! ### Requests -/

/-- A search for places by a text. -/
structure PlaceRequest where
  term : String
  /-- how many places are wanted -/
  limit : Option Nat
deriving DecidableEq, Repr

/-- A draft of a search for places by a text. -/
structure PlaceDraft where
  /-- `q` -/
  term : Option String := none
  limit : Option Nat := none

/-- Adds a parameter to the draft. -/
def PlaceDraft.put (d : PlaceDraft) (name value : String) : Except ParameterFault PlaceDraft :=
  match name with
  | "q" => do return { d with term := ← once name d.term (readText value) }
  | "limit" => do return { d with limit := ← once name d.limit (readCountValue maxCount64 value) }
  | _ => .ok d

/-- The search that a query asks for. -/
def PlaceRequest.ofQuery (query : String) : Except ParameterFault PlaceRequest := do
  let d ← fill PlaceDraft.put {} query
  return ⟨← need "q" d.term, d.limit⟩

/-- A search for places near a coordinate. -/
structure NearbyRequest where
  lat : Float
  lon : Float
  /-- within how many metres -/
  accuracy : Option Nat
  limit : Option Nat

/-- A draft of a search for places near a coordinate. -/
structure NearbyDraft where
  lat : Option Float := none
  lon : Option Float := none
  accuracy : Option Nat := none
  limit : Option Nat := none

/-- Adds a parameter to the draft. -/
def NearbyDraft.put (d : NearbyDraft) (name value : String) : Except ParameterFault NearbyDraft :=
  match name with
  | "lat" => do return { d with lat := ← once name d.lat (readNumberValue value) }
  | "lon" => do return { d with lon := ← once name d.lon (readNumberValue value) }
  | "accuracy" => do
    return { d with accuracy := ← once name d.accuracy (readCountValue maxCount32 value) }
  | "limit" => do return { d with limit := ← once name d.limit (readCountValue maxCount64 value) }
  | _ => .ok d

/-- The search that a query asks for. -/
def NearbyRequest.ofQuery (query : String) : Except ParameterFault NearbyRequest := do
  let d ← fill NearbyDraft.put {} query
  return ⟨← need "lat" d.lat, ← need "lon" d.lon, d.accuracy, d.limit⟩

/-- A search for trips. -/
structure TripRequest where
  /-- the term of the origin -/
  origin : String
  destination : String
  via : Option String
  date : Option String
  time : Option String
  /-- whether the time is that of the arrival -/
  arrival : Bool
deriving DecidableEq, Repr

/-- A draft of a search for trips. -/
structure TripDraft where
  /-- `from` -/
  origin : Option String := none
  /-- `to` -/
  destination : Option String := none
  via : Option String := none
  date : Option String := none
  time : Option String := none
  arrival : Option Bool := none

/-- Adds a parameter to the draft. -/
def TripDraft.put (d : TripDraft) (name value : String) : Except ParameterFault TripDraft :=
  match name with
  | "from" => do return { d with origin := ← once name d.origin (readText value) }
  | "to" => do return { d with destination := ← once name d.destination (readText value) }
  | "via" => do return { d with via := ← once name d.via (readText value) }
  | "date" => do return { d with date := ← once name d.date (readText value) }
  | "time" => do return { d with time := ← once name d.time (readText value) }
  | "arrival" => do return { d with arrival := ← once name d.arrival (readFlag value) }
  | _ => .ok d

/-- The search that a query asks for. -/
def TripRequest.ofQuery (query : String) : Except ParameterFault TripRequest := do
  let d ← fill TripDraft.put {} query
  return ⟨← need "from" d.origin, ← need "to" d.destination, d.via, d.date, d.time,
    d.arrival.getD false⟩

/-- A step from a page. -/
structure MoreRequest where
  token : String
  /-- whether the later page is wanted -/
  later : Bool
deriving DecidableEq, Repr

/-- A draft of a step from a page. -/
structure MoreDraft where
  /-- `context` -/
  token : Option String := none
  later : Option Bool := none

/-- Adds a parameter to the draft. -/
def MoreDraft.put (d : MoreDraft) (name value : String) : Except ParameterFault MoreDraft :=
  match name with
  | "context" => do return { d with token := ← once name d.token (readText value) }
  | "later" => do return { d with later := ← once name d.later (readFlag value) }
  | _ => .ok d

/-- The step that a query asks for. Without a direction it goes to the later page. -/
def MoreRequest.ofQuery (query : String) : Except ParameterFault MoreRequest := do
  let d ← fill MoreDraft.put {} query
  return ⟨← need "context" d.token, d.later.getD true⟩

end Itinerary.Service
