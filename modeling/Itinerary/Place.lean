import Itinerary.Decimal.Layout
import Itinerary.Decimal.Reading
import Itinerary.Decimal.Whole
import Itinerary.Text.Blank

/-!
# Places

A place is a station with an id, an address with a coordinate, or anything the provider has yet
to resolve. Addresses have no id and some entries no coordinate, so apart from its kind
everything about a place is optional.

A caller names a place by a *term*: digits are a station id, two numbers within the range of
coordinates are a coordinate, and all else is a name. `Location.term?` goes the other way and
gives the term that is sent to the provider.
-/

namespace Itinerary

/-! ### Coordinates -/

/-- A coordinate in degrees. -/
structure Point where
  lat : Float
  lon : Float
deriving DecidableEq, Repr

namespace Point

/-- The coordinate of two optional halves: both have to be there. -/
def ofParts (lat lon : Option Float) : Option Point := do
  return ⟨← lat, ← lon⟩

/-- Whether a latitude and a longitude lie in their ranges. Neither does if it is no number. -/
def inRange (lat lon : Float) : Bool :=
  Float.le (-90) lat && Float.le lat 90 && Float.le (-180) lon && Float.le lon 180

/-- A number with blanks around it. -/
def readHalf (cs : List Char) : Option Float :=
  (Decimal.readFloat (String.ofList (Text.trimChars cs))).toOption

/-- Reads `lat,lon`: the first comma separates, and the halves have to be in range. -/
def ofTerm? (cs : List Char) : Option Point :=
  match cs.span (· != ',') with
  | (lat, ',' :: lon) =>
    match readHalf lat, readHalf lon with
    | some lat, some lon => if inRange lat lon then some ⟨lat, lon⟩ else none
    | _, _ => none
  | _ => none

/-- Reads a coordinate from a text. -/
def ofString? (s : String) : Option Point := ofTerm? s.toList

/-- The coordinate as it is written in terms. -/
def display (p : Point) : String := Decimal.display p.lat ++ "," ++ Decimal.display p.lon

/-- Whether two coordinates are numerically equal, which no coordinate that is no number is. -/
def agrees (a b : Point) : Bool := Float.beq a.lat b.lat && Float.beq a.lon b.lon

end Point

/-! ### Locations -/

/-- What kind of place a location is. -/
inductive LocationKind where
  | station
  | address
  /-- a place that is not resolved yet -/
  | any
deriving DecidableEq, Repr

/-- A place. -/
structure Location where
  kind : LocationKind
  /-- the id by which the provider knows the place -/
  id : Option String
  coord : Option Point
  name : Option String
deriving DecidableEq, Repr

namespace Location

/-- A station by its id and name. -/
def station (id name : String) : Location := ⟨.station, some id, none, some name⟩

/-- An address by its coordinate and name. -/
def address (coord : Point) (name : String) : Location := ⟨.address, none, some coord, some name⟩

/-- A place known by name only. -/
def named (name : String) : Location := ⟨.any, none, none, some name⟩

/-- The place with a coordinate. -/
def withCoord (l : Location) (p : Point) : Location := { l with coord := some p }

/-- The place that a term means, blanks around it aside. -/
def ofTerm (term : String) : Location :=
  let t := Text.trim term
  if Decimal.isDigits t.toList then ⟨.station, some t, none, none⟩
  else
    match Point.ofTerm? t.toList with
    | some p => ⟨.any, none, some p, none⟩
    | none => named t

/-- The term that names the place to the provider: its id, else its coordinate, else its name
unless that is blank. -/
def term? (l : Location) : Option String :=
  match l.id, l.coord with
  | some id, _ => some id
  | none, some p => some p.display
  | none, none => l.name.filter fun n => !Text.isBlankText n

/-- Whether two locations are the same place. Ids decide if both have one, then coordinates, and
names only if nothing else can be compared. -/
def samePlace (a b : Location) : Bool :=
  match a.id, b.id with
  | some i, some j => i == j
  | _, _ =>
    match a.coord, b.coord with
    | some p, some q => p.agrees q
    | _, _ => a.name.isSome && a.name == b.name

/-- Whether two locations agree in all they carry. -/
def agrees (a b : Location) : Bool :=
  a.kind == b.kind && a.id == b.id && a.name == b.name &&
    match a.coord, b.coord with
    | some p, some q => p.agrees q
    | none, none => true
    | _, _ => false

/-- The name to show: the name, else the id. -/
def display (l : Location) : String := (l.name.or l.id).getD "unknown location"

end Location

end Itinerary
