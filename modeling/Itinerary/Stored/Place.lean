import Itinerary.Calendar.Formats
import Itinerary.Json.Reader
import Itinerary.Place

/-!
# The stored form of places and times

Things of the domain are stored as JSON and read back: each has a writer `toJson` and a reader.
Records are written with all their fields in declared order, an absent value as null. A moment is
the text of its ISO form, a coordinate a record of two doubles.
-/

namespace Itinerary

open Json

/-! ### Moments -/

/-- A moment as a text in ISO form. -/
def Calendar.DateTime.toJson (t : Calendar.DateTime) : Value := .string (Calendar.iso.write t)

/-- Reads a moment in ISO form. -/
def Calendar.DateTime.reader : Reader Calendar.DateTime := fun room v =>
  (Reader.string room v).bind Calendar.iso.read

/-! ### Coordinates -/

/-- A coordinate as a record. -/
def Point.toJson (p : Point) : Value :=
  .record [("lat", .float p.lat), ("lon", .float p.lon)]

/-- Reads a coordinate. -/
def Point.reader : Reader Point :=
  Reader.record (.all ["lat", "lon"]) fun f => do
    return ⟨← f.required "lat" Reader.float, ← f.required "lon" Reader.float⟩

/-! ### Locations -/

/-- The name of a kind of place. -/
def LocationKind.name : LocationKind → String
  | station => "station"
  | address => "address"
  | any => "any"

/-- The kind of place of a name. -/
def LocationKind.ofName? : String → Option LocationKind
  | "station" => some station
  | "address" => some address
  | "any" => some any
  | _ => none

@[simp] theorem LocationKind.ofName?_name (k : LocationKind) : ofName? k.name = some k := by
  cases k <;> rfl

/-- A location as a record. -/
def Location.toJson (l : Location) : Value :=
  .record [
    ("kind", .string l.kind.name),
    ("id", .optional .string l.id),
    ("coord", .optional Point.toJson l.coord),
    ("name", .optional .string l.name)]

/-- Reads a location. -/
def Location.reader : Reader Location :=
  Reader.record (.all ["kind", "id", "coord", "name"]) fun f => do
    return {
      kind := ← f.required "kind" (Reader.named LocationKind.ofName?)
      id := ← f.optional "id" Reader.string
      coord := ← f.optional "coord" Point.reader
      name := ← f.optional "name" Reader.string }

end Itinerary
