import Itinerary.Disruption
import Itinerary.Line
import Itinerary.Stop
import Itinerary.Stored.Place

/-!
# The stored form of lines, stops and disruptions

Colours are stored by their canonical text and read in any accepted one.
-/

namespace Itinerary

open Json

/-! ### Lines -/

/-- A product by its name. -/
def Product.toJson (p : Product) : Value := .string p.name

/-- Reads a product. -/
def Product.reader : Reader Product := Reader.named Product.ofName?

/-- A colour by its canonical text. -/
def Color.toJson (c : Color) : Value := .string c.hex

/-- Reads a colour. -/
def Color.reader : Reader Color := fun room v =>
  (Reader.string room v).bind fun s => (Color.ofHex s).toOption

/-- The name of a badge shape. -/
def Shape.name : Shape → String
  | rect => "rect"

/-- The badge shape of a name. -/
def Shape.ofName? : String → Option Shape
  | "rect" => some rect
  | _ => none

@[simp] theorem Shape.ofName?_name (s : Shape) : ofName? s.name = some s := by
  cases s; rfl

/-- A style as a record. -/
def Style.toJson (s : Style) : Value :=
  .record [
    ("shape", .string s.shape.name),
    ("background", s.background.toJson),
    ("foreground", s.foreground.toJson)]

/-- Reads a style. -/
def Style.reader : Reader Style :=
  Reader.record (.all ["shape", "background", "foreground"]) fun f => do
    return {
      shape := ← f.required "shape" (Reader.named Shape.ofName?)
      background := ← f.required "background" Color.reader
      foreground := ← f.required "foreground" Color.reader }

/-- A line as a record. -/
def Line.toJson (l : Line) : Value :=
  .record [
    ("trip_number", .optional .string l.tripNumber),
    ("operator", .optional .string l.operator),
    ("product", l.product.toJson),
    ("label", .optional .string l.label),
    ("style", l.style.toJson)]

/-- Reads a line. -/
def Line.reader : Reader Line :=
  Reader.record (.all ["trip_number", "operator", "product", "label", "style"]) fun f => do
    return {
      tripNumber := ← f.optional "trip_number" Reader.string
      operator := ← f.optional "operator" Reader.string
      product := ← f.required "product" Product.reader
      label := ← f.optional "label" Reader.string
      style := ← f.required "style" Style.reader }

/-! ### Stops -/

/-- A planned time with its expectation, as a record. -/
def StopTime.toJson (t : StopTime) : Value :=
  .record [("planned", t.planned.toJson), ("expected", t.expected.toJson)]

/-- Reads a planned time with its expectation. -/
def StopTime.reader : Reader StopTime :=
  Reader.record (.all ["planned", "expected"]) fun f => do
    return {
      planned := ← f.required "planned" Calendar.DateTime.reader
      expected := ← f.required "expected" Calendar.DateTime.reader }

/-- A stop as a record. -/
def Stop.toJson (s : Stop) : Value :=
  .record [
    ("location", s.location.toJson),
    ("arrival", .optional StopTime.toJson s.arrival),
    ("departure", .optional StopTime.toJson s.departure),
    ("track", .optional .string s.track),
    ("cancelled", .bool s.cancelled)]

/-- Reads a stop. -/
def Stop.reader : Reader Stop :=
  Reader.record (.all ["location", "arrival", "departure", "track", "cancelled"]) fun f => do
    return {
      location := ← f.required "location" Location.reader
      arrival := ← f.optional "arrival" StopTime.reader
      departure := ← f.optional "departure" StopTime.reader
      track := ← f.optional "track" Reader.string
      cancelled := ← f.required "cancelled" Reader.bool }

/-! ### Disruptions -/

/-- A time range as a record. -/
def TimeRange.toJson (r : TimeRange) : Value :=
  .record [("start", r.start.toJson), ("end", r.finish.toJson)]

/-- Reads a time range. -/
def TimeRange.reader : Reader TimeRange :=
  Reader.record (.all ["start", "end"]) fun f => do
    return {
      start := ← f.required "start" Calendar.DateTime.reader
      finish := ← f.required "end" Calendar.DateTime.reader }

/-- A disruption as a record. -/
def Disruption.toJson (d : Disruption) : Value :=
  .record [
    ("key", .string d.key),
    ("id", .optional .string d.id),
    ("header", .optional .string d.header),
    ("lead", .optional .string d.lead),
    ("text", .optional .string d.text),
    ("time_range", .optional TimeRange.toJson d.timeRange)]

/-- Reads a disruption. -/
def Disruption.reader : Reader Disruption :=
  Reader.record (.all ["key", "id", "header", "lead", "text", "time_range"]) fun f => do
    return {
      key := ← f.required "key" Reader.string
      id := ← f.optional "id" Reader.string
      header := ← f.optional "header" Reader.string
      lead := ← f.optional "lead" Reader.string
      text := ← f.optional "text" Reader.string
      timeRange := ← f.optional "time_range" TimeRange.reader }

end Itinerary
