import Itinerary.Page
import Itinerary.Stored.Place

/-!
# The stored form of queries and pages

The context of a page is stored inside the token that a caller hands back for the next page, so
what is written here has to come back as it was.
-/

namespace Itinerary

open Json

/-- A trip identifier is stored as its text. -/
def TripId.toJson (id : TripId) : Value := .string id.text

/-- Reads a trip identifier. -/
def TripId.reader : Reader TripId := fun room v => (Reader.string room v).map TripId.mk

/-- The time type of a name. -/
def TimeType.ofName? : String → Option TimeType
  | "depart" => some depart
  | "arrival" => some arrival
  | _ => none

@[simp] theorem TimeType.ofName?_name (t : TimeType) : ofName? t.name = some t := by
  cases t <;> rfl

/-- A time type by its name. -/
def TimeType.toJson (t : TimeType) : Value := .string t.name

/-- Reads a time type. -/
def TimeType.reader : Reader TimeType := Reader.named TimeType.ofName?

/-- Options as a record. -/
def TripOptions.toJson (o : TripOptions) : Value :=
  .record [
    ("max_trips", .int o.maxTrips.toNat),
    ("show_delays", .bool o.showDelays),
    ("show_track_changes", .bool o.showTrackChanges)]

/-- Reads options. The number of trips has 32 bits. -/
def TripOptions.reader : Reader TripOptions :=
  Reader.record (.all ["max_trips", "show_delays", "show_track_changes"]) fun f => do
    return {
      maxTrips := (← f.required "max_trips" (Reader.count Decimal.maxCount32)).toUInt32
      showDelays := ← f.required "show_delays" Reader.bool
      showTrackChanges := ← f.required "show_track_changes" Reader.bool }

/-- A query as a record. -/
def TripQuery.toJson (q : TripQuery) : Value :=
  .record [
    ("from", q.origin.toJson),
    ("to", q.destination.toJson),
    ("via", .optional Location.toJson q.via),
    ("at", q.moment.toJson),
    ("time_type", q.timeType.toJson),
    ("options", q.options.toJson)]

/-- Reads a query. -/
def TripQuery.reader : Reader TripQuery :=
  Reader.record (.all ["from", "to", "via", "at", "time_type", "options"]) fun f => do
    return {
      origin := ← f.required "from" Location.reader
      destination := ← f.required "to" Location.reader
      via := ← f.optional "via" Location.reader
      moment := ← f.required "at" Calendar.DateTime.reader
      timeType := ← f.required "time_type" TimeType.reader
      options := ← f.required "options" TripOptions.reader }

/-- A page context as a record. -/
def PageContext.toJson (c : PageContext) : Value :=
  .record [
    ("query", c.query.toJson),
    ("latest_departure", .optional Calendar.DateTime.toJson c.latestDeparture),
    ("earliest_arrival", .optional Calendar.DateTime.toJson c.earliestArrival)]

/-- Reads a page context. -/
def PageContext.reader : Reader PageContext :=
  Reader.record (.all ["query", "latest_departure", "earliest_arrival"]) fun f => do
    return {
      query := ← f.required "query" TripQuery.reader
      latestDeparture := ← f.optional "latest_departure" Calendar.DateTime.reader
      earliestArrival := ← f.optional "earliest_arrival" Calendar.DateTime.reader }

end Itinerary
