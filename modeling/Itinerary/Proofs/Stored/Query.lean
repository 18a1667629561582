import Itinerary.Proofs.Calendar.Pattern
import Itinerary.Proofs.Json.Reader
import Itinerary.Stored.Query

/-!
# Queries and pages that are read back

What is stored of a page comes back as it was, as long as its coordinates do. The readers follow the
writers record by record: a place is read back from its four fields, a query from its six and the
context of a page from its three, each with room for the records inside it.
-/

namespace Itinerary

open Json

/-! ### Times and places -/

theorem Calendar.DateTime.reader_toJson (t : Calendar.DateTime) (room : Nat) :
    Calendar.DateTime.reader room t.toJson = some t := by
  rw [toJson, reader, Reader.string_string, Option.bind_some, Calendar.iso_read_write]

/-- Whether the numbers of a place are read back from their texts. -/
def Location.CarriesOver (l : Location) : Prop :=
  ∀ p, l.coord = some p → Json.CarriesOver p.lat ∧ Json.CarriesOver p.lon

theorem Point.reader_toJson {p : Point} (h : Json.CarriesOver p.lat ∧ Json.CarriesOver p.lon)
    (room : Nat) : Point.reader (room + 1) p.toJson = some p := by
  refine Eq.trans (Reader.record_record (by rfl) (by decide) _ room) ?_
  simp [Reader.float_float h.1, Reader.float_float h.2]

/-- **A place is read back** if its coordinate is. -/
theorem Location.reader_toJson {l : Location} (h : l.CarriesOver) (room : Nat) :
    Location.reader (room + 2) l.toJson = some l := by
  have hcoord : Reader.nullable Point.reader (room + 1) (.optional Point.toJson l.coord)
      = some l.coord :=
    Reader.nullable_optional (fun p hp => nomatch hp) fun p hp => Point.reader_toJson (h p hp) room
  refine Eq.trans (Reader.record_record (by rfl) (by decide) _ (room + 1)) ?_
  simp [hcoord]

/-! ### Queries and pages -/

theorem TimeType.reader_toJson (t : TimeType) (room : Nat) :
    TimeType.reader room t.toJson = some t := by
  rw [reader, toJson, Reader.named_string, ofName?_name]

theorem TripOptions.reader_toJson (o : TripOptions) (room : Nat) :
    TripOptions.reader (room + 1) o.toJson = some o := by
  have hcount : Reader.count Decimal.maxCount32 room (.int o.maxTrips.toNat) =
      some o.maxTrips.toNat :=
    Reader.count_int (Nat.le_of_lt_succ o.maxTrips.toNat_lt) (by decide) room
  refine Eq.trans (Reader.record_record (by rfl) (by decide) _ room) ?_
  simp [hcount]

/-- Whether the numbers of the places of a query are read back from their texts. -/
def TripQuery.CarriesOver (q : TripQuery) : Prop :=
  q.origin.CarriesOver ∧ q.destination.CarriesOver ∧ ∀ place, q.via = some place → place.CarriesOver

/-- **A query is read back** if its coordinates are. -/
theorem TripQuery.reader_toJson {q : TripQuery} (h : q.CarriesOver) (room : Nat) :
    TripQuery.reader (room + 3) q.toJson = some q := by
  obtain ⟨horigin, hdestination, hvia⟩ := h
  have hread : Reader.nullable Location.reader (room + 2) (.optional Location.toJson q.via)
      = some q.via :=
    Reader.nullable_optional (fun place hplace => nomatch hplace) fun place hplace =>
      Location.reader_toJson (hvia place hplace) room
  refine Eq.trans (Reader.record_record (by rfl) (by decide) _ (room + 2)) ?_
  simp [Location.reader_toJson horigin, Location.reader_toJson hdestination, hread,
    Calendar.DateTime.reader_toJson, TimeType.reader_toJson, TripOptions.reader_toJson]

/-- **The context of a page is read back** if the coordinates of its query are. -/
theorem PageContext.reader_toJson {c : PageContext} (h : c.query.CarriesOver) (room : Nat) :
    PageContext.reader (room + 4) c.toJson = some c := by
  have hbound : ∀ o : Option Calendar.DateTime,
      Reader.nullable Calendar.DateTime.reader (room + 3)
        (.optional Calendar.DateTime.toJson o) = some o := fun o =>
    Reader.nullable_optional (fun t ht => nomatch ht) fun t _ => t.reader_toJson _
  refine Eq.trans (Reader.record_record (by rfl) (by decide) _ (room + 3)) ?_
  simp [TripQuery.reader_toJson h, hbound]

/-! ### What is stored is written in the grammar -/

@[simp] theorem Calendar.DateTime.written_toJson (t : Calendar.DateTime) : t.toJson.Written :=
  .string _

@[simp] theorem Point.written_toJson (p : Point) : p.toJson.Written := by
  simp [toJson]

@[simp] theorem Location.written_toJson (l : Location) : l.toJson.Written := by
  simp [toJson]

@[simp] theorem TripOptions.written_toJson (o : TripOptions) : o.toJson.Written := by
  simp [toJson]

@[simp] theorem TripQuery.written_toJson (q : TripQuery) : q.toJson.Written := by
  simp [toJson, TimeType.toJson]

@[simp] theorem PageContext.written_toJson (c : PageContext) : c.toJson.Written := by
  simp [toJson]

end Itinerary
