import Itinerary.Proofs.Color
import Itinerary.Proofs.Stored.Query
import Itinerary.Stored.Service

/-!
# Lines, stops and disruptions that are read back

What is stored of a line, a stop or a disruption comes back as it was, whatever stands in its texts
and whichever of them are absent. Two of the forms are not those of a record: a product is stored by
its name, and no two products have the same one (`Product.ofName?_name`); a colour is stored as a
text that a reader trims and counts the digits of (`Color.ofHex_hex`). As with queries, only the
numbers of a coordinate may change on the way, so a stop comes back if those of its place do.
-/

namespace Itinerary

open Json

/-! ### Lines -/

theorem Product.reader_toJson (p : Product) (room : Nat) :
    Product.reader room p.toJson = some p := by
  rw [reader, toJson, Reader.named_string, ofName?_name]

theorem Color.reader_toJson (c : Color) (room : Nat) : Color.reader room c.toJson = some c := by
  rw [toJson, reader, Reader.string_string, Option.bind_some, ofHex_hex]
  rfl

theorem Style.reader_toJson (s : Style) (room : Nat) :
    Style.reader (room + 1) s.toJson = some s := by
  refine Eq.trans (Reader.record_record (by rfl) (by decide) _ room) ?_
  simp [Color.reader_toJson]

/-- **A line is read back.** -/
theorem Line.reader_toJson (l : Line) (room : Nat) :
    Line.reader (room + 2) l.toJson = some l := by
  refine Eq.trans (Reader.record_record (by rfl) (by decide) _ (room + 1)) ?_
  simp [Product.reader_toJson, Style.reader_toJson]

/-! ### Stops -/

theorem StopTime.reader_toJson (t : StopTime) (room : Nat) :
    StopTime.reader (room + 1) t.toJson = some t := by
  refine Eq.trans (Reader.record_record (by rfl) (by decide) _ room) ?_
  simp [Calendar.DateTime.reader_toJson]

/-- **A stop is read back** if its place is. -/
theorem Stop.reader_toJson {s : Stop} (h : s.location.CarriesOver) (room : Nat) :
    Stop.reader (room + 3) s.toJson = some s := by
  have htime : ∀ o : Option StopTime,
      Reader.nullable StopTime.reader (room + 2) (.optional StopTime.toJson o) = some o := fun o =>
    Reader.nullable_optional (fun t ht => nomatch ht) fun t _ => t.reader_toJson (room + 1)
  refine Eq.trans (Reader.record_record (by rfl) (by decide) _ (room + 2)) ?_
  simp [Location.reader_toJson h, htime]

/-! ### Disruptions -/

theorem TimeRange.reader_toJson (r : TimeRange) (room : Nat) :
    TimeRange.reader (room + 1) r.toJson = some r := by
  refine Eq.trans (Reader.record_record (by rfl) (by decide) _ room) ?_
  simp [Calendar.DateTime.reader_toJson]

/-- **A disruption is read back.** -/
theorem Disruption.reader_toJson (d : Disruption) (room : Nat) :
    Disruption.reader (room + 2) d.toJson = some d := by
  have hrange : Reader.nullable TimeRange.reader (room + 1)
      (.optional TimeRange.toJson d.timeRange) = some d.timeRange :=
    Reader.nullable_optional (fun r hr => nomatch hr) fun r _ => r.reader_toJson room
  refine Eq.trans (Reader.record_record (by rfl) (by decide) _ (room + 1)) ?_
  simp [hrange]

theorem TripId.reader_toJson (id : TripId) (room : Nat) :
    TripId.reader room id.toJson = some id := by
  rw [toJson, reader, Reader.string_string, Option.map_some]

/-! ### What is stored is written in the grammar -/

@[simp] theorem Product.written_toJson (p : Product) : p.toJson.Written := .string _

@[simp] theorem Color.written_toJson (c : Color) : c.toJson.Written := .string _

@[simp] theorem Style.written_toJson (s : Style) : s.toJson.Written := by
  simp [toJson]

@[simp] theorem Line.written_toJson (l : Line) : l.toJson.Written := by
  simp [toJson]

@[simp] theorem StopTime.written_toJson (t : StopTime) : t.toJson.Written := by
  simp [toJson]

@[simp] theorem Stop.written_toJson (s : Stop) : s.toJson.Written := by
  simp [toJson]

@[simp] theorem TimeRange.written_toJson (r : TimeRange) : r.toJson.Written := by
  simp [toJson]

@[simp] theorem Disruption.written_toJson (d : Disruption) : d.toJson.Written := by
  simp [toJson]

@[simp] theorem TripId.written_toJson (id : TripId) : id.toJson.Written := .string _

/-! ### What is stored is read back -/

end Itinerary
