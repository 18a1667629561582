import Itinerary.Proofs.Place.Same
import Itinerary.Proofs.Trip.Assembly

/-!
# The way back

Legs make a trip only if each of them ends where the next one starts, and that is asked in the order
in which they are travelled. Travelled the other way, every question is asked with its two places
exchanged. A comparison that looked at one of them first could find a gap on the way back that is
not there on the way out, or miss one.

It does not (`firstGap_wayBack_eq_none_iff`), since places are compared alike from both sides. Gaps
are mirrored one by one: two legs are as far from the end of the list on the way back as they are
from its beginning on the way out (`gapBehind_wayBack`).
-/

namespace Itinerary

/-! ### Legs in the other direction -/

/-- A leg travelled the other way. Its ends are exchanged with their times, and the stops of a ride
come in the opposite order. -/
def Leg.turned : Leg → Leg
  | .walk w => .walk
    { departure := w.arrival
      arrival := w.departure
      departureTime := w.arrivalTime
      arrivalTime := w.departureTime }
  | .ride r => .ride
    { r with
      departure := r.arrival
      arrival := r.departure
      stops := r.stops.reverse
      departureTime := r.arrivalTime
      arrivalTime := r.departureTime }

namespace Leg

@[simp] theorem origin_turned (l : Leg) : l.turned.origin = l.destination := by cases l <;> rfl

@[simp] theorem destination_turned (l : Leg) : l.turned.destination = l.origin := by
  cases l <;> rfl

theorem turned_turned (l : Leg) : l.turned.turned = l := by
  cases l with
  | walk w => rfl
  | ride r =>
    show ride { r with stops := r.stops.reverse.reverse } = ride r
    rw [List.reverse_reverse]

end Leg

/-- The legs of the way back: each in the other direction, the last one first. -/
def wayBack (legs : List Leg) : List Leg := (legs.map Leg.turned).reverse

@[simp] theorem length_wayBack (legs : List Leg) : (wayBack legs).length = legs.length := by
  rw [wayBack, List.length_reverse, List.length_map]

theorem wayBack_wayBack (legs : List Leg) : wayBack (wayBack legs) = legs := by
  rw [wayBack, wayBack, List.map_reverse, List.reverse_reverse, List.map_map]
  exact List.map_id'' Leg.turned_turned legs

theorem getElem?_wayBack {legs : List Leg} {i j : Nat} (h : i + j + 1 = legs.length) :
    (wayBack legs)[i]? = legs[j]?.map Leg.turned := by
  rw [wayBack, List.getElem?_reverse (by rw [List.length_map]; omega), List.length_map,
    List.getElem?_map, show legs.length - 1 - i = j by omega]

/-! ### Gaps -/

theorem GapBehind.lt_length {legs : List Leg} {i : Nat} (h : GapBehind legs i) :
    i + 1 < legs.length := by
  obtain ⟨a, b, -, hb, -⟩ := h
  exact (List.getElem?_eq_some_iff.mp hb).1

/-- A gap of the way out is one of the way back, counted from the other end. -/
theorem GapBehind.wayBack {legs : List Leg} {i j : Nat} (h : GapBehind legs j)
    (hmirror : i + j + 2 = legs.length) : GapBehind (wayBack legs) i := by
  obtain ⟨a, b, ha, hb, hgap⟩ := h
  refine ⟨b.turned, a.turned, ?_, ?_, ?_⟩
  · rw [getElem?_wayBack (j := j + 1) (by omega), hb, Option.map_some]
  · rw [getElem?_wayBack (j := j) (by omega), ha, Option.map_some]
  · rw [Leg.destination_turned, Leg.origin_turned, Location.samePlace_comm]
    exact hgap

/-- **Gaps are mirrored.** -/
theorem gapBehind_wayBack {legs : List Leg} {i j : Nat} (hmirror : i + j + 2 = legs.length) :
    GapBehind (wayBack legs) i ↔ GapBehind legs j := by
  refine ⟨fun h => ?_, fun h => h.wayBack hmirror⟩
  -- the way back of the way back is the way out
  rw [← wayBack_wayBack legs]
  exact h.wayBack (by rw [length_wayBack]; omega)

/-- **The way back has a gap exactly if the way out has one.** -/
theorem firstGap_wayBack_eq_none_iff {legs : List Leg} :
    firstGap (wayBack legs) = none ↔ firstGap legs = none := by
  rw [firstGap_eq_none_iff_forall, firstGap_eq_none_iff_forall]
  constructor
  · intro h j hgap
    have hlength := hgap.lt_length
    exact h (legs.length - 2 - j) (hgap.wayBack (by omega))
  · intro h i hgap
    have hlength := hgap.lt_length
    rw [length_wayBack] at hlength
    exact h (legs.length - 2 - i) ((gapBehind_wayBack (by omega)).mp hgap)

/-! ### Places from both sides -/

namespace Location

/-- **Among locations with ids, being the same place is an equivalence.** -/
theorem equivalence_samePlace :
    Equivalence fun a b : { l : Location // l.IsIdentified } => a.1.samePlace b.1 = true where
  refl a := (samePlace_of_isIdentified a.2 a.2).mpr rfl
  symm {a b} h := by rwa [samePlace_comm]
  trans {a b c} hab hbc := by
    rw [samePlace_of_isIdentified a.2 b.2] at hab
    rw [samePlace_of_isIdentified b.2 c.2] at hbc
    exact (samePlace_of_isIdentified a.2 c.2).mpr (hab.trans hbc)

/-- **Places are compared alike from both sides.** A location is the same place as itself unless the
first thing that it can be told by is missing or no number, and among locations with ids nothing but
the ids decides, as an equality does. So the way back of any legs has gaps where the way out has
them, and is whole if the way out is. -/
theorem samePlace_bothWays :
    (∀ a b : Location, a.samePlace b = b.samePlace a) ∧
      (∀ a : Location, a.samePlace a = true ↔
        a.id.isSome = true ∨
          (∃ p, a.coord = some p ∧ p.lat.isNaN = false ∧ p.lon.isNaN = false) ∨
          (a.id = none ∧ a.coord = none ∧ a.name.isSome = true)) ∧
      (Equivalence fun a b : { l : Location // l.IsIdentified } => a.1.samePlace b.1 = true) ∧
      (∀ a b : { l : Location // l.IsIdentified }, a.1.samePlace b.1 = true ↔ a.1.id = b.1.id) ∧
      ∀ legs : List Leg, (firstGap (wayBack legs) = none ↔ firstGap legs = none) ∧
        ∀ i j, i + j + 2 = legs.length → (GapBehind (wayBack legs) i ↔ GapBehind legs j) := by
  refine ⟨samePlace_comm, fun a => samePlace_self_iff, equivalence_samePlace,
    fun a b => samePlace_of_isIdentified a.2 b.2, fun legs => ?_⟩
  exact ⟨firstGap_wayBack_eq_none_iff, fun i j => gapBehind_wayBack⟩

/-- A station on the prime meridian, by its id. -/
def meridianStation (id : String) : Location :=
  (station id "Greenwich").withCoord { lat := 51, lon := 0 }

/-- The square in front of it, on the other zero. -/
def meridianSquare : Location := address { lat := 51, lon := -0 } "Greenwich"

-- the square is at either station, but a station is not at the other one
example :
    (meridianStation "1").samePlace meridianSquare = true ∧
      meridianSquare.samePlace (meridianStation "2") = true ∧
      (meridianStation "1").samePlace (meridianStation "2") = false := by decide +kernel

end Location

/-- Noon on midsummer's day. -/
def midsummerNoon : Calendar.DateTime :=
  ⟨(Calendar.Date.of? 2024 6 21).get (by decide), (Calendar.Clock.of? 12 0 0 0).get (by decide)⟩

/-- A walk at noon that takes no time. -/
def shortWalk (departure arrival : Location) : Leg :=
  .walk ⟨departure, arrival, .onTime midsummerNoon, .onTime midsummerNoon⟩

/-- Three walks, of which the second leads from the square to one station and the third starts at
the other one. -/
def meridianWalks : List Leg :=
  [shortWalk (.station "0" "Blackheath") (Location.meridianStation "1"),
    shortWalk Location.meridianSquare (Location.meridianStation "1"),
    shortWalk (Location.meridianStation "2") (.named "Deptford")]

theorem samePlace_bothWays_meridian :
    0 + 1 + 2 = meridianWalks.length ∧ GapBehind (wayBack meridianWalks) 0 ∧
      ¬ GapBehind (wayBack meridianWalks) 1 ∧ firstGap (wayBack meridianWalks) ≠ none ∧
      Location.meridianSquare.samePlace Location.meridianSquare = true := by
  obtain ⟨-, hself, -, -, hlegs⟩ := Location.samePlace_bothWays
  obtain ⟨hwhole, hgaps⟩ := hlegs meridianWalks
  have hfirst : firstGap meridianWalks = some 1 := by decide +kernel
  have hgap := firstGap_eq_some_iff.mp hfirst
  refine ⟨rfl, (hgaps 0 1 rfl).mpr hgap.1, ?_, ?_, ?_⟩
  · rw [hgaps 1 0 rfl]
    exact hgap.2 0 (by decide)
  · rw [ne_eq, hwhole, hfirst]
    exact Option.some_ne_none 1
  · exact (hself _).mpr (.inr (.inl ⟨_, rfl, by decide, by decide⟩))

end Itinerary
