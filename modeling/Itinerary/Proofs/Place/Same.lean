import Itinerary.Place

/-!
# When two locations are the same place

That the legs of a trip meet is asked with one comparison of places, and that comparison falls
through three levels: ids, then coordinates, then names. Which level decides depends on what both
sides carry, and the coordinates are compared as numbers, so none of the laws of an equality can be
taken for granted.

It is the same from both sides (`Location.samePlace_comm`): a level is entered by what both carry,
and the comparison of doubles is turned round with its operands (`float_compare_swap`). Nearly every
location is the same place as itself, except one of which nothing can be compared and one without an
id whose coordinate is no number (`Location.samePlace_self_iff`). But an address lies at the same
place as each of two stations that have its coordinate, and these are two places. Such a chain needs
a location without an id: as soon as all have one, the ids are all that is looked at
(`Location.samePlace_of_isIdentified`).
-/

namespace Itinerary

/-! ### Comparing doubles -/

section Doubles

open Float.Model

/-- Doubles with their operands turned round compare the other way, if they compare at all. -/
theorem float_compare_swap (a b : UnpackedFloat) :
    b.compare a = (a.compare b).map Ordering.swap := by
  cases a with
  | notANumber => cases b <;> rfl
  | infinity s =>
    cases s <;> cases b with
    | infinity s' => cases s' <;> rfl
    | _ => rfl
  | zero s =>
    cases b with
    | infinity s' => cases s' <;> rfl
    | finite s' m' e' h' => cases s' <;> rfl
    | _ => rfl
  | finite s m e h =>
    cases b with
    | infinity s' => cases s <;> cases s' <;> rfl
    | zero s' => cases s <;> rfl
    | notANumber => cases s <;> rfl
    | finite s' m' e' h' =>
      -- of one sign the exponents decide and then the mantissas, and both are turned round
      have hsame : (compare e' e).then (compare m' m) =
          ((compare e e').then (compare m m')).swap := by
        rw [Ordering.swap_then, ← Std.OrientedCmp.eq_swap, ← Std.OrientedCmp.eq_swap]
      cases s with
      | positive =>
        cases s' with
        | positive => exact congrArg some hsame
        | negative => rfl
      | negative =>
        cases s' with
        | positive => rfl
        | negative => exact congrArg (fun order => some order.swap) hsame

/-- A double compares with itself unless it is no number. -/
theorem float_compare_self (a : UnpackedFloat) :
    a.compare a = if a.isNaN then none else some .eq := by
  cases a with
  | notANumber => rfl
  | infinity s => cases s <;> rfl
  | zero s => rfl
  | finite s m e h =>
    have hsame : (compare e e).then (compare m m) = .eq := by
      rw [Std.compare_self, Std.compare_self]
      rfl
    cases s with
    | positive => exact congrArg some hsame
    | negative => exact congrArg (fun order => some order.swap) hsame

end Doubles

/-- Doubles are numerically equal from both sides. -/
theorem float_beq_comm (a b : Float) : Float.beq a b = Float.beq b a := by
  show (a.toModel.unpack.compare b.toModel.unpack == some .eq) =
    (b.toModel.unpack.compare a.toModel.unpack == some .eq)
  rw [float_compare_swap a.toModel.unpack]
  cases a.toModel.unpack.compare b.toModel.unpack with
  | none => rfl
  | some order => cases order <;> rfl

theorem float_beq_self (a : Float) : Float.beq a a = !a.isNaN := by
  show (a.toModel.unpack.compare a.toModel.unpack == some .eq) = !a.toModel.unpack.isNaN
  rw [float_compare_self]
  cases a.toModel.unpack.isNaN <;> rfl

namespace Point

theorem agrees_comm (p q : Point) : p.agrees q = q.agrees p := by
  rw [agrees, agrees, float_beq_comm p.lat, float_beq_comm p.lon]

theorem agrees_self_iff {p : Point} :
    p.agrees p = true ↔ p.lat.isNaN = false ∧ p.lon.isNaN = false := by
  rw [agrees, float_beq_self, float_beq_self, Bool.and_eq_true, Bool.not_eq_true',
    Bool.not_eq_true']

end Point

/-! ### Comparing locations -/

namespace Location

variable {a b : Location}

/-- Whether a location carries an id. -/
def IsIdentified (l : Location) : Prop := l.id.isSome = true

/-- Two locations with ids are told apart by these, whatever else they carry. -/
theorem samePlace_of_isIdentified (ha : a.IsIdentified) (hb : b.IsIdentified) :
    a.samePlace b = true ↔ a.id = b.id := by
  obtain ⟨i, hi⟩ := Option.isSome_iff_exists.mp ha
  obtain ⟨j, hj⟩ := Option.isSome_iff_exists.mp hb
  rw [samePlace, hi, hj, Option.some_inj]
  exact beq_iff_eq

/-- Where an id is missing, the coordinates are compared, if there are two of them. -/
theorem samePlace_of_coord {p q : Point} (hid : a.id = none ∨ b.id = none)
    (ha : a.coord = some p) (hb : b.coord = some q) : a.samePlace b = p.agrees q := by
  unfold samePlace
  rcases hid with hid | hid
  · rw [hid, ha, hb]
  · rw [hid, ha, hb]
    cases a.id <;> rfl

/-- Where a coordinate is missing as well, the names are all that is left. -/
theorem samePlace_of_name (hid : a.id = none ∨ b.id = none)
    (hcoord : a.coord = none ∨ b.coord = none) :
    a.samePlace b = (a.name.isSome && a.name == b.name) := by
  unfold samePlace
  rcases hid with hid | hid <;> rcases hcoord with hcoord | hcoord <;> rw [hid, hcoord]
  · cases a.coord <;> rfl
  · cases a.id <;> rfl
  · cases a.id <;> cases a.coord <;> rfl

theorem sharesName_comm (a b : Location) :
    (a.name.isSome && a.name == b.name) = (b.name.isSome && b.name == a.name) := by
  by_cases hname : a.name = b.name
  · rw [hname]
  · rw [beq_false_of_ne hname, beq_false_of_ne (Ne.symm hname), Bool.and_false, Bool.and_false]

theorem samePlace_comm_of_id (hid : a.id = none ∨ b.id = none) :
    a.samePlace b = b.samePlace a := by
  -- on either side the names are looked at exactly if a coordinate is missing
  cases hp : a.coord with
  | none =>
    rw [samePlace_of_name hid (.inl hp), samePlace_of_name hid.symm (.inr hp)]
    exact sharesName_comm a b
  | some p =>
    cases hq : b.coord with
    | none =>
      rw [samePlace_of_name hid (.inr hq), samePlace_of_name hid.symm (.inl hq)]
      exact sharesName_comm a b
    | some q =>
      rw [samePlace_of_coord hid hp hq, samePlace_of_coord hid.symm hq hp]
      exact p.agrees_comm q

/-- **Being the same place is the same from both sides.** -/
theorem samePlace_comm (a b : Location) : a.samePlace b = b.samePlace a := by
  cases hi : a.id with
  | none => exact samePlace_comm_of_id (.inl hi)
  | some i =>
    cases hj : b.id with
    | none => exact samePlace_comm_of_id (.inr hj)
    | some j =>
      have ha : a.IsIdentified := Option.isSome_of_mem hi
      have hb : b.IsIdentified := Option.isSome_of_mem hj
      rw [Bool.eq_iff_iff, samePlace_of_isIdentified ha hb, samePlace_of_isIdentified hb ha]
      exact eq_comm

/-- **A location is the same place as itself** if the first thing that it can be told by is an id, a
coordinate of two numbers or a name. -/
theorem samePlace_self_iff {l : Location} : l.samePlace l = true ↔
    l.id.isSome = true ∨
      (∃ p, l.coord = some p ∧ p.lat.isNaN = false ∧ p.lon.isNaN = false) ∨
      (l.id = none ∧ l.coord = none ∧ l.name.isSome = true) := by
  -- by what it is told by first: an id, a coordinate, a name
  cases hid : l.id with
  | some i =>
    have hself : l.samePlace l = true :=
      have h : l.IsIdentified := Option.isSome_of_mem hid
      (samePlace_of_isIdentified h h).mpr rfl
    simp [hself]
  | none =>
    cases hcoord : l.coord with
    | some p => simp [samePlace_of_coord (.inl hid) hcoord hcoord, Point.agrees_self_iff]
    | none => simp [samePlace_of_name (.inl hid) (.inl hcoord)]

end Location

end Itinerary
