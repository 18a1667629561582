import Itinerary.Proofs.Json.Fields
import Itinerary.Proofs.Json.Heeded

/-!
# Readers that follow a change

A value is changed in some of its parts: a number becomes a text, say. A reader follows the change
if what it reads of the changed value is what it reads of the value, changed in its turn; in
particular the one is refused just if the other is (`Reader.Follows`). Where the change makes no
difference to the reader it follows the change with none of its own.

A change of a record changes the values of its fields by a table (`Value.fieldwise`). To follow it
is a matter of the fields alone (`Reader.follows_record`), however they stand in the record. One
thing could spoil this, a value taken in whole: it is refused for parts that nobody reads, so a
change of those has to keep them readable (`Value.KeepsSettled`).
-/

namespace Itinerary.Json

namespace Value

/-! ### Changes of parts -/

/-- A value is changed to what a table says for the name it stands under. -/
def Changes (parts : List (String × (Value → Value))) (name : String) (v w : Value) : Prop :=
  w = within parts name v

/-- The change of a member with a given key. A key that is no text has none. -/
def atKey (parts : List (String × (Value → Value))) (key : Literal) : Value → Value :=
  key.plain?.elim id (within parts)

/-- A record with the values of its fields changed by a table, those of an object by their names
and those of a list by their places. -/
def fieldwise (names : List String) (parts : List (String × (Value → Value))) : Value → Value
  | .object members => .object (members.map fun m => (m.1, atKey parts m.1 m.2))
  | .list items => .list (heededItems parts names items)
  | v => v

variable {names : List String} {parts : List (String × (Value → Value))} {p : Value → Value}

theorem keepsNull_fieldwise : KeepsNull (fieldwise names parts) := by
  intro v
  cases v <;> rfl

theorem changes_members (members : List (Literal × Value)) :
    List.Forall₂ (MemberRel (Changes parts)) members
      (members.map fun m => (m.1, atKey parts m.1 m.2)) := by
  rw [List.forall₂_map_right_iff, List.forall₂_same]
  rintro ⟨key, v⟩ -
  refine ⟨rfl, fun name hname => ?_⟩
  show atKey parts key v = _
  rw [atKey, hname, Option.elim_some]

theorem changes_items (names : List String) (items : List Value) :
    List.Forall₂ (EntryRel (Changes parts)) (names.zip items)
      (names.zip (heededItems parts names items)) := by
  induction names generalizing items with
  | nil => exact .nil
  | cons name names ih =>
    cases items with
    | nil => exact .nil
    | cons v items => exact .cons ⟨rfl, rfl⟩ (ih items)

/-! ### Values that stay readable -/

/-- Whether a change keeps the parts of a value readable, and none becomes so. -/
def KeepsSettled (p : Value → Value) : Prop :=
  ∀ room v, Reader.settled room (p v) = Reader.settled room v

theorem keepsSettled_id : KeepsSettled id := fun _ _ => rfl

theorem keepsSettled_within (h : ∀ part ∈ parts, KeepsSettled part.2) (name : String) :
    KeepsSettled (within parts name) := by
  rw [within]
  cases hpart : parts.lookup name with
  | none => exact keepsSettled_id
  | some p => exact h (name, p) (mem_of_lookup hpart)

theorem settledMembers_map {change : Literal → Value → Value} (h : ∀ key, KeepsSettled (change key))
    (room : Nat) (members : List (Literal × Value)) :
    Reader.settledMembers room (members.map fun m => (m.1, change m.1 m.2)) =
      Reader.settledMembers room members := by
  induction members with
  | nil => rfl
  | cons m members ih =>
    rw [List.map_cons, Reader.settledMembers, Reader.settledMembers, h m.1, ih]

theorem settledItems_heededItems (h : ∀ name, KeepsSettled (within parts name)) (room : Nat)
    (names : List String) (items : List Value) :
    Reader.settledItems room (heededItems parts names items) = Reader.settledItems room items := by
  induction names generalizing items with
  | nil => rw [heededItems_nil]
  | cons name names ih =>
    cases items with
    | nil => rfl
    | cons v items => rw [heededItems, Reader.settledItems, Reader.settledItems, h name, ih]

/-- A record stays readable if the values of its fields do. -/
theorem keepsSettled_fieldwise (h : ∀ part ∈ parts, KeepsSettled part.2) :
    KeepsSettled (fieldwise names parts) := by
  have hwithin : ∀ name, KeepsSettled (within parts name) := keepsSettled_within h
  have hkey : ∀ key, KeepsSettled (atKey parts key) := by
    intro key
    rw [atKey]
    cases key.plain? with
    | none => exact keepsSettled_id
    | some name => exact hwithin name
  intro room v
  cases v with
  | object members => exact congrArg (room != 0 && ·) (settledMembers_map hkey (room - 1) members)
  | list items =>
    exact congrArg (room != 0 && ·) (settledItems_heededItems hwithin (room - 1) names items)
  | _ => rfl

end Value

open Value

/-! ### Readers that follow -/

/-- Whether a reader follows a change of values with a change of what it reads. -/
def Reader.Follows {α : Type} (r : Reader α) (p : Value → Value) (g : α → α) : Prop :=
  ∀ room v, r room (p v) = (r room v).map g

namespace Reader

variable {α : Type} {r : Reader α} {p : Value → Value} {g : α → α}

theorem follows_id (r : Reader α) : r.Follows id id := by
  intro room v
  rw [Option.map_id, id, id]

theorem follows_nullable (hnull : KeepsNull p) (h : r.Follows p g) :
    (nullable r).Follows p (Option.map g) := by
  intro room v
  -- the change keeps what is null, so both sides take the same branch
  have hcases : ∀ w, nullable r room w = if w.isNull then some none else (r room w).map some := by
    intro w
    cases w <;> rfl
  rw [hcases, hcases, hnull v, h room v]
  split
  · rfl
  · rw [Option.map_map, Option.map_map]
    rfl

theorem follows_list (h : r.Follows p g) : (list r).Follows (each p) (List.map g) := by
  intro room v
  cases v with
  | list items =>
    cases room with
    | zero => rfl
    | succ room =>
      show (items.map p).mapM (r room) = (items.mapM (r room)).map (List.map g)
      -- the first item that is refused is at the same place in the changed list
      induction items with
      | nil => rfl
      | cons v rest ih =>
        rw [List.map_cons, List.mapM_cons, List.mapM_cons, ih, h room v]
        cases r room v with
        | none => rfl
        | some a => cases rest.mapM (r room) <;> rfl
  | _ => cases room <;> rfl

theorem follows_whole (hsettled : KeepsSettled p) (h : r.Follows p g) : (whole r).Follows p g := by
  intro room v
  rw [whole, whole, hsettled room v, h room v]
  split <;> rfl

end Reader

/-- Whether one record comes from another one by a change of the values of its fields. -/
structure Found.Changed (parts : List (String × (Value → Value))) (f f' : Found) : Prop where
  fields : SideBySide (Changes parts) f f'
  /-- no field becomes null, and none that is null becomes anything else -/
  keepsNull : ∀ name, KeepsNull (within parts name)

namespace Found.Changed

variable {α : Type} {parts : List (String × (Value → Value))} {f f' : Found} {name : String}
  {r : Reader α} {g : α → α}

/-- **What is read of a field of the changed record** is what is read of the field, changed. -/
theorem optional (h : Changed parts f f') (hr : r.Follows (within parts name) g) :
    f'.optional name r = (f.optional name r).map (Option.map g) := by
  have hrel := h.fields.value? name
  rw [Found.optional, Found.optional, ← h.fields.room]
  generalize f.value? name = x, f'.value? name = y at hrel
  cases hrel with
  | none => rfl
  | @some v w hvw =>
    obtain rfl : w = within parts name v := hvw
    exact Reader.follows_nullable (h.keepsNull name) hr f.room v

theorem optional_eq (h : Changed parts f f') (hr : r.Follows (within parts name) id) :
    f'.optional name r = f.optional name r := by
  rw [h.optional hr, Option.map_id, Option.map_id, id]

theorem orElse (h : Changed parts f f') (hr : r.Follows (within parts name) g) {default : α}
    (hdefault : g default = default) :
    f'.orElse name r default = (f.orElse name r default).map g := by
  rw [Found.orElse, Found.orElse, h.optional hr, Option.map_map, Option.map_map]
  congr 1
  funext o
  cases o with
  | none => exact hdefault.symm
  | some a => rfl

theorem orElse_eq (h : Changed parts f f') (hr : r.Follows (within parts name) id) (default : α) :
    f'.orElse name r default = f.orElse name r default := by
  rw [h.orElse hr (id_eq default), Option.map_id, id]

end Found.Changed

/-- **A record follows a change of its fields**, if what is made of the fields does. -/
theorem Reader.follows_record {α : Type} {s : Shape} {parts : List (String × (Value → Value))}
    {make : Found → Option α} {g : α → α} (hparts : ∀ part ∈ parts, KeepsNull part.2)
    (hmake : ∀ f f', Found.Changed parts f f' → make f' = (make f).map g) :
    (record s make).Follows (fieldwise s.names parts) g := by
  -- either form of a record gives fields that are changed by the table, or none at all
  have hbind : ∀ x y, Option.Rel (Found.SideBySide (Changes parts)) x y →
      y.bind make = (x.bind make).map g := by
    rintro _ _ (⟨h⟩ | _)
    · exact hmake _ _ ⟨h, keepsNull_within hparts⟩
    · rfl
  intro room v
  cases room with
  | zero => cases v <;> rfl
  | succ room =>
    cases v with
    | object members => exact hbind _ _ (s.rel_ofMembers (changes_members members) room)
    | list items =>
      have hitems : List.Forall₂ (EntryRel (Changes parts)) _ _ := changes_items s.names items
      exact hbind _ _ (Shape.rel_ofItems (length_heededItems s.names items).symm hitems room)
    | _ => rfl

end Itinerary.Json
