import Itinerary.Proofs.Json.Fields

/-!
# Values with a gap

A value with a gap is what is left of it when one place is cut out: a field of a record
(`FieldGap`), an item of a list (`ItemGap`), or one of these inside the other. Putting a value into
the gap makes it whole.

One reader sees what is in the gap, and what the reader of the whole makes of it depends on that one
alone (`Reader.Focus`): it refuses what the inner reader refuses, and where the inner reader reads
something else, the whole is the same but for that change. Nothing is said of values that are put in
but of what is read of them, so that foci can be put one into the other (`Reader.Focus.comp`).
-/

namespace Itinerary.Json

/-! ### Gaps -/

/-- What is left of a record without the value of a field. -/
inductive FieldGap (names : List String) (name : String) : (Value → Value) → Prop
  | member {before after : List (Literal × Value)} {key : Literal} (hkey : key.plain? = some name) :
    FieldGap names name fun v => .object (before ++ (key, v) :: after)
  | item {before after : List Value} (hname : names[before.length]? = some name) :
    FieldGap names name fun v => .list (before ++ v :: after)

/-- What is left of a list without the item at a position. -/
inductive ItemGap (position : Nat) : (Value → Value) → Prop
  | mk {before after : List Value} (h : before.length = position) :
    ItemGap position fun v => .list (before ++ v :: after)

/-- What is seen of a gap. -/
structure Reader.Focus {α β : Type} (r : Reader α) (gap : Value → Value) (inner : Reader β)
    (outer : (β → β) → α → α) : Prop where
  /-- what the inner reader refuses is refused as a whole -/
  refused {w : Value} (h : ∀ room, inner room w = none) (room : Nat) : r room (gap w) = none
  /-- what the inner reader reads with a change is the whole with this change -/
  changed {v w : Value} {g : β → β} (h : ∀ room, inner room w = (inner room v).map g) (room : Nat) :
    r room (gap w) = (r room (gap v)).map (outer g)

namespace Reader

variable {α β γ : Type}

/-- **A gap in what is put into a gap** is seen through both. -/
theorem Focus.comp {r : Reader α} {mid : Reader β} {inner : Reader γ} {gap gap' : Value → Value}
    {outer : (β → β) → α → α} {outer' : (γ → γ) → β → β} (h : r.Focus gap mid outer)
    (h' : mid.Focus gap' inner outer') : r.Focus (gap ∘ gap') inner (outer ∘ outer') where
  refused hw := h.refused (h'.refused hw)
  changed hw := h.changed (h'.changed hw)

/-- What stands in the gap of a list is one of its items. -/
theorem focus_list {r : Reader α} {position : Nat} {gap : Value → Value}
    (hgap : ItemGap position gap) : (list r).Focus gap r fun g as => as.modify position g := by
  obtain ⟨rfl⟩ := hgap
  constructor
  · intro w hw room
    cases room with
    | zero => rfl
    | succ room =>
      show List.mapM (r room) _ = none
      -- an item in front of the gap may be refused first
      rw [List.mapM_append, List.mapM_cons, hw room]
      cases List.mapM (r room) _ <;> rfl
  · intro v w g hw room
    cases room with
    | zero => rfl
    | succ room =>
      exact mapM_append_cons_eq_map (hw room) _ _

/-! ### Fields that may be missing -/

/-- A value that may be null, with something of its own for what is. -/
def orDefault (r : Reader α) (default : α) : Reader α := fun room v =>
  (nullable r room v).map (·.getD default)

theorem nullable_of_ne_null {v : Value} (h : v ≠ .null) (r : Reader α) (room : Nat) :
    nullable r room v = (r room v).map some := by
  cases v with
  | null => exact absurd rfl h
  | _ => rfl

theorem orDefault_of_ne_null {v : Value} (h : v ≠ .null) (r : Reader α) (default : α)
    (room : Nat) : orDefault r default room v = r room v := by
  rw [orDefault, nullable_of_ne_null h, Option.map_map]
  exact Option.map_id'

variable {r : Reader α} {inner : Reader β} {gap : Value → Value} {outer : (β → β) → α → α}

theorem Focus.nullable (h : r.Focus gap inner outer) (hgap : ∀ v, gap v ≠ .null) :
    (nullable r).Focus gap inner fun g => Option.map (outer g) := by
  constructor
  · intro w hw room
    rw [nullable_of_ne_null (hgap w), h.refused hw, Option.map_none]
  · intro v w g hw room
    rw [nullable_of_ne_null (hgap w), nullable_of_ne_null (hgap v), h.changed hw, Option.map_map,
      Option.map_map]
    rfl

theorem Focus.orDefault (h : r.Focus gap inner outer) (hgap : ∀ v, gap v ≠ .null) (default : α) :
    (orDefault r default).Focus gap inner outer := by
  constructor
  · intro w hw room
    rw [orDefault_of_ne_null (hgap w), h.refused hw]
  · intro v w g hw room
    rw [orDefault_of_ne_null (hgap w), orDefault_of_ne_null (hgap v), h.changed hw]

end Reader

theorem FieldGap.ne_null {names : List String} {name : String} {gap : Value → Value}
    (h : FieldGap names name gap) (v : Value) : gap v ≠ .null := by
  cases h <;> nofun

/-- A record is as readable as what stands in its gap. -/
theorem FieldGap.settled_eq {names : List String} {name : String} {gap : Value → Value}
    (h : FieldGap names name gap) {v w : Value}
    (hvw : ∀ room, Reader.settled room v = Reader.settled room w) (room : Nat) :
    Reader.settled room (gap v) = Reader.settled room (gap w) := by
  rw [Bool.eq_iff_iff]
  cases h with
  | member hkey =>
    simp only [Reader.settled, Bool.and_eq_true, Reader.settledMembers_iff,
      List.forall_mem_append, List.forall_mem_cons, hvw]
  | item hname =>
    simp only [Reader.settled, Bool.and_eq_true, Reader.settledItems_iff,
      List.forall_mem_append, List.forall_mem_cons, hvw]

theorem ItemGap.ne_null {position : Nat} {gap : Value → Value} (h : ItemGap position gap)
    (v : Value) : gap v ≠ .null := by
  cases h
  nofun

/-! ### Fields -/

/-- Whether two records have the same fields, one of them aside. -/
def Found.Beside (name : String) : Found → Found → Prop :=
  SideBySide fun other v w => other ≠ name → w = v

namespace Found.Beside

variable {α : Type} {name other : String} {f f' : Found}

theorem optional (h : Beside name f f') (hne : other ≠ name) (r : Reader α) :
    f'.optional other r = f.optional other r := by
  have hrel := h.value? other
  rw [Found.optional, Found.optional, ← h.room]
  generalize f.value? other = x, f'.value? other = y at hrel
  cases hrel with
  | none => rfl
  | some hvw => rw [hvw hne]

theorem orElse (h : Beside name f f') (hne : other ≠ name) (r : Reader α) (default : α) :
    f'.orElse other r default = f.orElse other r default := by
  rw [Found.orElse, Found.orElse, h.optional hne]

end Found.Beside

theorem memberRel_gap {name : String} {key : Literal} (hkey : key.plain? = some name)
    (before after : List (Literal × Value)) (v w : Value) :
    List.Forall₂ (MemberRel fun other v w => other ≠ name → w = v) (before ++ (key, v) :: after)
      (before ++ (key, w) :: after) := by
  -- the value that differs stands under the name itself, of which nothing is asked
  refine forall₂_append_cons (fun m => ⟨rfl, fun _ _ _ => rfl⟩) ⟨rfl, fun other hother hne => ?_⟩
    before after
  exact absurd (Option.some.inj (hother.symm.trans hkey)) hne

theorem entryRel_gap {name : String} {names : List String} {before : List Value}
    (hname : names[before.length]? = some name) (after : List Value) (v w : Value) :
    List.Forall₂ (EntryRel fun other v w => other ≠ name → w = v)
      (names.zip (before ++ v :: after)) (names.zip (before ++ w :: after)) := by
  -- the names are used up along with the items in front of the gap
  induction before generalizing names with
  | nil =>
    cases names with
    | nil => exact .nil
    | cons first names =>
      obtain rfl : first = name := Option.some.inj hname
      refine .cons ⟨rfl, fun hne => absurd rfl hne⟩ (List.forall₂_same.mpr fun e _ => ?_)
      exact ⟨rfl, fun _ => rfl⟩
  | cons first before ih =>
    cases names with
    | nil => exact .nil
    | cons _ names => exact .cons ⟨rfl, fun _ => rfl⟩ (ih hname)

/-- A record with a gap, filled in two ways, has the same fields but the one that is filled in, or
it is refused in both. -/
theorem FieldGap.exists_found {s : Shape} {name : String} {gap : Value → Value}
    (hgap : FieldGap s.names name gap) (hnodup : s.names.Nodup) (hname : name ∈ s.names) :
    ∃ found : Nat → Value → Option Found,
      (∀ (α : Type) (make : Found → Option α) room v,
        Reader.record s make (room + 1) (gap v) = (found room v).bind make) ∧
      (∀ room v w, Option.Rel (Found.Beside name) (found room v) (found room w)) ∧
      ∀ room v f, found room v = some f → f.room = room ∧ f.value? name = some v := by
  cases hgap with
  | @member before after key hkey =>
    -- among members the gap is at a key
    refine ⟨fun room v => s.ofMembers room (before ++ (key, v) :: after), fun _ _ _ _ => rfl,
      fun room v w => s.rel_ofMembers (memberRel_gap hkey before after v w) room, ?_⟩
    intro room v f hf
    have hmem : (key, v) ∈ before ++ (key, v) :: after :=
      List.mem_append_right _ List.mem_cons_self
    have hvalue := (Shape.value?_of_ofMembers_iff hf).mpr ⟨hname, key, hmem, hkey⟩
    obtain ⟨entries, -, -, rfl⟩ := Shape.exists_keyed_of_ofMembers hf
    exact ⟨rfl, hvalue⟩
  | @item before after hplace =>
    -- among items it is at the place its name has in the shape
    refine ⟨fun room v => s.ofItems room (before ++ v :: after), fun _ _ _ _ => rfl, ?_, ?_⟩
    · intro room v w
      have hlength : (before ++ v :: after).length = (before ++ w :: after).length := by
        rw [List.length_append, List.length_append, List.length_cons, List.length_cons]
      exact Shape.rel_ofItems hlength (entryRel_gap hplace after v w) room
    · intro room v f hf
      have hvalue := (Shape.value?_of_ofItems_iff hnodup hf).mpr
        ⟨before.length, hplace, getElem?_append_cons before v after⟩
      obtain rfl := Shape.eq_of_ofItems hf
      exact ⟨rfl, hvalue⟩

section

variable {α β : Type} {s : Shape} {make : Found → Option α} {name : String} {gap : Value → Value}
  {inner : Reader β} {read : Found → Option β} {outer : (β → β) → α → α} {room : Nat}
  {v w : Value}

theorem FieldGap.refused (hgap : FieldGap s.names name gap) (hnodup : s.names.Nodup)
    (hname : name ∈ s.names) (hread : ∀ f v, f.value? name = some v → read f = inner f.room v)
    (hrefused : ∀ f, read f = none → make f = none) (h : inner room w = none) :
    Reader.record s make (room + 1) (gap w) = none := by
  obtain ⟨found, hrecord, -, hvalue⟩ := hgap.exists_found hnodup hname
  rw [hrecord]
  cases hf : found room w with
  | none => rfl
  | some f =>
    obtain ⟨rfl, hfield⟩ := hvalue room w f hf
    rw [Option.bind_some]
    apply hrefused
    rw [hread f w hfield, h]

theorem FieldGap.changed (hgap : FieldGap s.names name gap) (hnodup : s.names.Nodup)
    (hname : name ∈ s.names) (hread : ∀ f v, f.value? name = some v → read f = inner f.room v)
    (hchanged : ∀ f f' g, Found.Beside name f f' → read f' = (read f).map g →
      make f' = (make f).map (outer g)) {g : β → β} (h : inner room w = (inner room v).map g) :
    Reader.record s make (room + 1) (gap w) =
      (Reader.record s make (room + 1) (gap v)).map (outer g) := by
  obtain ⟨found, hrecord, hrel, hvalue⟩ := hgap.exists_found hnodup hname
  rw [hrecord, hrecord]
  -- whether the fields are found does not depend on what fills the gap
  have hbeside := hrel room v w
  cases hf : found room v with
  | none =>
    rw [hf] at hbeside
    generalize found room w = y at hbeside
    cases hbeside
    rfl
  | some f =>
    rw [hf] at hbeside
    cases hf' : found room w with
    | none =>
      rw [hf'] at hbeside
      cases hbeside
    | some f' =>
      rw [hf'] at hbeside
      cases hbeside with
      | some hbeside =>
      -- in both the field of the gap holds what fills it, and the other fields are equal
      obtain ⟨hroom, hfield⟩ := hvalue room v f hf
      obtain ⟨hroom', hfield'⟩ := hvalue room w f' hf'
      rw [Option.bind_some, Option.bind_some]
      apply hchanged f f' g hbeside
      rw [hread f v hfield, hread f' w hfield', hroom, hroom', h]

theorem Reader.record_zero (s : Shape) (make : Found → Option α) (v : Value) :
    record s make 0 v = none := by
  cases v <;> rfl

end

/-- **What stands in the gap of a record is one of its fields**, if what is made of the fields
depends on that one as it should: it is refused where that is, and changed where that is changed. -/
theorem Reader.focus_record {α β : Type} {s : Shape} {make : Found → Option α} {name : String}
    {gap : Value → Value} {inner : Reader β} {read : Found → Option β}
    {outer : (β → β) → α → α} (hgap : FieldGap s.names name gap) (hnodup : s.names.Nodup)
    (hname : name ∈ s.names) (hread : ∀ f v, f.value? name = some v → read f = inner f.room v)
    (hrefused : ∀ f, read f = none → make f = none)
    (hchanged : ∀ f f' g, Found.Beside name f f' → read f' = (read f).map g →
      make f' = (make f).map (outer g)) :
    (record s make).Focus gap inner outer := by
  constructor
  · intro w hw room
    cases room with
    | zero => exact record_zero s make (gap w)
    | succ room => exact hgap.refused hnodup hname hread hrefused (hw room)
  · intro v w g hw room
    cases room with
    | zero => rw [record_zero, record_zero, Option.map_none]
    | succ room => exact hgap.changed hnodup hname hread hchanged (hw room)

/-- A field that may be missing is seen as a value that may be null. -/
theorem Reader.focus_optional {α β : Type} {s : Shape} {make : Found → Option α} {name : String}
    {gap : Value → Value} {r : Reader β} {outer : (Option β → Option β) → α → α}
    (hgap : FieldGap s.names name gap) (hnodup : s.names.Nodup) (hname : name ∈ s.names)
    (hrefused : ∀ f, f.optional name r = none → make f = none)
    (hchanged : ∀ f f' g, Found.Beside name f f' →
      f'.optional name r = (f.optional name r).map g → make f' = (make f).map (outer g)) :
    (record s make).Focus gap (nullable r) outer := by
  refine focus_record hgap hnodup hname (fun f v hv => ?_) hrefused hchanged
  rw [Found.optional, hv]

end Itinerary.Json
