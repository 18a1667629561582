import Itinerary.Proofs.Json.Gap

/-!
# What is seen at a depth

Two values that a reader takes alike in any room are taken alike in a gap, however deep it lies
(`Reader.Focus`). A value that is first taken in whole is not read alike in any room: there have to
be levels left for all that it holds. So it is said here how many levels the reader of the whole
opens before it comes to the gap, and all that is compared is what the inner reader makes of the
values in the room that remains (`Reader.Sees`).

Besides, what is read of the value in the gap can be found again in the whole, as a part of it
(`Reader.Sees.read`). Not every change of a part shows: a change at a place that a list does not
have changes nothing. So that a list has the place is part of what is seen.
-/

namespace Itinerary.Json

/-- What is seen of a gap that lies a number of levels deep. -/
structure Reader.Sees {α β : Type} (r : Reader α) (gap : Value → Value) (depth : Nat)
    (inner : Reader β) (part : α → Option β) (outer : (β → β) → α → α) : Prop where
  /-- without the levels in front of the gap nothing is read -/
  shallow {room : Nat} (h : room < depth) (v : Value) : r room (gap v) = none
  /-- what the inner reader reads is a part of the whole -/
  read {room : Nat} {v : Value} {a : α} (h : r (room + depth) (gap v) = some a) :
    ∃ b, inner room v = some b ∧ part a = some b
  /-- what the inner reader reads with a change is the whole with this change -/
  changed {room : Nat} {v w : Value} {g : β → β} (h : inner room w = (inner room v).map g) :
    r (room + depth) (gap w) = (r (room + depth) (gap v)).map (outer g)

namespace Reader

variable {α β γ : Type} {r : Reader α} {inner : Reader β} {gap : Value → Value} {depth room : Nat}
  {part : α → Option β} {outer : (β → β) → α → α} {v w : Value}

namespace Sees

theorem refused (h : r.Sees gap depth inner part outer) (hw : inner room w = none) :
    r (room + depth) (gap w) = none := by
  cases hr : r (room + depth) (gap w) with
  | none => rfl
  | some a =>
    obtain ⟨b, hb, -⟩ := h.read hr
    rw [hw] at hb
    cases hb

/-- **What is read instead of something else takes its place.** -/
theorem put (h : r.Sees gap depth inner part outer) {a : α} {b : β}
    (ha : r (room + depth) (gap v) = some a) (hb : inner room w = some b) :
    r (room + depth) (gap w) = some (outer (fun _ => b) a) := by
  obtain ⟨old, hold, -⟩ := h.read ha
  -- the new part is a change of the old one that forgets it
  have hchange : inner room w = (inner room v).map fun _ => b := by
    rw [hb, hold, Option.map_some]
  rw [h.changed hchange, ha, Option.map_some]

/-- What is seen at a depth is seen in any room. -/
theorem focus (h : r.Sees gap depth inner part outer) : r.Focus gap inner outer := by
  constructor
  · intro w hw room
    rcases Nat.lt_or_ge room depth with hlt | hle
    · exact h.shallow hlt w
    · obtain ⟨room, rfl⟩ := Nat.exists_eq_add_of_le' hle
      exact h.refused (hw room)
  · intro v w g hw room
    rcases Nat.lt_or_ge room depth with hlt | hle
    · rw [h.shallow hlt, h.shallow hlt, Option.map_none]
    · obtain ⟨room, rfl⟩ := Nat.exists_eq_add_of_le' hle
      exact h.changed (hw room)

/-- **A gap in what is put into a gap** is seen through both, as deep as they lie together. -/
theorem comp {mid : Reader γ} {gap' : Value → Value} {depth' : Nat} {part' : α → Option γ}
    {part : γ → Option β} {outer' : (γ → γ) → α → α} {outer : (β → β) → γ → γ}
    (h : r.Sees gap depth mid part' outer') (h' : mid.Sees gap' depth' inner part outer) :
    r.Sees (gap ∘ gap') (depth' + depth) inner (fun a => (part' a).bind part) (outer' ∘ outer) where
  shallow {room} hroom v := by
    rcases Nat.lt_or_ge room depth with hlt | hle
    · exact h.shallow hlt _
    · -- there is room for the outer levels, so it is the inner ones that it is too little for
      obtain ⟨room, rfl⟩ := Nat.exists_eq_add_of_le' hle
      exact h.refused (h'.shallow (by omega) v)
  read {room v a} ha := by
    rw [← Nat.add_assoc] at ha
    obtain ⟨c, hc, hpart'⟩ := h.read ha
    obtain ⟨b, hb, hpart⟩ := h'.read hc
    refine ⟨b, hb, ?_⟩
    rw [hpart', Option.bind_some, hpart]
  changed {room v w g} hw := by
    rw [← Nat.add_assoc]
    exact h.changed (h'.changed hw)

theorem nullable (h : r.Sees gap depth inner part outer) (hgap : ∀ v, gap v ≠ .null) :
    (nullable r).Sees gap depth inner (fun o => o.bind part) fun g => Option.map (outer g) where
  shallow hroom v := by rw [nullable_of_ne_null (hgap v), h.shallow hroom, Option.map_none]
  read {room v o} ho := by
    rw [nullable_of_ne_null (hgap v)] at ho
    obtain ⟨a, ha, rfl⟩ := Option.map_eq_some_iff.mp ho
    exact h.read ha
  changed {room v w g} hw := by
    rw [nullable_of_ne_null (hgap w), nullable_of_ne_null (hgap v), h.changed hw, Option.map_map,
      Option.map_map]
    rfl

theorem orDefault (h : r.Sees gap depth inner part outer) (hgap : ∀ v, gap v ≠ .null)
    (default : α) : (orDefault r default).Sees gap depth inner part outer where
  shallow hroom v := by rw [orDefault_of_ne_null (hgap v), h.shallow hroom]
  read {room v a} ha := by
    rw [orDefault_of_ne_null (hgap v)] at ha
    exact h.read ha
  changed {room v w g} hw := by
    rw [orDefault_of_ne_null (hgap w), orDefault_of_ne_null (hgap v), h.changed hw]

end Sees

/-- What stands in the gap of a list is one of its items. -/
theorem sees_list {position : Nat} (hgap : ItemGap position gap) :
    (list r).Sees gap 1 r (fun as => as[position]?) fun g as => as.modify position g := by
  obtain ⟨rfl⟩ := hgap
  constructor
  · intro room hroom v
    obtain rfl : room = 0 := by omega
    rfl
  · intro room v as has
    have hstep := mapM_eq_some_iff.mp (show List.mapM (r room) _ = some as from has)
    obtain ⟨a, hplace, ha⟩ := exists_getElem?_of_forall₂ hstep (getElem?_append_cons _ v _)
    exact ⟨a, ha, hplace⟩
  · intro room v w g hw
    exact mapM_append_cons_eq_map hw _ _

end Reader

/-! ### Fields -/

section

open Reader

variable {α β : Type} {s : Shape} {make : Found → Option α} {name : String} {gap : Value → Value}

/-- **What stands in the gap of a record is one of its fields.** Besides what is asked for a focus,
the field of the whole has to be the one that a change of it changes. -/
theorem Reader.sees_record {inner : Reader β} {read : Found → Option β} {field : α → β}
    {outer : (β → β) → α → α} (hgap : FieldGap s.names name gap) (hnodup : s.names.Nodup)
    (hname : name ∈ s.names) (hread : ∀ f v, f.value? name = some v → read f = inner f.room v)
    (hrefused : ∀ f, read f = none → make f = none)
    (hchanged : ∀ f f' g, Found.Beside name f f' → read f' = (read f).map g →
      make f' = (make f).map (outer g))
    (hfield : ∀ g a, field (outer g a) = g (field a)) :
    (record s make).Sees gap 1 inner (fun a => some (field a)) outer where
  shallow {room} hroom v := by
    obtain rfl : room = 0 := by omega
    exact record_zero s make (gap v)
  read {room v a} ha := by
    cases hb : inner room v with
    | none =>
      rw [hgap.refused hnodup hname hread hrefused hb] at ha
      cases ha
    | some b =>
      refine ⟨b, rfl, ?_⟩
      -- to put in what is there already changes nothing, and what is put in is the field
      have hsame : inner room v = (inner room v).map fun _ => b := by rw [hb, Option.map_some]
      have hover := hgap.changed hnodup hname hread hchanged hsame
      rw [ha, Option.map_some] at hover
      rw [Option.some.inj hover, hfield]
  changed hw := hgap.changed hnodup hname hread hchanged hw

/-- A field that may be missing is seen as a value that may be null. -/
theorem Reader.sees_optional {r : Reader β} {field : α → Option β}
    {outer : (Option β → Option β) → α → α} (hgap : FieldGap s.names name gap)
    (hnodup : s.names.Nodup) (hname : name ∈ s.names)
    (hrefused : ∀ f, f.optional name r = none → make f = none)
    (hchanged : ∀ f f' g, Found.Beside name f f' →
      f'.optional name r = (f.optional name r).map g → make f' = (make f).map (outer g))
    (hfield : ∀ g a, field (outer g a) = g (field a)) :
    (record s make).Sees gap 1 (nullable r) (fun a => some (field a)) outer := by
  refine sees_record hgap hnodup hname (fun f v hv => ?_) hrefused hchanged hfield
  rw [Found.optional, hv]

theorem Reader.sees_orElse {r : Reader β} {default : β} {field : α → β}
    {outer : (β → β) → α → α} (hgap : FieldGap s.names name gap) (hnodup : s.names.Nodup)
    (hname : name ∈ s.names) (hrefused : ∀ f, f.orElse name r default = none → make f = none)
    (hchanged : ∀ f f' g, Found.Beside name f f' →
      f'.orElse name r default = (f.orElse name r default).map g → make f' = (make f).map (outer g))
    (hfield : ∀ g a, field (outer g a) = g (field a)) :
    (record s make).Sees gap 1 (Reader.orDefault r default) (fun a => some (field a)) outer := by
  refine sees_record hgap hnodup hname (fun f v hv => ?_) hrefused hchanged hfield
  rw [Found.orElse, Found.optional, hv, Reader.orDefault]

end

end Itinerary.Json
