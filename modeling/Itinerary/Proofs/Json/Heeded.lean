import Itinerary.Proofs.Json.Reordered
import Itinerary.Proofs.Keyed

/-!
# What readers heed

A record takes a field that is null for one that is absent and passes over what it does not know.
What it heeds of a value is what is left without those, in the record itself and in the records
inside it (`Value.heeded`). A reader heeds no more than that if it reads two values alike whenever
they are the same in what it heeds, the order of members aside (`Reader.Heeds`).

This is shown of each kind of reader from what it is made of. For a record (`Reader.heeds_record`)
it comes down to its fields: both values have the same ones present, alike under each name
(`Found.Alike`), so whatever is made of the fields is the same (`Found.Alike.optional`).
-/

namespace Itinerary.Json

/-! ### What is heeded of a value -/

namespace Value

/-- Whether a value is null. -/
def isNull : Value → Bool
  | .null => true
  | _ => false

/-- What is heeded of the value of a field, by a table of the fields that hold records; of any other
it is all. -/
def within (parts : List (String × (Value → Value))) (name : String) : Value → Value :=
  (parts.lookup name).getD id

theorem within_nil (name : String) : within [] name = id := by
  rw [within, List.lookup_nil, Option.getD_none]

theorem within_cons (first : String) (p : Value → Value) (parts : List (String × (Value → Value)))
    (name : String) : within ((first, p) :: parts) name =
      if name = first then p else within parts name := by
  rw [within, List.lookup_cons]
  split
  · next h =>
    rw [if_pos (beq_iff_eq.mp h), Option.getD_some]
  · next h =>
    rw [if_neg (beq_eq_false_iff_ne.mp h), within]

/-- The entries that a record heeds: those of its fields that are not null. -/
def heededEntries (s : Shape) (parts : List (String × (Value → Value)))
    (entries : List (String × Value)) : List (String × Value) :=
  (entries.filter fun e => s.names.contains e.1 && !e.2.isNull).map fun e =>
    (e.1, within parts e.1 e.2)

/-- The items that a record in list form heeds. Their places say which fields they are, so none is
left out. -/
def heededItems (parts : List (String × (Value → Value))) : List String → List Value → List Value
  | name :: names, v :: items => within parts name v :: heededItems parts names items
  | _, items => items

theorem heededItems_nil (parts : List (String × (Value → Value))) (items : List Value) :
    heededItems parts [] items = items := by
  cases items <;> rfl

/-- What a record of a shape heeds of a value. -/
def heeded (s : Shape) (parts : List (String × (Value → Value))) : Value → Value
  | .object members =>
    match Reader.keyed members with
    | some entries => .record (heededEntries s parts entries)
    | none => .object members
  | .list items => .list (heededItems parts s.names items)
  | v => v

/-- What is heeded of a list, by what is heeded of its items. -/
def each (p : Value → Value) : Value → Value
  | .list items => .list (items.map p)
  | v => v

theorem each_id : each id = id := by
  funext v
  cases v with
  | list items => rw [each, List.map_id, id]
  | _ => rfl

theorem heeded_record (s : Shape) (parts : List (String × (Value → Value)))
    (entries : List (String × Value)) :
    heeded s parts (.record entries) = .record (heededEntries s parts entries) := by
  rw [record, heeded, Reader.keyed_record]

theorem mem_heededEntries {s : Shape} {parts : List (String × (Value → Value))}
    {entries : List (String × Value)} {name : String} {x : Value} :
    (name, x) ∈ heededEntries s parts entries ↔
      ∃ v, (name, v) ∈ entries ∧ name ∈ s.names ∧ v.isNull = false ∧ within parts name v = x := by
  rw [heededEntries, List.mem_map]
  constructor
  · rintro ⟨⟨name', v⟩, hmem, heq⟩
    obtain ⟨rfl, rfl⟩ := Prod.mk.inj heq
    obtain ⟨hmem, hkeep⟩ := List.mem_filter.mp hmem
    rw [Bool.and_eq_true, List.contains_iff_mem, Bool.not_eq_true'] at hkeep
    exact ⟨v, hmem, hkeep.1, hkeep.2, rfl⟩
  · rintro ⟨v, hmem, hname, hnull, rfl⟩
    refine ⟨(name, v), List.mem_filter.mpr ⟨hmem, ?_⟩, rfl⟩
    rw [Bool.and_eq_true, List.contains_iff_mem, Bool.not_eq_true']
    exact ⟨hname, hnull⟩

/-- Whether what is heeded of a value is null just if the value is. -/
def KeepsNull (p : Value → Value) : Prop := ∀ v, (p v).isNull = v.isNull

theorem keepsNull_heeded (s : Shape) (parts : List (String × (Value → Value))) :
    KeepsNull (heeded s parts) := by
  intro v
  cases v with
  | object members =>
    rw [heeded]
    split <;> rfl
  | _ => rfl

theorem keepsNull_each (p : Value → Value) : KeepsNull (each p) := by
  intro v
  cases v <;> rfl

theorem keepsNull_within {parts : List (String × (Value → Value))}
    (h : ∀ part ∈ parts, KeepsNull part.2) (name : String) : KeepsNull (within parts name) := by
  rw [within]
  cases hpart : parts.lookup name with
  | none => exact fun v => rfl
  | some p => exact h (name, p) (mem_of_lookup hpart)

/-- Values that are the same but for the order of members are null together. -/
theorem Reordered.isNull_eq {v w : Value} (h : v.Reordered w) : v.isNull = w.isNull := by
  cases h <;> rfl

end Value

open Value

/-! ### Fields -/

namespace Found

/-- The value of a field that is there and not null. -/
def present? (f : Found) (name : String) : Option Value := (f.value? name).filter (!·.isNull)

/-- A field is read from the value that is present. -/
theorem optional_eq {α : Type} (f : Found) (name : String) (r : Reader α) :
    f.optional name r = (f.present? name).elim (some none) fun v => (r f.room v).map some := by
  rw [optional, present?]
  cases f.value? name with
  | none => rfl
  | some v => cases v <;> rfl

/-- Whether the fields of two records are the same in what is heeded of them. -/
structure Alike (parts : List (String × (Value → Value))) (f g : Found) : Prop where
  room : f.room = g.room
  left : ∀ name v, f.value? name = some v → v.Regular f.room
  right : ∀ name w, g.value? name = some w → w.Regular g.room
  present : ∀ name, Option.Rel (fun v w => (within parts name v).Reordered (within parts name w))
    (f.present? name) (g.present? name)

end Found

/-- Whether a reader reads two values alike that are the same in what it heeds. -/
def Reader.Heeds {α : Type} (r : Reader α) (p : Value → Value) : Prop :=
  ∀ ⦃room : Nat⦄ ⦃v w : Value⦄, v.Regular room → w.Regular room → (p v).Reordered (p w) →
    r room v = r room w

namespace Found.Alike

variable {α : Type} {parts : List (String × (Value → Value))} {f g : Found}

/-- **A field is read alike from records that are alike.** -/
theorem optional (h : Alike parts f g) {name : String} {r : Reader α}
    (hr : r.Heeds (within parts name)) : f.optional name r = g.optional name r := by
  -- either both records have the field or neither has, and a null counts as absent in both
  have hrel := h.present name
  rw [optional_eq, optional_eq]
  cases hf : f.present? name with
  | none =>
    rw [hf] at hrel
    cases hg : g.present? name with
    | none => rfl
    | some w =>
      rw [hg] at hrel
      cases hrel
  | some v =>
    rw [hf] at hrel
    cases hg : g.present? name with
    | none =>
      rw [hg] at hrel
      cases hrel
    | some w =>
      rw [hg] at hrel
      cases hrel with
      | some hrel =>
      -- both values are heeded within the same parts, so the reader cannot tell them apart
      have hv := h.left name v (Option.filter_eq_some_iff.mp hf).1
      have hw := h.right name w (Option.filter_eq_some_iff.mp hg).1
      rw [← h.room] at hw
      rw [Option.elim_some, Option.elim_some, ← h.room, hr hv hw hrel]

theorem orElse (h : Alike parts f g) {name : String} {r : Reader α}
    (hr : r.Heeds (within parts name)) (default : α) :
    f.orElse name r default = g.orElse name r default := by
  rw [Found.orElse, Found.orElse, h.optional hr]

end Found.Alike

/-! ### Records as objects and as lists -/

/-- Values are related if each of the two is related to one that is there. -/
theorem rel_of_forall {R : Value → Value → Prop} {x y : Option Value}
    (hleft : ∀ v, x = some v → ∃ w, y = some w ∧ R v w)
    (hright : ∀ w, y = some w → ∃ v, x = some v ∧ R v w) : Option.Rel R x y := by
  cases x with
  | none =>
    cases y with
    | none => exact .none
    | some w =>
      -- nothing could be related to it
      obtain ⟨v, hv, -⟩ := hright w rfl
      cases hv
  | some v =>
    obtain ⟨w, rfl, hR⟩ := hleft v rfl
    exact .some hR

/-- Values that are related stay so when they are kept or left out together. -/
theorem rel_filter {R : Value → Value → Prop} {keep : Value → Bool} {x y : Option Value}
    (h : Option.Rel R x y) (hkeep : ∀ v w, R v w → keep v = keep w) :
    Option.Rel R (x.filter keep) (y.filter keep) := by
  cases h with
  | none => exact .none
  | some hvw =>
    rw [Option.filter_some, Option.filter_some, hkeep _ _ hvw]
    split
    · exact .some hvw
    · exact .none

section

variable {s : Shape} {parts : List (String × (Value → Value))} {room : Nat}
  {entries others : List (String × Value)}

/-- The fields of an object are its known entries. -/
theorem ofMembers_record (hnodup : (entries.map Prod.fst).Nodup) :
    s.ofMembers room (entries.map fun (k, v) => (Literal.ofString k, v)) =
      some ⟨room, entries.filter fun e => s.names.contains e.1⟩ := by
  have hknown := hnodup.sublist ((List.filter_sublist (p := fun e => s.names.contains e.1)).map
    Prod.fst)
  rw [Shape.ofMembers, Reader.keyed_record]
  exact if_pos hknown

/-- What is present in an object. -/
theorem present?_eq_some_iff (hnodup : (entries.map Prod.fst).Nodup) {name : String} {v : Value} :
    (Found.mk room (entries.filter fun e => s.names.contains e.1)).present? name = some v ↔
      (name, v) ∈ entries ∧ name ∈ s.names ∧ v.isNull = false := by
  have hknown := hnodup.sublist ((List.filter_sublist (p := fun e => s.names.contains e.1)).map
    Prod.fst)
  rw [Found.present?, Option.filter_eq_some_iff, Found.value?, lookup_eq_some_iff_mem hknown,
    List.mem_filter, List.contains_iff_mem, Bool.not_eq_true', and_assoc]

/-- **Objects that are the same in what is heeded of them have fields that are alike.** -/
theorem alike_of_entries (hnodup : (entries.map Prod.fst).Nodup)
    (hnodup' : (others.map Prod.fst).Nodup) (hregular : ∀ e ∈ entries, e.2.Regular room)
    (hregular' : ∀ e ∈ others, e.2.Regular room)
    (h : (record (heededEntries s parts entries)).Reordered
      (record (heededEntries s parts others))) :
    Found.Alike parts ⟨room, entries.filter fun e => s.names.contains e.1⟩
      ⟨room, others.filter fun e => s.names.contains e.1⟩ where
  room := rfl
  left name v hv := hregular _ (List.mem_filter.mp (mem_of_lookup hv)).1
  right name w hw := hregular' _ (List.mem_filter.mp (mem_of_lookup hw)).1
  present name := by
    -- a field that is present in one record has its partner in what is heeded of the other
    have hstep := h.inStep
    refine rel_of_forall (fun v hv => ?_) fun w hw => ?_
    · obtain ⟨hmem, hname, hnull⟩ := (present?_eq_some_iff hnodup).mp hv
      obtain ⟨x, hx, hR⟩ := hstep.left name _ (mem_heededEntries.mpr ⟨v, hmem, hname, hnull, rfl⟩)
      obtain ⟨w, hmem', -, hnull', rfl⟩ := mem_heededEntries.mp hx
      exact ⟨w, (present?_eq_some_iff hnodup').mpr ⟨hmem', hname, hnull'⟩, hR⟩
    · obtain ⟨hmem, hname, hnull⟩ := (present?_eq_some_iff hnodup').mp hw
      obtain ⟨x, hx, hR⟩ := hstep.right name _ (mem_heededEntries.mpr ⟨w, hmem, hname, hnull, rfl⟩)
      obtain ⟨v, hmem', -, hnull', rfl⟩ := mem_heededEntries.mp hx
      exact ⟨v, (present?_eq_some_iff hnodup).mpr ⟨hmem', hname, hnull'⟩, hR⟩

/-- Items in step are values in step under every name. -/
theorem rel_lookup_zip {names : List String} {items items' : List Value}
    (h : List.Forall₂ Reordered (heededItems parts names items) (heededItems parts names items'))
    (name : String) :
    Option.Rel (fun v w => (within parts name v).Reordered (within parts name w))
      ((names.zip items).lookup name) ((names.zip items').lookup name) := by
  -- along the names: what is looked up is what stands at the place of the name
  induction names generalizing items items' with
  | nil => exact .none
  | cons first names ih =>
    -- a list that is shorter than the names lacks what is looked up, and so does the other one
    cases items with
    | nil =>
      cases items' with
      | nil => exact .none
      | cons w items' => cases h
    | cons v items =>
      cases items' with
      | nil => cases h
      | cons w items' =>
        cases h with
        | cons hvw h =>
        rw [List.zip_cons_cons, List.zip_cons_cons, List.lookup_cons, List.lookup_cons]
        by_cases hname : name = first
        · subst hname
          rw [beq_self_eq_true]
          exact .some hvw
        · rw [beq_eq_false_iff_ne.mpr hname]
          exact ih h

theorem length_heededItems (names : List String) (items : List Value) :
    (heededItems parts names items).length = items.length := by
  induction names generalizing items with
  | nil => rw [heededItems_nil]
  | cons name names ih =>
    cases items with
    | nil => rfl
    | cons v items => rw [heededItems, List.length_cons, List.length_cons, ih]

/-- **Lists that are the same in what is heeded of them have fields that are alike.** -/
theorem alike_of_items {names : List String} {items items' : List Value}
    (hparts : ∀ part ∈ parts, KeepsNull part.2) (hregular : ∀ v ∈ items, v.Regular room)
    (hregular' : ∀ v ∈ items', v.Regular room)
    (h : List.Forall₂ Reordered (heededItems parts names items) (heededItems parts names items')) :
    Found.Alike parts ⟨room, names.zip items⟩ ⟨room, names.zip items'⟩ where
  room := rfl
  left name v hv := hregular v (List.of_mem_zip (mem_of_lookup hv)).2
  right name w hw := hregular' w (List.of_mem_zip (mem_of_lookup hw)).2
  present name := by
    refine rel_filter (rel_lookup_zip h name) fun v w hvw => ?_
    -- a value is null just if what is heeded of it is, which the order of members does not change
    have hnull := hvw.isNull_eq
    rw [keepsNull_within hparts, keepsNull_within hparts] at hnull
    rw [hnull]

end

/-! ### Readers -/

namespace Reader

variable {α : Type} {r : Reader α} {p : Value → Value}

/-- A reader of values without parts heeds all of them. -/
theorem heeds_of_leaf (hlist : ∀ room items, r room (.list items) = none)
    (hobject : ∀ room members, r room (.object members) = none) : r.Heeds id := by
  intro room v w hv hw h
  change v.Reordered w at h
  cases h with
  | list => rw [hlist, hlist]
  | object => rw [hobject, hobject]
  | _ => rfl

theorem heeds_string : string.Heeds id := heeds_of_leaf (fun _ _ => rfl) fun _ _ => rfl

theorem heeds_bool : bool.Heeds id := heeds_of_leaf (fun _ _ => rfl) fun _ _ => rfl

theorem heeds_float : float.Heeds id := heeds_of_leaf (fun _ _ => rfl) fun _ _ => rfl

theorem heeds_int64 : int64.Heeds id := heeds_of_leaf (fun _ _ => rfl) fun _ _ => rfl

/-- Taking a value in whole makes no difference to a regular one. -/
theorem heeds_whole (h : r.Heeds p) : (whole r).Heeds p := by
  intro room v w hv hw hvw
  rw [whole, whole, if_pos hv.settled, if_pos hw.settled]
  exact h hv hw hvw

theorem list_eq_none {v : Value} (h : ∀ items, v ≠ .list items) (room : Nat) :
    list r room v = none := by
  cases v with
  | list items => exact absurd rfl (h items)
  | _ => cases room <;> rfl

/-- **A list heeds what is heeded of its items.** -/
theorem heeds_list (h : r.Heeds p) : (list r).Heeds (each p) := by
  intro room v w hv hw hvw
  cases hv with
  | list hv =>
    cases hw with
    | list hw =>
      -- both are lists of as many items, and the items are read alike one by one
      cases hvw with
      | list hvw =>
      rw [List.forall₂_map_left_iff, List.forall₂_map_right_iff] at hvw
      refine mapM_eq_mapM_of_forall₂ (forall₂_of_mem hvw fun v hmem w hmem' hvw => ?_)
      exact h (hv v hmem) (hw w hmem') hvw
    | _ => cases hvw
  | _ =>
    cases hw with
    | list => cases hvw
    | _ =>
      refine (list_eq_none ?_ _).trans (list_eq_none ?_ _).symm <;>
      · rintro items ⟨⟩

/-- What is neither an object nor a list is not read as a record. -/
theorem record_eq_none {s : Shape} {make : Found → Option α} {v : Value}
    (hlist : ∀ items, v ≠ .list items) (hobject : ∀ members, v ≠ .object members) (room : Nat) :
    record s make room v = none := by
  cases v with
  | list items => exact absurd rfl (hlist items)
  | object members => exact absurd rfl (hobject members)
  | _ => cases room <;> rfl

/-- **A record heeds its fields**, if what it makes of them is the same for fields that are alike. -/
theorem heeds_record {s : Shape} {parts : List (String × (Value → Value))}
    {make : Found → Option α} (hparts : ∀ part ∈ parts, KeepsNull part.2)
    (hmake : ∀ f g, Found.Alike parts f g → make f = make g) :
    (record s make).Heeds (heeded s parts) := by
  intro room v w hv hw hvw
  cases hv with
  | record hnodup hv =>
    rw [heeded_record] at hvw
    cases hw with
    | record hnodup' hw =>
      rw [heeded_record] at hvw
      -- two objects: members by name
      show (s.ofMembers _ _).bind make = (s.ofMembers _ _).bind make
      rw [ofMembers_record hnodup, ofMembers_record hnodup']
      exact hmake _ _ (alike_of_entries hnodup hnodup' hv hw hvw)
    | _ => cases hvw
  | list hv =>
    cases hw with
    | list hw =>
      cases hvw with
      | list hvw =>
      have hlength := hvw.length_eq
      rw [length_heededItems, length_heededItems] at hlength
      -- two lists: members by place, and of the same number
      show (s.ofItems _ _).bind make = (s.ofItems _ _).bind make
      rw [Shape.ofItems, Shape.ofItems, hlength]
      split
      · exact hmake _ _ (alike_of_items hparts hv hw hvw)
      · rfl
    | record =>
      rw [heeded_record] at hvw
      cases hvw
    | _ => cases hvw
  | _ =>
    -- of anything else there is no record on either side
    cases hw with
    | list => cases hvw
    | record =>
      rw [heeded_record] at hvw
      cases hvw
    | _ =>
      refine (record_eq_none ?_ ?_ _).trans (record_eq_none ?_ ?_ _).symm <;>
      · rintro parts ⟨⟩

end Reader

end Itinerary.Json
