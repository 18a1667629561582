import Itinerary.Proofs.Json.Reader
import Itinerary.Proofs.Keyed
import Itinerary.Proofs.Steps

/-!
# Fields side by side

Two records are compared field by field: where their members have the same keys, in the same order,
and values that are related under each key, the fields that are found in them are related as well
(`Found.SideBySide`). Nothing is asked of the members beyond that. A key may stand twice or be no
text, and a list may have too few items: then either both records are refused or none is
(`rel_ofMembers`, `rel_ofItems`).

A field that is found is a member with the name of the field, or an item at its place
(`value?_of_ofMembers_iff`, `value?_of_ofItems_iff`).
-/

namespace Itinerary.Json

variable {R : String → Value → Value → Prop}

/-! ### Entries and members -/

/-- Whether two entries have the same name, and values that are related under it. -/
def EntryRel (R : String → Value → Value → Prop) (e e' : String × Value) : Prop :=
  e.1 = e'.1 ∧ R e.1 e.2 e'.2

/-- Whether two members have the same key, and if it is a text, values that are related under it. -/
def MemberRel (R : String → Value → Value → Prop) (m m' : Literal × Value) : Prop :=
  m.1 = m'.1 ∧ ∀ name, m.1.plain? = some name → R name m.2 m'.2

theorem names_eq_of_entryRel {entries others : List (String × Value)}
    (h : List.Forall₂ (EntryRel R) entries others) : entries.map Prod.fst = others.map Prod.fst :=
  map_eq_map_of_forall₂ (h.imp fun _ _ he => he.1)

theorem entryRel_filter {entries others : List (String × Value)}
    (h : List.Forall₂ (EntryRel R) entries others) (keep : String → Bool) :
    List.Forall₂ (EntryRel R) (entries.filter fun e => keep e.1)
      (others.filter fun e => keep e.1) := by
  induction h with
  | nil => exact .nil
  | @cons e e' rest rest' he _ ih =>
    rw [List.filter_cons, List.filter_cons, ← he.1]
    split
    · exact .cons he ih
    · exact ih

/-- What is found under a name is related if the entries are. -/
theorem rel_lookup {entries others : List (String × Value)}
    (h : List.Forall₂ (EntryRel R) entries others) (name : String) :
    Option.Rel (R name) (entries.lookup name) (others.lookup name) := by
  induction h with
  | nil => exact .none
  | @cons e e' rest rest' he _ ih =>
    obtain ⟨key, v⟩ := e
    obtain ⟨key', w⟩ := e'
    obtain ⟨rfl, hvw⟩ : key = key' ∧ R key v w := he
    rw [List.lookup_cons, List.lookup_cons]
    -- the first entry of the name stands at the same place on either side
    by_cases hname : name = key
    · subst hname
      rw [beq_self_eq_true]
      exact .some hvw
    · rw [beq_eq_false_iff_ne.mpr hname]
      exact ih

/-- Related members have related entries, or both a key that is no text. -/
theorem rel_keyed {members others : List (Literal × Value)}
    (h : List.Forall₂ (MemberRel R) members others) :
    Option.Rel (List.Forall₂ (EntryRel R)) (Reader.keyed members) (Reader.keyed others) := by
  refine rel_mapM_of_forall₂ (h.imp ?_)
  rintro ⟨key, v⟩ ⟨key', w⟩ ⟨rfl, hvw⟩
  show Option.Rel _ (key.plain?.map (·, v)) (key.plain?.map (·, w))
  cases hkey : key.plain? with
  | none => exact .none
  | some name => exact .some ⟨rfl, hvw name hkey⟩

/-! ### Fields -/

namespace Found

/-- Whether the fields of two records are related, name by name. -/
structure SideBySide (R : String → Value → Value → Prop) (f g : Found) : Prop where
  room : f.room = g.room
  entries : List.Forall₂ (EntryRel R) f.entries g.entries

theorem SideBySide.value? {f g : Found} (h : SideBySide R f g) (name : String) :
    Option.Rel (R name) (f.value? name) (g.value? name) :=
  rel_lookup h.entries name

end Found

namespace Shape

/-- **Related members have related fields**, or both records are refused. -/
theorem rel_ofMembers {members others : List (Literal × Value)}
    (h : List.Forall₂ (MemberRel R) members others) (s : Shape) (room : Nat) :
    Option.Rel (Found.SideBySide R) (s.ofMembers room members) (s.ofMembers room others) := by
  have hkeyed := rel_keyed h
  rw [ofMembers, ofMembers]
  generalize Reader.keyed members = x, Reader.keyed others = y at hkeyed
  cases hkeyed with
  | none => exact .none
  | some hentries =>
    have hknown := entryRel_filter hentries s.names.contains
    dsimp only
    -- whether a known key stands twice can be told from the keys
    rw [names_eq_of_entryRel hknown]
    split
    · exact .some ⟨rfl, hknown⟩
    · exact .none

/-- **Related items have related fields**, or both records are refused. -/
theorem rel_ofItems {s : Shape} {items others : List Value} (hlength : items.length = others.length)
    (h : List.Forall₂ (EntryRel R) (s.names.zip items) (s.names.zip others)) (room : Nat) :
    Option.Rel (Found.SideBySide R) (s.ofItems room items) (s.ofItems room others) := by
  rw [ofItems, ofItems, hlength]
  split
  · exact .some ⟨rfl, h⟩
  · exact .none

/-! ### Where a field stands -/

/-- The fields of an object are entries of it, none of which has the name of another. -/
theorem exists_keyed_of_ofMembers {s : Shape} {room : Nat} {members : List (Literal × Value)}
    {f : Found} (h : s.ofMembers room members = some f) :
    ∃ entries, Reader.keyed members = some entries ∧ (f.entries.map Prod.fst).Nodup ∧
      f = ⟨room, entries.filter fun e => s.names.contains e.1⟩ := by
  rw [ofMembers] at h
  cases hkeyed : Reader.keyed members with
  | none =>
    rw [hkeyed] at h
    cases h
  | some entries =>
    rw [hkeyed] at h
    dsimp only at h
    split at h
    · next hnodup =>
      cases h
      exact ⟨entries, rfl, hnodup, rfl⟩
    · cases h

theorem mem_keyed_iff {members : List (Literal × Value)} {entries : List (String × Value)}
    (h : Reader.keyed members = some entries) {name : String} {v : Value} :
    (name, v) ∈ entries ↔ ∃ key, (key, v) ∈ members ∧ key.plain? = some name := by
  -- the entries are in step with the members, and the induction is on both at once
  have hstep := mapM_eq_some_iff.mp h
  clear h
  induction hstep with
  | nil => exact ⟨nofun, fun ⟨_, hmem, _⟩ => nomatch hmem⟩
  | @cons m e members entries he _ ih =>
    obtain ⟨key, w⟩ := m
    obtain ⟨name', hkey, rfl⟩ := Option.map_eq_some_iff.mp he
    -- either it is the first entry, or it comes from a member behind the first
    rw [List.mem_cons]
    constructor
    · rintro (heq | hmem)
      · obtain ⟨rfl, rfl⟩ := Prod.mk.inj heq
        exact ⟨key, List.mem_cons_self, hkey⟩
      · obtain ⟨key', hmem, hkey'⟩ := ih.mp hmem
        exact ⟨key', List.mem_cons_of_mem _ hmem, hkey'⟩
    · rintro ⟨key', hmem, hkey'⟩
      rcases List.mem_cons.mp hmem with heq | hmem
      · -- two texts of one key are the same
        obtain ⟨rfl, rfl⟩ := Prod.mk.inj heq
        obtain rfl := Option.some.inj (hkey'.symm.trans hkey)
        exact .inl rfl
      · exact .inr (ih.mpr ⟨key', hmem, hkey'⟩)

/-- **A field of an object is a member with its name.** -/
theorem value?_of_ofMembers_iff {s : Shape} {room : Nat} {members : List (Literal × Value)}
    {f : Found} (h : s.ofMembers room members = some f) {name : String} {v : Value} :
    f.value? name = some v ↔
      name ∈ s.names ∧ ∃ key, (key, v) ∈ members ∧ key.plain? = some name := by
  obtain ⟨entries, hkeyed, hnodup, rfl⟩ := exists_keyed_of_ofMembers h
  rw [Found.value?, lookup_eq_some_iff_mem hnodup, List.mem_filter, mem_keyed_iff hkeyed,
    List.contains_iff_mem, and_comm]

theorem eq_of_ofItems {s : Shape} {room : Nat} {items : List Value} {f : Found}
    (h : s.ofItems room items = some f) : f = ⟨room, s.names.zip items⟩ := by
  rw [ofItems] at h
  split at h
  · cases h; rfl
  · cases h

/-- **A field of a list is the item at its place.** -/
theorem value?_of_ofItems_iff {s : Shape} {room : Nat} {items : List Value} {f : Found}
    (hnodup : s.names.Nodup) (h : s.ofItems room items = some f) {name : String} {v : Value} :
    f.value? name = some v ↔ ∃ i : Nat, s.names[i]? = some name ∧ items[i]? = some v := by
  -- there may be fewer items than names, so the names of the fields are the first of them
  have hkeys : ((s.names.zip items).map Prod.fst).Nodup := by
    rw [List.zip_eq_zip_take_min, List.map_fst_zip (by simp)]
    exact hnodup.sublist (List.take_sublist _ _)
  rw [eq_of_ofItems h, Found.value?, lookup_eq_some_iff_mem hkeys, List.mem_iff_getElem?]
  refine exists_congr fun i => ?_
  rw [List.getElem?_zip_eq_some]

end Shape

end Itinerary.Json
