import Mathlib.Data.List.Sort
import Itinerary.Feed.Interpretation
import Itinerary.Proofs.Feed.Delays
import Itinerary.Proofs.Text.Utf8

/-!
# What alerts are shown as

The alerts of a connection or a leg come as an object by key, and they are shown in an order of
their own: the bytes of the keys ascend, in whatever order the members stand in the body
(`Alerts.Shown.ascending`). Every key is shown once, and of a key that is repeated only the last
member counts (`Alerts.last?`, `Alerts.Shown.eq_of_last?`). Two things could get in the way. The
keyed collection is sorted by the characters of its keys, which happens to be the order of their
bytes (`Text.Utf8.encode_lt_encode`). And members that stand for one key need not be written alike,
since a letter may be escaped, so that it is their texts that are compared.

A time range that cannot be read is left out of its alert and costs nothing else
(`Alert.reader_timeRange`). All other faults cost the whole response. The object is first taken in
whole, in the room that is left where it stands, so an alert has to be readable in all its parts,
and it has to be one (`Alerts.IsAlert`). An empty list stands for no alerts, and a list with an item
is refused (`Alerts.exists_fieldReader_iff`).
-/

namespace Itinerary.Feed

open Json Text

/-! ### Alerts by key -/

namespace Alerts

/-- The value of the last member with a key. -/
def last? (members : List (Literal × Value)) (key : String) : Option Value :=
  members.reverse.findSome? fun m => if m.1.plain? = some key then some m.2 else none

/-- What is shown of the members of an object of alerts. -/
structure Shown (room : Nat) (members : List (Literal × Value)) (ds : List Disruption) : Prop where
  /-- the keys ascend strictly, byte by byte -/
  ascending : ds.Pairwise fun d d' => Utf8.encode d.key < Utf8.encode d'.key
  /-- they are the keys of the members -/
  keys (key : String) : (∃ d ∈ ds, d.key = key) ↔ ∃ m ∈ members, m.1.plain? = some key
  /-- each is made of the last member with its key -/
  last (d : Disruption) (h : d ∈ ds) : ∃ v a, last? members d.key = some v ∧
    Alert.reader room v = some a ∧
    d = ⟨d.key, a.id, a.header, a.lead, a.text, a.timeRange.bind TimeRange.ofString?⟩

theorem entry_eq_some_iff {room : Nat} {m : Literal × Value} {e : String × Alert} :
    entry room m = some e ↔ m.1.plain? = some e.1 ∧ Alert.reader room m.2 = some e.2 := by
  obtain ⟨key, a⟩ := e
  rw [entry]
  constructor
  · intro h
    obtain ⟨key', hkey, h⟩ := Option.bind_eq_some_iff.mp h
    obtain ⟨a', ha, h⟩ := Option.bind_eq_some_iff.mp h
    obtain ⟨rfl, rfl⟩ := Prod.mk.inj (Option.some.inj h)
    exact ⟨hkey, ha⟩
  · rintro ⟨hkey, ha⟩
    rw [hkey, ha]
    rfl

section

variable {room : Nat} {members others : List (Literal × Value)} {entries : List (String × Alert)}
  {ds ds' : List Disruption} {key : String} {v : Value}

theorem exists_mem_of_last? (h : last? members key = some v) :
    ∃ m ∈ members, m.1.plain? = some key := by
  obtain ⟨m, hm, hv⟩ := List.exists_of_findSome?_eq_some h
  split at hv
  · next hkey => exact ⟨m, List.mem_reverse.mp hm, hkey⟩
  · cases hv

/-- The last members with a key are related if all members are. -/
theorem rel_last? {R : Value → Value → Prop}
    (h : List.Forall₂ (fun m m' => m.1.plain? = m'.1.plain? ∧ R m.2 m'.2) members others)
    (key : String) : Option.Rel R (last? members key) (last? others key) := by
  refine rel_findSome?_of_forall₂ ((List.forall₂_reverse_iff.mpr h).imp fun m m' hm => ?_)
  rw [hm.1]
  split
  · exact .some hm.2
  · exact .none

/-- Under a key the last member is read. -/
theorem rel_find?_ofList (h : List.Forall₂ (fun m e => entry room m = some e) members entries)
    (key : String) : Option.Rel (fun v a => Alert.reader room v = some a) (last? members key)
      ((Keyed.ofList entries).find? key) := by
  -- the last is the first from behind, so members and entries are gone through backwards
  rw [Keyed.find?_ofList, List.lookup_eq_findSome?]
  refine rel_findSome?_of_forall₂ ((List.forall₂_reverse_iff.mpr h).imp fun m e hme => ?_)
  obtain ⟨hkey, ha⟩ := entry_eq_some_iff.mp hme
  rw [hkey]
  by_cases heq : key = e.1
  · rw [if_pos (congrArg some heq.symm), if_pos (beq_iff_eq.mpr heq)]
    exact .some ha
  · rw [if_neg fun h => heq (Option.some.inj h).symm, if_neg fun h => heq (beq_iff_eq.mp h)]
    exact .none

theorem mem_keys_iff (h : List.Forall₂ (fun m e => entry room m = some e) members entries) :
    key ∈ (Keyed.ofList entries).keys ↔ ∃ m ∈ members, m.1.plain? = some key := by
  rw [Keyed.mem_keys_ofList, List.mem_map]
  constructor
  · rintro ⟨e, he, rfl⟩
    obtain ⟨m, hm, hme⟩ := exists_mem_of_forall₂ h.flip he
    exact ⟨m, hm, (entry_eq_some_iff.mp hme).1⟩
  · rintro ⟨m, hm, hkey⟩
    obtain ⟨e, he, hme⟩ := exists_mem_of_forall₂ h hm
    exact ⟨e, he, Option.some.inj ((entry_eq_some_iff.mp hme).1.symm.trans hkey)⟩

/-- **Alerts are shown by their keys.** -/
theorem shown_ofList (h : List.Forall₂ (fun m e => entry room m = some e) members entries) :
    Shown room members (disruptionsOf (some (Keyed.ofList entries))) where
  ascending := by
    refine List.pairwise_map.mpr ((Keyed.ofList entries).ascending.imp fun hlt => ?_)
    exact Utf8.encode_lt_encode hlt
  keys key := by
    rw [← mem_keys_iff h, Keyed.keys, List.mem_map, disruptionsOf]
    constructor
    · rintro ⟨d, hd, rfl⟩
      obtain ⟨e, he, rfl⟩ := List.mem_map.mp hd
      exact ⟨e, he, rfl⟩
    · rintro ⟨e, he, rfl⟩
      exact ⟨e.2.disruption e.1, List.mem_map_of_mem he, rfl⟩
  last d hd := by
    obtain ⟨⟨key, a⟩, he, rfl⟩ := List.mem_map.mp hd
    -- an entry is what is found under its key, since no key stands twice
    have hnodup : (Keyed.ofList entries).keys.Nodup :=
      (Keyed.ofList entries).pairwise_keys.imp String.ne_of_lt
    have hfind : (Keyed.ofList entries).find? key = some a :=
      (lookup_eq_some_iff_mem hnodup).mpr he
    have hrel := rel_find?_ofList h key
    rw [hfind] at hrel
    generalize hlast : last? members key = x at hrel
    cases hrel with
    | some ha => exact ⟨_, a, hlast, ha, rfl⟩

theorem Shown.subset_of_last? (h : Shown room members ds) (h' : Shown room others ds')
    (hlast : ∀ key, last? members key = last? others key) : ds ⊆ ds' := by
  intro d hd
  obtain ⟨v, a, hv, ha, heq⟩ := h.last d hd
  -- its key is one of the others, and what is shown there is made of the same value
  obtain ⟨d', hd', hkey⟩ := (h'.keys d.key).mpr (exists_mem_of_last? ((hlast d.key).symm.trans hv))
  obtain ⟨v', a', hv', ha', heq'⟩ := h'.last d' hd'
  rw [hkey, ← hlast, hv] at hv'
  obtain rfl := Option.some.inj hv'
  obtain rfl := Option.some.inj (ha.symm.trans ha')
  rw [hkey] at heq'
  rw [heq, ← heq']
  exact hd'

/-- **Nothing but the last member of each key counts**: not the order of the keys, and none of the
members in front. -/
theorem Shown.eq_of_last? (h : Shown room members ds) (h' : Shown room others ds')
    (hlast : ∀ key, last? members key = last? others key) : ds = ds' := by
  have hirrefl : Std.Irrefl fun d d' : Disruption => Utf8.encode d.key < Utf8.encode d'.key :=
    ⟨fun d => List.lt_irrefl _⟩
  have hantisymm : Std.Antisymm fun d d' : Disruption => Utf8.encode d.key < Utf8.encode d'.key :=
    ⟨fun d d' hlt hgt => absurd (List.lt_trans hlt hgt) (List.lt_irrefl _)⟩
  exact List.Subset.antisymm_of_pairwise h.ascending h'.ascending (h.subset_of_last? h' hlast)
    (h'.subset_of_last? h fun key => (hlast key).symm)

/-! ### Time ranges -/

/-- Whether what is read of one value is read of another one too, and shown alike. -/
def ShownAlike (room : Nat) (v w : Value) : Prop :=
  ∀ a, Alert.reader room v = some a →
    ∃ b, Alert.reader room w = some b ∧ ∀ key, b.disruption key = a.disruption key

theorem shownAlike_refl (room : Nat) (v : Value) : ShownAlike room v v :=
  fun a ha => ⟨a, ha, fun _ => rfl⟩

theorem Shown.of_shownAlike (h : Shown room members ds)
    (hmembers : List.Forall₂ (fun m m' => m.1.plain? = m'.1.plain? ∧ ShownAlike room m.2 m'.2)
      members others) : Shown room others ds where
  ascending := h.ascending
  keys key := by
    rw [h.keys]
    constructor
    · rintro ⟨m, hm, hkey⟩
      obtain ⟨m', hm', hmm', -⟩ := exists_mem_of_forall₂ hmembers hm
      exact ⟨m', hm', hmm'.symm.trans hkey⟩
    · rintro ⟨m', hm', hkey⟩
      obtain ⟨m, hm, hmm', -⟩ := exists_mem_of_forall₂ hmembers.flip hm'
      exact ⟨m, hm, hmm'.trans hkey⟩
  last d hd := by
    -- the last members of a key are shown alike as well
    obtain ⟨v, a, hv, ha, heq⟩ := h.last d hd
    have hrel := rel_last? hmembers d.key
    rw [hv] at hrel
    generalize last? others d.key = x at hrel ⊢
    cases hrel with
    | some halike =>
      obtain ⟨b, hb, hshown⟩ := halike a ha
      exact ⟨_, b, rfl, hb, heq.trans (hshown d.key).symm⟩

end

end Alerts

section

variable {gap : Value → Value}

theorem focus_alert_timeRange (h : FieldGap Alert.shape.names "timerange" gap) :
    Alert.reader.Focus gap (Reader.nullable Reader.string) fun g a =>
      { a with timeRange := g a.timeRange } := by
  apply Reader.focus_optional h (by decide) (by decide)
  · intro f hnone
    simp only [hnone, Option.bind_eq_bind, Option.bind_none, Option.bind_fun_none]
  · intro f f' g hf hread
    simp only [hf.optional, hread, ne_eq, String.reduceEq, not_false_eq_true]
    repeat first
      | refine map_bind_eq_map fun _ => ?_
      | refine bind_eq_map_bind fun _ => ?_
    rfl

/-- **Any text may stand where a time range does**: the alert is read as if there were none, but for
the text. -/
theorem Alert.reader_timeRange (h : FieldGap Alert.shape.names "timerange" gap) {l : Literal}
    {s : String} (hl : l.plain? = some s) (room : Nat) :
    Alert.reader room (gap (.text l)) =
      (Alert.reader room (gap .null)).map fun a => { a with timeRange := some s } := by
  refine (focus_alert_timeRange h).changed (g := fun _ => some s) (fun room => ?_) room
  show (l.plain?.map some) = _
  rw [hl]
  rfl

/-- A time range that cannot be read is left out. -/
theorem Alerts.shownAlike_timeRange (h : FieldGap Alert.shape.names "timerange" gap) {l : Literal}
    {s : String} (hl : l.plain? = some s) (hs : TimeRange.ofString? s = none) (room : Nat) :
    ShownAlike room (gap .null) (gap (.text l)) := by
  intro a ha
  refine ⟨{ a with timeRange := some s }, ?_, fun key => ?_⟩
  · rw [Alert.reader_timeRange h hl, ha]
    rfl
  · -- null is none, so nothing changes if it is taken for none once more
    have hsame := (focus_alert_timeRange h).changed (v := .null) (w := .null) (g := fun _ => none)
      (fun _ => rfl) room
    rw [ha] at hsame
    have hnone : a.timeRange = none := congrArg Alert.timeRange (Option.some.inj hsame)
    simp only [Alert.disruption, hnone, Option.bind_some, Option.bind_none, hs]

end

/-! ### Objects of alerts -/

namespace Alerts

/-- Whether a member is an alert under a key, readable in all its parts. -/
structure IsAlert (room : Nat) (m : Literal × Value) : Prop where
  key : ∃ key, m.1.plain? = some key
  settled : Reader.settled room m.2 = true
  alert : ∃ a, Alert.reader room m.2 = some a

/-- What may stand where alerts do. -/
inductive Readable (room : Nat) : Value → Prop
  | null : Readable room .null
  /-- the empty list, for none -/
  | none : Readable room (.list [])
  | byKey {members : List (Literal × Value)} (h : ∀ m ∈ members, IsAlert room m) :
    Readable room (.object members)

/-- What is shown of what stands there. -/
inductive Shows (room : Nat) : Value → List Disruption → Prop
  | null : Shows room .null []
  | none : Shows room (.list []) []
  | byKey {members : List (Literal × Value)} {ds : List Disruption} (h : Shown room members ds) :
    Shows room (.object members) ds

/-- Reads the alerts of a connection or a leg, which may be null. -/
abbrev fieldReader : Reader (Option Alerts) := Reader.orDefault lenientReader none

section

variable {room : Nat} {members : List (Literal × Value)} {v : Value}

/-- What is read of an object, if anything is. -/
theorem fieldReader_object_iff {x : Option Alerts} :
    fieldReader (room + 1) (.object members) = some x ↔
      Reader.settledMembers room members = true ∧
        ∃ entries, List.Forall₂ (fun m e => entry room m = some e) members entries ∧
          x = some (Keyed.ofList entries) := by
  -- an object is no text and no list, so only the reader by key applies
  have hread : lenientReader (room + 1) (.object members) =
      if Reader.settledMembers room members = true then
        ((members.mapM (entry room)).map Keyed.ofList).map some
      else none := rfl
  have hnull : Value.object members ≠ .null := nofun
  rw [fieldReader, Reader.orDefault_of_ne_null hnull, hread]
  split
  · next hsettled =>
    rw [Option.map_map, Option.map_eq_some_iff]
    constructor
    · rintro ⟨entries, hentries, rfl⟩
      exact ⟨hsettled, entries, mapM_eq_some_iff.mp hentries, rfl⟩
    · rintro ⟨-, entries, hentries, rfl⟩
      exact ⟨entries, mapM_eq_some_iff.mpr hentries, rfl⟩
  · next hsettled => exact ⟨nofun, fun h => absurd h.1 hsettled⟩

theorem exists_reader_of_fieldReader {x : Option Alerts} (h : fieldReader room v = some x)
    (hnull : v ≠ .null) (hlist : v ≠ .list []) :
    ∃ alerts, Alerts.reader room v = some alerts := by
  rw [fieldReader, Reader.orDefault_of_ne_null hnull, lenientReader, Reader.whole] at h
  split at h
  · split at h
    · exact absurd rfl hlist
    · obtain ⟨alerts, halerts, -⟩ := Option.map_eq_some_iff.mp h
      exact ⟨alerts, halerts⟩
  · cases h

theorem exists_fieldReader_object (h : ∀ m ∈ members, IsAlert room m) :
    ∃ x, fieldReader (room + 1) (.object members) = some x := by
  have hsettled : Reader.settledMembers room members = true :=
    Reader.settledMembers_iff.mpr fun m hm =>
      ⟨Option.isSome_iff_exists.mpr (h m hm).key, (h m hm).settled⟩
  have hentries : members.mapM (entry room) = some (members.filterMap (entry room)) := by
    rw [mapM_eq_ite, if_pos]
    refine List.all_eq_true.mpr fun m hm => Option.isSome_iff_exists.mpr ?_
    obtain ⟨key, hkey⟩ := (h m hm).key
    obtain ⟨a, ha⟩ := (h m hm).alert
    exact ⟨(key, a), entry_eq_some_iff.mpr ⟨hkey, ha⟩⟩
  exact ⟨_, fieldReader_object_iff.mpr ⟨hsettled, _, mapM_eq_some_iff.mp hentries, rfl⟩⟩

/-- **What may stand where alerts do**: null, the empty list, or an object of alerts. -/
theorem exists_fieldReader_iff :
    (∃ x, fieldReader (room + 1) v = some x) ↔ Readable room v := by
  constructor
  · rintro ⟨x, hx⟩
    cases v with
    | null => exact .null
    | object members =>
      -- an object is read if each member is, and then it can be told of each by itself
      obtain ⟨hsettled, entries, hentries, -⟩ := fieldReader_object_iff.mp hx
      refine .byKey fun m hm => ?_
      obtain ⟨hkey, hm'⟩ := Reader.settledMembers_iff.mp hsettled m hm
      obtain ⟨e, -, he⟩ := exists_mem_of_forall₂ hentries hm
      exact ⟨Option.isSome_iff_exists.mp hkey, hm', e.2, (entry_eq_some_iff.mp he).2⟩
    | list items =>
      cases items with
      | nil => exact .none
      | cons w ws => obtain ⟨_, ⟨⟩⟩ := exists_reader_of_fieldReader hx nofun nofun
    | _ => obtain ⟨_, ⟨⟩⟩ := exists_reader_of_fieldReader hx nofun nofun
  · intro h
    cases h with
    | null => exact ⟨_, rfl⟩
    | none => exact ⟨_, rfl⟩
    | byKey hall => exact exists_fieldReader_object hall

theorem shows_of_fieldReader {x : Option Alerts} (h : fieldReader (room + 1) v = some x) :
    Shows room v (disruptionsOf x) := by
  cases exists_fieldReader_iff.mp ⟨x, h⟩ with
  | null =>
    obtain rfl : none = x := Option.some.inj h
    exact .null
  | none =>
    obtain rfl : none = x := Option.some.inj h
    exact .none
  | byKey =>
    obtain ⟨-, entries, hentries, rfl⟩ := fieldReader_object_iff.mp h
    exact .byKey (shown_ofList hentries)

/-- Objects with the same last member for each key are shown alike. -/
theorem disruptionsOf_eq_of_last? {others : List (Literal × Value)} {x x' : Option Alerts}
    (h : fieldReader (room + 1) (.object members) = some x)
    (h' : fieldReader (room + 1) (.object others) = some x')
    (hlast : ∀ key, last? members key = last? others key) :
    disruptionsOf x = disruptionsOf x' := by
  cases shows_of_fieldReader h with
  | byKey hshown =>
    cases shows_of_fieldReader h' with
    | byKey hshown' => exact hshown.eq_of_last? hshown' hlast

/-! ### Time ranges in their places -/

section

variable {hole : Value → Value} {key l : Literal} {s : String}
  {before after : List (Literal × Value)}

/-- A text in the place of a time range makes no alert unreadable. -/
theorem isAlert_timeRange (h : FieldGap Alert.shape.names "timerange" hole)
    (hl : l.plain? = some s) (hnull : IsAlert room (key, hole .null)) :
    IsAlert room (key, hole (.text l)) where
  key := hnull.key
  -- a text is taken in like a null
  settled := by
    have htext : ∀ room, Reader.settled room (.text l) = Reader.settled room .null := by
      intro room
      rw [Reader.settled, Reader.settled, hl, Option.isSome_some]
    exact (h.settled_eq htext room).trans hnull.settled
  alert := by
    obtain ⟨a, ha⟩ := hnull.alert
    refine ⟨{ a with timeRange := some s }, ?_⟩
    rw [Alert.reader_timeRange h hl, ha]
    rfl

theorem readable_timeRange (h : FieldGap Alert.shape.names "timerange" hole)
    (hl : l.plain? = some s)
    (hnull : Readable room (.object (before ++ (key, hole .null) :: after))) :
    Readable room (.object (before ++ (key, hole (.text l)) :: after)) := by
  cases hnull with
  | byKey hall =>
    refine .byKey ?_
    rw [List.forall_mem_append, List.forall_mem_cons] at hall ⊢
    exact ⟨hall.1, isAlert_timeRange h hl hall.2.1, hall.2.2⟩

/-- **A time range that cannot be read is as good as none.** -/
theorem disruptionsOf_timeRange (h : FieldGap Alert.shape.names "timerange" hole)
    (hl : l.plain? = some s) (hs : TimeRange.ofString? s = none) {x x' : Option Alerts}
    (hnull : fieldReader (room + 1) (.object (before ++ (key, hole .null) :: after)) = some x)
    (htext : fieldReader (room + 1) (.object (before ++ (key, hole (.text l)) :: after)) =
      some x') :
    disruptionsOf x' = disruptionsOf x := by
  have halike := shownAlike_timeRange h hl hs room
  cases shows_of_fieldReader hnull with
  | byKey hshown =>
    cases shows_of_fieldReader htext with
    | byKey hshown' =>
      -- what is shown without the text can be shown with it, and nothing else can
      refine hshown'.eq_of_last? (hshown.of_shownAlike ?_) fun _ => rfl
      exact forall₂_append_cons (fun m => ⟨rfl, shownAlike_refl room m.2⟩) ⟨rfl, halike⟩ before
        after

end

end

end Alerts

/-! ### Alerts in their places -/

section

variable {gap : Value → Value}

theorem sees_connection_alerts (h : FieldGap Connection.shape.names "disruptions" gap) :
    Connection.reader.Sees gap 1 Alerts.fieldReader (fun c => some c.alerts) fun g c =>
      { c with alerts := g c.alerts } := by
  apply Reader.sees_orElse h (by decide) (by decide)
  · intro f hnone
    simp only [hnone, Option.bind_eq_bind, Option.bind_none, Option.bind_fun_none]
  · intro f f' g hf hread
    -- no other step reads the field, and what this one reads is taken as it is
    simp only [hf.optional, hf.orElse, hread, ne_eq, String.reduceEq, not_false_eq_true]
    repeat first
      | refine map_bind_eq_map fun _ => ?_
      | refine bind_eq_map_bind fun _ => ?_
    rfl
  · intro g c
    rfl

theorem sees_leg_alerts (h : FieldGap Leg.shape.names "disruptions" gap) :
    Leg.reader.Sees gap 1 Alerts.fieldReader (fun l => some l.alerts) fun g l =>
      { l with alerts := g l.alerts } := by
  apply Reader.sees_orElse h (by decide) (by decide)
  · intro f hnone
    simp only [hnone, Option.bind_eq_bind, Option.bind_none, Option.bind_fun_none]
  · intro f f' g hf hread
    simp only [hf.optional, hf.orElse, hread, ne_eq, String.reduceEq, not_false_eq_true]
    repeat first
      | refine map_bind_eq_map fun _ => ?_
      | refine bind_eq_map_bind fun _ => ?_
    rfl
  · intro g l
    rfl

end

/-- Where alerts stand in a response. -/
inductive AlertSpot where
  /-- in a connection -/
  | connection (position : Nat)
  /-- in a leg of a connection -/
  | leg (connection position : Nat)
deriving DecidableEq, Repr

namespace AlertSpot

/-- The levels that are opened in front of the alerts. -/
def depth : AlertSpot → Nat
  | connection _ => 3
  | leg _ _ => 5

/-- The levels that may open inside the members of the alerts. -/
def room (spot : AlertSpot) : Nat := maxRoom - spot.depth - 1

theorem room_add_depth (spot : AlertSpot) : spot.room + 1 + spot.depth = maxRoom := by
  cases spot <;> rfl

/-- The alerts that are read there, if the response has the place. -/
def alerts? (spot : AlertSpot) (r : Response) : Option (Option Alerts) :=
  match spot with
  | connection i => do
    let c ← (← r.connections)[i]?
    return c.alerts
  | leg i j => do
    let c ← (← r.connections)[i]?
    let l ← c.legs[j]?
    return l.alerts

/-- A response with a change of the alerts there. -/
def change (spot : AlertSpot) (g : Option Alerts → Option Alerts) (r : Response) : Response :=
  { r with
    connections := r.connections.map fun cs =>
      match spot with
      | connection i => cs.modify i fun c => { c with alerts := g c.alerts }
      | leg i j => cs.modify i fun c =>
          { c with legs := c.legs.modify j fun l => { l with alerts := g l.alerts } } }

end AlertSpot

/-- What is left of a response without the value of the alerts. -/
inductive Response.AlertGap : AlertSpot → (Value → Value) → Prop
  | connection {outer item gap : Value → Value} {position : Nat}
    (hconnections : FieldGap shape.names "connections" outer) (hconnection : ItemGap position item)
    (h : FieldGap Connection.shape.names "disruptions" gap) :
    AlertGap (.connection position) (outer ∘ item ∘ gap)
  | leg {outer item inner legItem gap : Value → Value} {connection position : Nat}
    (hconnections : FieldGap shape.names "connections" outer)
    (hconnection : ItemGap connection item)
    (hlegs : FieldGap Connection.shape.names "legs" inner) (hleg : ItemGap position legItem)
    (h : FieldGap Leg.shape.names "disruptions" gap) :
    AlertGap (.leg connection position) (outer ∘ item ∘ inner ∘ legItem ∘ gap)

theorem Response.sees_alerts {spot : AlertSpot} {gap : Value → Value}
    (h : Response.AlertGap spot gap) :
    Response.reader.Sees gap spot.depth Alerts.fieldReader spot.alerts? spot.change := by
  cases h with
  | connection hconnections hconnection h =>
    have hlist := (Reader.sees_list hconnection).comp (sees_connection_alerts h)
    exact (sees_response_connections hconnections).comp
      (hlist.nullable fun v => hconnection.ne_null _)
  | leg hconnections hconnection hlegs hleg h =>
    have hlist := (Reader.sees_list hleg).comp (sees_leg_alerts h)
    have hlegs := (sees_connection_legs hlegs).comp
      (hlist.orDefault (fun v => hleg.ne_null _) [])
    have hlist := (Reader.sees_list hconnection).comp hlegs
    exact (sees_response_connections hconnections).comp
      (hlist.nullable fun v => hconnection.ne_null _)

/-! ### What is made of it -/

section

variable {spot : AlertSpot} {gap : Value → Value} {w : Value} {body : String} {r : Response}

theorem exists_alerts_of_parse (hgap : Response.AlertGap spot gap)
    (hb : Value.ofString? body = some (gap w)) (hr : Response.reader.parse body = some r) :
    ∃ alerts, Alerts.fieldReader (spot.room + 1) w = some alerts ∧
      spot.alerts? r = some alerts := by
  rw [Reader.parse, hb, Option.bind_some, ← spot.room_add_depth] at hr
  exact (Response.sees_alerts hgap).read hr

/-- What can be read in the place of alerts is put there, and nothing else changes. -/
theorem parse_of_readable (hgap : Response.AlertGap spot gap)
    (hb : Value.ofString? body = some (gap w)) (hw : Alerts.Readable spot.room w) {v : Value}
    {other : String} (hother : Value.ofString? other = some (gap v))
    (hr : Response.reader.parse other = some r) :
    ∃ alerts, Response.reader.parse body = some (spot.change (fun _ => alerts) r) := by
  obtain ⟨alerts, halerts⟩ := Alerts.exists_fieldReader_iff.mpr hw
  rw [Reader.parse, hother, Option.bind_some, ← spot.room_add_depth] at hr
  refine ⟨alerts, ?_⟩
  rw [Reader.parse, hb, Option.bind_some, ← spot.room_add_depth]
  exact (Response.sees_alerts hgap).put hr halerts

theorem decodeRoute_of_not_readable (hgap : Response.AlertGap spot gap)
    (hb : Value.ofString? body = some (gap w)) (hw : ¬ Alerts.Readable spot.room w) :
    decodeRoute body = .error (.ofBody body) := by
  have hnone : Alerts.fieldReader (spot.room + 1) w = none :=
    Option.eq_none_iff_forall_ne_some.mpr fun alerts halerts =>
      hw (Alerts.exists_fieldReader_iff.mp ⟨alerts, halerts⟩)
  apply decodeRoute_of_reader_eq_none hb
  rw [← spot.room_add_depth]
  exact (Response.sees_alerts hgap).refused hnone

/-- **How alerts are shown.** Let a body be cut open where the alerts of a connection or a leg
stand.

* If it is read, the alerts are there. Of an object there is one disruption for each key, the bytes
  of the keys ascend strictly, and each is what the last member with its key says, without a time
  range if there is none that can be read. Of null and of an empty list there are no disruptions.
* Objects with the same last member for each key are shown alike, in whatever order they have them.
* Null, an empty list and an object of alerts are accepted if anything is in that place, and nothing
  else in the response depends on which of them it is.
* A list with an item is refused with the body.
* A time range that is a text but cannot be read is as good as none: the body is accepted if it is
  accepted without it, and shows the same disruptions.
-/
theorem disruptionsOf_alertGap (hgap : Response.AlertGap spot gap)
    (hb : Value.ofString? body = some (gap w)) :
    (∀ r, Response.reader.parse body = some r →
      ∃ alerts, spot.alerts? r = some alerts ∧
        Alerts.Shows spot.room w (disruptionsOf alerts)) ∧
    (∀ members others other r r', w = .object members →
      Value.ofString? other = some (gap (.object others)) →
      (∀ key, Alerts.last? members key = Alerts.last? others key) →
      Response.reader.parse body = some r → Response.reader.parse other = some r' →
      (spot.alerts? r).map disruptionsOf = (spot.alerts? r').map disruptionsOf) ∧
    (∀ v other r, Value.ofString? other = some (gap v) → Response.reader.parse other = some r →
      Alerts.Readable spot.room w →
      ∃ alerts, Response.reader.parse body = some (spot.change (fun _ => alerts) r)) ∧
    (∀ v vs, w = .list (v :: vs) → decodeRoute body = .error (.ofBody body)) ∧
    (∀ before after key hole l s other r, FieldGap Alert.shape.names "timerange" hole →
      l.plain? = some s → TimeRange.ofString? s = none →
      w = .object (before ++ (key, hole (.text l)) :: after) →
      Value.ofString? other = some (gap (.object (before ++ (key, hole .null) :: after))) →
      Response.reader.parse other = some r →
      ∃ r', Response.reader.parse body = some r' ∧
        (spot.alerts? r').map disruptionsOf = (spot.alerts? r).map disruptionsOf) := by
  refine ⟨?shown, ?order, ?accepted, ?refused, ?timeRange⟩
  case shown =>
    -- what is read at the spot is what the value in the gap was read as
    intro r hr
    obtain ⟨alerts, hread, halerts⟩ := exists_alerts_of_parse hgap hb hr
    exact ⟨alerts, halerts, Alerts.shows_of_fieldReader hread⟩
  case order =>
    -- both bodies are read, and their alerts have the same last member for each key
    rintro members others other r r' rfl hother hlast hr hr'
    obtain ⟨alerts, hread, halerts⟩ := exists_alerts_of_parse hgap hb hr
    obtain ⟨alerts', hread', halerts'⟩ := exists_alerts_of_parse hgap hother hr'
    have hsame := Alerts.disruptionsOf_eq_of_last? hread hread' hlast
    rw [halerts, halerts', Option.map_some, Option.map_some, hsame]
  case accepted =>
    intro v other r hother hr hw
    exact parse_of_readable hgap hb hw hother hr
  case refused =>
    -- a list with an item is not readable, and there is no other way to accept it
    rintro v vs rfl
    exact decodeRoute_of_not_readable hgap hb nofun
  case timeRange =>
    rintro before after key hole l s other r hhole hl hs rfl hother hr
    obtain ⟨alerts, hread, halerts⟩ := exists_alerts_of_parse hgap hother hr
    -- the other body is accepted, so its alerts are readable, and so are these with the text in
    -- place
    have hw := Alerts.readable_timeRange hhole hl (Alerts.exists_fieldReader_iff.mp ⟨alerts, hread⟩)
    obtain ⟨alerts', hr'⟩ := parse_of_readable hgap hb hw hother hr
    refine ⟨_, hr', ?_⟩
    obtain ⟨_, hread', halerts'⟩ := exists_alerts_of_parse hgap hb hr'
    -- now both are read, and no disruption tells whether the text was there
    have hsame := Alerts.disruptionsOf_timeRange hhole hl hs hread hread'
    rw [halerts, halerts', Option.map_some, Option.map_some, hsame]

end

/-- A connection with nothing but alerts. -/
def alertedConnection (alerts : Value) : Value :=
  .record [("connections", .list [.record [("disruptions", alerts)]])]

theorem alertGap_alertedConnection : Response.AlertGap (.connection 0) alertedConnection :=
  .connection (@FieldGap.member _ _ [] [] _ (Literal.plain?_ofString "connections"))
    (@ItemGap.mk 0 [] [] rfl)
    (@FieldGap.member _ _ [] [] _ (Literal.plain?_ofString "disruptions"))

theorem ofString?_alertedConnection {alerts : Value} (h : alerts.Written) :
    Value.ofString? (alertedConnection alerts).write = some (alertedConnection alerts) := by
  apply Value.ofString?_write
  simp only [alertedConnection, Value.written_record_cons, Value.written_record_nil,
    Value.written_list, List.forall_mem_singleton, h, and_self]

/-- Alerts in no order, one of them replaced, one with a time range that is none. -/
def mixedAlerts : Value :=
  .record [("b", .record [("header", .string "Works"), ("timerange", .string "soon")]),
    ("a", .record [("header", .string "Strike")]),
    ("a", .record [("id", .int 7), ("lead", .string "Over")])]

theorem written_mixedAlerts : mixedAlerts.Written := by
  simp only [mixedAlerts, Value.written_record_cons, Value.written_record_nil,
    Value.written_string, Value.written_int, and_self]

theorem disruptionsOf_mixedAlerts : ∃ r alerts,
    Response.reader.parse (alertedConnection mixedAlerts).write = some r ∧
    (AlertSpot.connection 0).alerts? r = some alerts ∧
    Alerts.Shows (AlertSpot.connection 0).room mixedAlerts (disruptionsOf alerts) ∧
    disruptionsOf alerts = [⟨"a", some "7", none, some "Over", none, none⟩,
      ⟨"b", none, some "Works", none, none, none⟩] := by
  have hb := ofString?_alertedConnection written_mixedAlerts
  -- what is shown of the body is computed, and the body is then known to be read
  have hds : ((Response.reader maxRoom (alertedConnection mixedAlerts)).bind
      (AlertSpot.connection 0).alerts?).map disruptionsOf =
        some [⟨"a", some "7", none, some "Over", none, none⟩,
          ⟨"b", none, some "Works", none, none, none⟩] := by
    decide +kernel
  obtain ⟨alerts, halerts, hshown⟩ := Option.map_eq_some_iff.mp hds
  obtain ⟨r, hr, hr'⟩ := Option.bind_eq_some_iff.mp halerts
  have hparse : Response.reader.parse (alertedConnection mixedAlerts).write = some r := by
    rw [Reader.parse, hb, Option.bind_some, hr]
  obtain ⟨_, hsame, hshows⟩ := (disruptionsOf_alertGap alertGap_alertedConnection hb).1 r hparse
  obtain rfl := Option.some.inj (hr'.symm.trans hsame)
  exact ⟨r, alerts, hparse, hr', hshows, hshown⟩

end Itinerary.Feed
