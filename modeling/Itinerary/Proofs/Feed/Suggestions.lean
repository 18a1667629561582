import Mathlib.Data.List.Infix
import Itinerary.Feed.Interpretation
import Itinerary.Proofs.Steps

/-!
# Which suggestions become places

A suggestion without id and label cannot be asked for, so it is left out. Were it left out only
after the list is cut to its length, it would take up a place, and were one kept that a query has no
term for, a caller who picks it could not go on.

`Suggestion.IsUsable` says which are kept and `Suggestion.Gives` what place each of them gives;
neither mentions how they are read, and together they say what is read (`location?_eq_some_iff`).
The first places of a list are in step with its first usable suggestions
(`arePlacesOf_take_filterMap`), and each of them has a term (`Suggestion.Gives.term?_ne_none`).
-/

namespace Itinerary.Feed

/-! ### Parts of a text -/

theorem occursIn_iff {part cs : List Char} : occursIn part cs = true ↔ part <:+: cs := by
  induction cs with
  | nil => rw [occursIn, List.isEmpty_iff, List.infix_nil]
  | cons c cs ih =>
    rw [occursIn, Bool.or_eq_true, ih, List.isPrefixOf_iff_prefix, List.infix_cons_iff]

/-! ### One suggestion -/

/-- Whether a suggestion can be asked for: it has an id that is not empty, or a label that is not
blank. -/
def Suggestion.IsUsable (s : Suggestion) : Prop :=
  (∃ id, s.id = some id ∧ id ≠ "") ∨
    ∃ label, s.label = some label ∧ Text.isBlankText label = false

/-- What place a suggestion gives: an empty id is none, a blank label is no name, and half a
coordinate is no coordinate. The icon tells an address, and what else has an id is a station. -/
structure Suggestion.Gives (s : Suggestion) (place : Location) : Prop where
  id : ∀ id, place.id = some id ↔ s.id = some id ∧ id ≠ ""
  name : ∀ name, place.name = some name ↔ s.label = some name ∧ Text.isBlankText name = false
  coord : ∀ p, place.coord = some p ↔ s.lat = some p.lat ∧ s.lon = some p.lon
  address : place.kind = .address ↔ ∃ icon, s.icon = some icon ∧ "adr".toList <:+: icon.toList
  station : place.kind = .station ↔ place.kind ≠ .address ∧ place.id ≠ none

/-- The place of a suggestion, whether or not it can be asked for. -/
def Suggestion.place (s : Suggestion) : Location :=
  let id := s.id.filter fun i => !i.isEmpty
  let isAddress := s.icon.any fun icon => occursIn ['a', 'd', 'r'] icon.toList
  { kind := if isAddress then .address else if id.isSome then .station else .any
    id
    coord := Point.ofParts s.lat s.lon
    name := s.label.filter fun l => !Text.isBlankText l }

theorem Suggestion.gives_place (s : Suggestion) : s.Gives s.place where
  -- an id or a name that is empty is left out
  id id := by
    rw [place, Option.filter_eq_some_iff, Bool.not_eq_true', ← Bool.not_eq_true, String.isEmpty_iff]
  name name := by
    rw [place, Option.filter_eq_some_iff, Bool.not_eq_true']
  coord p := by
    obtain ⟨lat, lon⟩ := p
    rw [place, Point.ofParts]
    cases s.lat <;> cases s.lon <;> simp
  -- an address is told by its class first, and a station by its id if it is none
  address := by
    simp only [place, ← occursIn_iff]
    rw [← Option.any_eq_true]
    split
    case isTrue h => exact ⟨fun _ => h, fun _ => rfl⟩
    case isFalse h => split <;> exact ⟨fun hkind => (nomatch hkind), fun hany => absurd hany h⟩
  station := by
    simp only [place, ← Option.isSome_iff_ne_none]
    split
    case isTrue => exact ⟨fun hkind => (nomatch hkind), fun h => absurd rfl h.1⟩
    case isFalse =>
      split
      case isTrue h => exact ⟨fun _ => ⟨LocationKind.noConfusion, h⟩, fun _ => rfl⟩
      case isFalse h => exact ⟨fun hkind => (nomatch hkind), fun hid => absurd hid.2 h⟩

theorem Suggestion.location?_eq (s : Suggestion) :
    s.location? = if s.place.id.isNone && s.place.name.isNone then none else some s.place :=
  rfl

section

variable {s : Suggestion} {place other : Location}

/-- A suggestion gives one place. -/
theorem Suggestion.Gives.unique (h : s.Gives place) (hother : s.Gives other) : place = other := by
  obtain ⟨kind, id, coord, name⟩ := place
  obtain ⟨kind', id', coord', name'⟩ := other
  obtain rfl : id = id' := Option.ext fun i => (h.id i).trans (hother.id i).symm
  obtain rfl : name = name' := Option.ext fun n => (h.name n).trans (hother.name n).symm
  obtain rfl : coord = coord' := Option.ext fun p => (h.coord p).trans (hother.coord p).symm
  have haddress : kind = .address ↔ kind' = .address := h.address.trans hother.address.symm
  have hstation : kind = .station ↔ kind' = .station :=
    h.station.trans ((and_congr_left' (not_congr haddress)).trans hother.station.symm)
  -- what is neither of the two named kinds is of the third
  cases kind with
  | address => rw [haddress.mp rfl]
  | station => rw [hstation.mp rfl]
  | any =>
    cases kind' with
    | address => cases haddress.mpr rfl
    | station => cases hstation.mpr rfl
    | any => rfl

/-- A suggestion can be asked for exactly if its place has an id or a name. -/
theorem Suggestion.Gives.isUsable_iff (h : s.Gives place) :
    s.IsUsable ↔ place.id ≠ none ∨ place.name ≠ none := by
  simp only [IsUsable, Option.ne_none_iff_exists', h.id, h.name]

/-- **A place is read of the suggestions that can be asked for**, and it is the one they give. -/
theorem Suggestion.location?_eq_some_iff :
    s.location? = some place ↔ s.IsUsable ∧ s.Gives place := by
  have hread : s.location? = some place ↔ s.IsUsable ∧ s.place = place := by
    rw [location?_eq, s.gives_place.isUsable_iff, ← not_and_or, ← Option.isNone_iff_eq_none,
      ← Option.isNone_iff_eq_none, ← Bool.and_eq_true]
    split
    case isTrue h => exact ⟨fun hnone => (nomatch hnone), fun hgiven => absurd h hgiven.1⟩
    case isFalse h =>
      exact ⟨fun hsome => ⟨h, Option.some.inj hsome⟩, fun hgiven => congrArg some hgiven.2⟩
  rw [hread]
  refine and_congr_right fun _ => ⟨?_, fun hgives => s.gives_place.unique hgives⟩
  rintro rfl
  exact s.gives_place

theorem Suggestion.isSome_location? : s.location?.isSome = true ↔ s.IsUsable := by
  rw [Option.isSome_iff_exists]
  refine ⟨fun ⟨_, h⟩ => (location?_eq_some_iff.mp h).1, fun h => ?_⟩
  exact ⟨s.place, location?_eq_some_iff.mpr ⟨h, s.gives_place⟩⟩

/-- **What a suggestion gives has a term**, if the suggestion can be asked for. -/
theorem Suggestion.Gives.term?_ne_none (h : s.Gives place) (husable : s.IsUsable) :
    place.term? ≠ none := by
  rw [Location.term?]
  split
  case h_1 => exact Option.some_ne_none _
  case h_2 => exact Option.some_ne_none _
  case h_3 hid _ =>
    -- without an id there is a name, which is a label that is not blank
    obtain ⟨name, hname⟩ := Option.ne_none_iff_exists'.mp
      ((h.isUsable_iff.mp husable).resolve_left fun hne => hne hid)
    obtain ⟨-, hblank⟩ := (h.name name).mp hname
    rw [hname, Option.filter_some_pos]
    · exact Option.some_ne_none _
    · rw [hblank]
      rfl

end

instance : DecidablePred Suggestion.IsUsable := fun s =>
  decidable_of_iff _ s.gives_place.isUsable_iff.symm

/-! ### The first of a list -/

/-- Whether places are those of the first usable suggestions of a list, so many at most: each of
them is the place that the suggestion gives, in the order of the list. -/
def ArePlacesOf (limit : Nat) (suggestions : List Suggestion) (places : List Location) : Prop :=
  List.Forall₂ (fun s place => s.Gives place)
    ((suggestions.filter (·.IsUsable)).take limit) places

/-- **The places read of a list are those of its first usable suggestions.** -/
theorem arePlacesOf_take_filterMap (limit : Nat) (suggestions : List Suggestion) :
    ArePlacesOf limit suggestions ((suggestions.filterMap Suggestion.location?).take limit) := by
  have hfilter : (suggestions.filter fun s => s.location?.isSome) =
      suggestions.filter (·.IsUsable) := by
    refine List.filter_congr fun s _ => ?_
    rw [Bool.eq_iff_iff, Suggestion.isSome_location?, decide_eq_true_eq]
  have hread := forall₂_filterMap Suggestion.location? suggestions
  rw [hfilter] at hread
  exact List.forall₂_take limit
    (hread.imp fun s place h => (Suggestion.location?_eq_some_iff.mp h.2).2)

variable {limit : Nat} {suggestions : List Suggestion} {places : List Location}

/-- There are no other places of a list. -/
theorem ArePlacesOf.unique {others : List Location} (h : ArePlacesOf limit suggestions places)
    (hothers : ArePlacesOf limit suggestions others) : places = others :=
  List.right_unique_forall₂' (fun _ _ _ hgives => hgives.unique) h hothers

theorem ArePlacesOf.length_eq (h : ArePlacesOf limit suggestions places) :
    places.length = min limit (suggestions.filter (·.IsUsable)).length := by
  rw [← List.Forall₂.length_eq h, List.length_take]

/-- Every place has a term. -/
theorem ArePlacesOf.term?_ne_none (h : ArePlacesOf limit suggestions places) {place : Location}
    (hplace : place ∈ places) : place.term? ≠ none := by
  obtain ⟨s, hs, hgives⟩ := exists_mem_of_forall₂ (List.Forall₂.flip (R := fun place s =>
    Suggestion.Gives s place) h) hplace
  have husable := (List.mem_filter.mp (List.mem_of_mem_take hs)).2
  exact hgives.term?_ne_none (of_decide_eq_true husable)

end Itinerary.Feed
