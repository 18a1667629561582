import Itinerary.Proofs.Steps
import Itinerary.Query

/-!
# What a query is sent as

The parameters of a query come in two parts: those that name its places and those for its time and
its options. Only the former can fail, and moving a query to another time leaves them as they are.
So a query can be sent for every time or for none, and which of the two it is can be told from its
places alone: each of them needs a term. A query that cannot be sent tells which of them has none
(`exists_place?_of_parameters`).
-/

namespace Itinerary

namespace TripQuery

/-! ### The two parts -/

/-- The parameters that name the places of a query. -/
def placeParameters (q : TripQuery) : Except Unresolvable (List Parameter) := do
  let origin ← placeParameter .origin q.origin
  let destination ← placeParameter .destination q.destination
  let via ←
    match q.via with
    | some place => (placeParameter .via place).map ([·])
    | none => .ok []
  return origin :: destination :: via

/-- A query is sent as its places and its time. -/
theorem parameters_eq (q : TripQuery) :
    q.parameters = q.placeParameters.map (· ++ q.timeParameters) := by
  rw [parameters, placeParameters]
  -- the place that fails first is the same on either side
  cases placeParameter .origin q.origin with
  | error e => rfl
  | ok origin =>
    cases placeParameter .destination q.destination with
    | error e => rfl
    | ok destination =>
      cases q.via with
      | none => rfl
      | some place => cases h : placeParameter .via place <;> simp [h] <;> rfl

@[simp] theorem placeParameters_reanchored (q : TripQuery) (moment : Calendar.DateTime)
    (timeType : TimeType) : (q.reanchored moment timeType).placeParameters = q.placeParameters :=
  rfl

/-- **A query is sent for every time or for none.** Where the parameters of a query are known, so
are those of the query moved to another time, and only the part for the time differs. -/
theorem parameters_reanchored {q : TripQuery} {ps : List Parameter} (h : q.parameters = .ok ps)
    (moment : Calendar.DateTime) (timeType : TimeType) :
    ∃ places, q.placeParameters = .ok places ∧ ps = places ++ q.timeParameters ∧
      (q.reanchored moment timeType).parameters
        = .ok (places ++ (q.reanchored moment timeType).timeParameters) := by
  rw [parameters_eq] at h
  obtain ⟨places, hplaces, rfl⟩ := map_eq_ok_iff.mp h
  refine ⟨places, hplaces, rfl, ?_⟩
  rw [parameters_eq, placeParameters_reanchored, hplaces]
  rfl

/-! ### What the parts hold -/

/-- The parameters for a time. -/
def timing (moment : Calendar.DateTime) (timeType : TimeType) : List Parameter :=
  [("date", Calendar.slashedDate.write moment), ("time", Calendar.hourMinute.write moment),
    ("time_type", timeType.name)]

/-- The parameters for what is asked for besides the trips. -/
def optionParameters (o : TripOptions) : List Parameter :=
  [("num", toString o.maxTrips.toNat), ("show_delays", if o.showDelays then "1" else "0"),
    ("show_trackchanges", if o.showTrackChanges then "1" else "0")]

theorem timeParameters_eq (q : TripQuery) :
    q.timeParameters = timing q.moment q.timeType ++ optionParameters q.options :=
  rfl

/-- A place is named by the parameter of its role. -/
theorem name_of_placeParameter {role : Role} {place : Location} {parameter : Parameter}
    (h : placeParameter role place = .ok parameter) : parameter.1 = role.name := by
  rw [placeParameter] at h
  split at h
  · cases h
    rfl
  · cases h

/-- The places are those of the start and of the end, and perhaps one in between. -/
theorem names_of_placeParameters {q : TripQuery} {places : List Parameter}
    (h : q.placeParameters = .ok places) :
    places.map Prod.fst = ["from", "to"] ∨ places.map Prod.fst = ["from", "to", "via"] := by
  -- the start and the end come first, each under its own name
  rw [placeParameters] at h
  obtain ⟨origin, horigin, h⟩ := bind_eq_ok_iff.mp h
  obtain ⟨destination, hdestination, h⟩ := bind_eq_ok_iff.mp h
  have horigin := name_of_placeParameter horigin
  have hdestination := name_of_placeParameter hdestination
  cases hplace : q.via with
  | none =>
    rw [hplace] at h
    cases h
    rw [List.map_cons, List.map_cons, horigin, hdestination]
    exact .inl rfl
  | some place =>
    rw [hplace] at h
    obtain ⟨via, hvia, h⟩ := bind_eq_ok_iff.mp h
    obtain ⟨parameter, hparameter, rfl⟩ := map_eq_ok_iff.mp hvia
    cases h
    rw [List.map_cons, List.map_cons, List.map_singleton, horigin, hdestination,
      name_of_placeParameter hparameter]
    exact .inr rfl

/-- **The date and the time of a query stand among its parameters**, and no place takes their
names. -/
theorem lookup_parameters {q : TripQuery} {ps : List Parameter} (h : q.parameters = .ok ps) :
    ps.lookup "date" = some (Calendar.slashedDate.write q.moment) ∧
      ps.lookup "time" = some (Calendar.hourMinute.write q.moment) := by
  rw [parameters_eq] at h
  obtain ⟨places, hplaces, rfl⟩ := map_eq_ok_iff.mp h
  -- the places stand in front, under names of their own
  have hplace : ∀ name ∉ ["from", "to", "via"], places.lookup name = none := by
    intro name hname
    rw [List.lookup_eq_none_iff]
    intro p hp
    have hmem := List.mem_map_of_mem (f := Prod.fst) hp
    rw [bne_iff_ne]
    rintro rfl
    rcases names_of_placeParameters hplaces with hnames | hnames
    · rw [hnames] at hmem
      exact hname (List.mem_append_left ["via"] hmem)
    · rw [hnames] at hmem
      exact hname hmem
  rw [List.lookup_append, List.lookup_append, hplace "date" (by decide), hplace "time" (by decide)]
  exact ⟨rfl, rfl⟩

/-- Where the places of a query have terms, it is sent with those. -/
theorem parameters_of_terms {q : TripQuery} {origin destination : String} {via : Option String}
    (horigin : q.origin.term? = some origin) (hdestination : q.destination.term? = some destination)
    (hvia : q.via.map Location.term? = via.map some) :
    q.parameters = .ok ([("from", origin), ("to", destination)] ++
      (via.map fun term => ("via", term)).toList ++ q.timeParameters) := by
  have hplace : ∀ {place : Location} {term : String} (role : Role), place.term? = some term →
      placeParameter role place = .ok (role.name, term) := by
    intro place term role h
    rw [placeParameter, h]
  rw [parameters, hplace .origin horigin, hplace .destination hdestination]
  -- there is a place in between exactly if there is a term for it
  cases hbetween : q.via with
  | none =>
    rw [hbetween] at hvia
    obtain rfl : via = none := Option.map_eq_none_iff.mp hvia.symm
    rfl
  | some place =>
    rw [hbetween] at hvia
    obtain ⟨term, rfl, hterm⟩ := Option.map_eq_some_iff.mp hvia.symm
    simp only [hplace .via hterm.symm]
    rfl

theorem parameters_ne_nil {q : TripQuery} {ps : List Parameter} (h : q.parameters = .ok ps) :
    ps ≠ [] := by
  rintro rfl
  cases (lookup_parameters h).1

/-! ### Places without a term -/

/-- Whether one of the places of a query has no term. -/
def IsUnresolvable (q : TripQuery) : Prop :=
  q.origin.term? = none ∨ q.destination.term? = none ∨ ∃ via, q.via = some via ∧ via.term? = none

theorem placeParameter_of_term? {place : Location} (h : place.term? = none) (role : Role) :
    placeParameter role place = .error ⟨role⟩ := by
  rw [placeParameter, h]

/-- A query with a place that has no term cannot be sent. -/
theorem parameters_of_isUnresolvable {q : TripQuery} (h : q.IsUnresolvable) :
    ∃ e, q.parameters = .error e := by
  cases hps : q.parameters with
  | error e => exact ⟨e, rfl⟩
  | ok ps =>
    exfalso
    rw [parameters] at hps
    obtain ⟨origin, horigin, hps⟩ := bind_eq_ok_iff.mp hps
    obtain ⟨destination, hdestination, hps⟩ := bind_eq_ok_iff.mp hps
    rcases h with h | h | ⟨place, hplace, h⟩
    · rw [placeParameter_of_term? h] at horigin
      cases horigin
    · rw [placeParameter_of_term? h] at hdestination
      cases hdestination
    · rw [hplace] at hps
      obtain ⟨via, hvia, -⟩ := bind_eq_ok_iff.mp hps
      rw [placeParameter_of_term? h] at hvia
      cases hvia

/-- The place in a role of a query. -/
def place? (q : TripQuery) : Role → Option Location
  | .origin => some q.origin
  | .destination => some q.destination
  | .via => q.via

/-- Only a place without a term has no parameter. -/
theorem placeParameter_eq_error {place : Location} {role : Role} {e : Unresolvable}
    (h : placeParameter role place = .error e) : e.role = role ∧ place.term? = none := by
  cases hterm : place.term? with
  | none =>
    rw [placeParameter_of_term? hterm] at h
    cases h
    exact ⟨rfl, rfl⟩
  | some term =>
    rw [placeParameter, hterm] at h
    cases h

/-- **A query that cannot be sent tells which place has no term.** -/
theorem exists_place?_of_parameters {q : TripQuery} {e : Unresolvable}
    (h : q.parameters = .error e) : ∃ place, q.place? e.role = some place ∧ place.term? = none := by
  rw [parameters_eq, map_eq_error_iff, placeParameters] at h
  -- the places are looked at in order: the start, the end, and the one in between
  rcases bind_eq_error_iff.mp h with horigin | ⟨_, -, h⟩
  · obtain ⟨hrole, hterm⟩ := placeParameter_eq_error horigin
    exact ⟨q.origin, by rw [hrole]; rfl, hterm⟩
  rcases bind_eq_error_iff.mp h with hdestination | ⟨_, -, h⟩
  · obtain ⟨hrole, hterm⟩ := placeParameter_eq_error hdestination
    exact ⟨q.destination, by rw [hrole]; rfl, hterm⟩
  cases hplace : q.via with
  | none =>
    rw [hplace] at h
    cases h
  | some place =>
    rw [hplace] at h
    rcases bind_eq_error_iff.mp h with hvia | ⟨_, -, h⟩
    · obtain ⟨hrole, hterm⟩ := placeParameter_eq_error (map_eq_error_iff.mp hvia)
      exact ⟨place, by rw [hrole]; exact hplace, hterm⟩
    · cases h

/-- A query of which each place has a term can be sent. -/
theorem exists_parameters {q : TripQuery} (h : ¬ q.IsUnresolvable) :
    ∃ ps, q.parameters = .ok ps := by
  cases hps : q.parameters with
  | ok ps => exact ⟨ps, rfl⟩
  | error e =>
    exfalso
    -- an error names the place that has no term
    obtain ⟨place, hplace, hterm⟩ := exists_place?_of_parameters hps
    cases hrole : e.role with
    | origin =>
      rw [hrole] at hplace
      exact h (.inl (Option.some.inj hplace ▸ hterm))
    | destination =>
      rw [hrole] at hplace
      exact h (.inr (.inl (Option.some.inj hplace ▸ hterm)))
    | via =>
      rw [hrole] at hplace
      exact h (.inr (.inr ⟨place, hplace, hterm⟩))

end TripQuery

end Itinerary
