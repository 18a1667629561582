import Itinerary.Proofs.Trip

/-!
# Which legs make a trip

Legs are refused for three faults, and only one of them is told. A gap in a list of walks could be
told as a trip without a ride, or a later gap in place of the first; and the changes, which are
counted from one below zero, could come out one too many or, without a ride, below zero.

A gap is told by its position in the list (`GapBehind`), and `firstGap` finds the first one
(`firstGap_eq_some_iff`). With that each refusal is compared with the fault of the list
(`Refused`), and a trip with the legs that it is made of (`Trip.IsMadeOf`).
-/

namespace Itinerary

/-! ### Gaps -/

/-- Whether the leg at a position is followed by one that starts elsewhere. -/
def GapBehind (legs : List Leg) (i : Nat) : Prop :=
  ∃ a b, legs[i]? = some a ∧ legs[i + 1]? = some b ∧ a.destination.samePlace b.origin = false

theorem gapBehind_zero {a b : Leg} {rest : List Leg} :
    GapBehind (a :: b :: rest) 0 ↔ a.meets b = false := by
  constructor
  · rintro ⟨a', b', ha, hb, h⟩
    cases ha
    cases hb
    exact h
  · intro h
    exact ⟨a, b, rfl, rfl, h⟩

theorem gapBehind_cons_succ {a : Leg} {rest : List Leg} {i : Nat} :
    GapBehind (a :: rest) (i + 1) ↔ GapBehind rest i := by
  unfold GapBehind
  rw [List.getElem?_cons_succ, List.getElem?_cons_succ]

/-- The gap that is found is the first one. -/
theorem firstGap_eq_some_iff {legs : List Leg} {i : Nat} :
    firstGap legs = some i ↔ GapBehind legs i ∧ ∀ j < i, ¬ GapBehind legs j := by
  fun_induction firstGap legs generalizing i with
  | case1 a b rest hmeets ih =>
    have hzero : ¬ GapBehind (a :: b :: rest) 0 := fun h => by
      rw [gapBehind_zero, hmeets] at h
      cases h
    -- the first gap is that of the rest, one position further on
    cases i with
    | zero =>
      rw [Option.map_eq_some_iff]
      refine ⟨?_, fun h => absurd h.1 hzero⟩
      rintro ⟨_, _, h⟩
      exact absurd h (Nat.succ_ne_zero _)
    | succ i =>
      rw [Option.map_eq_some_iff, Nat.forall_lt_succ_left, and_iff_right hzero]
      simp only [gapBehind_cons_succ, Nat.add_right_cancel_iff, exists_eq_right]
      exact ih
  | case2 a b rest hmeets =>
    have hzero : GapBehind (a :: b :: rest) 0 := gapBehind_zero.mpr (Bool.eq_false_iff.mpr hmeets)
    constructor
    · intro h
      cases h
      exact ⟨hzero, fun j hj => absurd hj (Nat.not_lt_zero j)⟩
    · rintro ⟨-, hfirst⟩
      -- no gap comes before the first position
      have hle : i ≤ 0 := Nat.le_of_not_lt fun hpos => hfirst 0 hpos hzero
      rw [Nat.le_zero.mp hle]
  | case3 legs hshort =>
    constructor
    · intro h
      cases h
    · rintro ⟨⟨a, b, ha, hb, -⟩, -⟩
      -- a gap has a leg on either side
      have hlength := (List.getElem?_eq_some_iff.mp hb).1
      rcases legs with _ | ⟨c, _ | ⟨d, rest⟩⟩
      · cases ha
      · exact absurd (Nat.lt_of_succ_lt_succ hlength) (Nat.not_lt_zero i)
      · exact (hshort c d rest rfl).elim

theorem firstGap_eq_none_iff_forall {legs : List Leg} :
    firstGap legs = none ↔ ∀ i, ¬ GapBehind legs i := by
  rw [firstGap_eq_none_iff, List.isChain_iff_getElem]
  constructor
  · rintro h i ⟨a, b, ha, hb, hgap⟩
    obtain ⟨hi, rfl⟩ := List.getElem?_eq_some_iff.mp ha
    obtain ⟨hi', rfl⟩ := List.getElem?_eq_some_iff.mp hb
    exact Bool.false_ne_true (hgap.symm.trans (h i hi'))
  · intro h i hi
    by_contra hmeets
    refine h i ⟨legs[i], legs[i + 1], List.getElem?_eq_getElem _, List.getElem?_eq_getElem hi, ?_⟩
    exact Bool.eq_false_iff.mpr hmeets

/-! ### Rides among walks -/

theorem Leg.isRide_eq_false_of_ride? {l : Leg} (h : l.ride? = none) : l.isRide = false := by
  rw [← Leg.ride?_isSome, h]
  rfl

/-- A ride that is found is in the list, and only walks come before it. -/
theorem eq_append_of_findSome? {legs : List Leg} {r : Ride}
    (h : legs.findSome? Leg.ride? = some r) :
    ∃ before after, legs = before ++ .ride r :: after ∧ ∀ l ∈ before, l.isRide = false := by
  obtain ⟨before, l, after, hlegs, hride, hbefore⟩ := List.findSome?_eq_some_iff.mp h
  refine ⟨before, after, ?_, fun l hl => Leg.isRide_eq_false_of_ride? (hbefore l hl)⟩
  cases l with
  | walk w => cases hride
  | ride r' =>
    cases hride
    exact hlegs

namespace Trip

/-- What a trip has of the legs that it is made of. -/
structure IsMadeOf (t : Trip) (id : TripId) (legs : List Leg) (disruptions : List Disruption) :
    Prop where
  id_eq : t.id = id
  legs_eq : t.legs = legs
  disruptions_eq : t.disruptions = disruptions
  /-- there is one ride more than there are changes -/
  transfers : t.transfers + 1 = legs.countP Leg.isRide
  /-- changes are counted from one below zero, one for each ride -/
  counted : (t.transfers : Int) =
    legs.foldl (fun count l => if l.isRide then count + 1 else count) (-1)
  /-- only walks come before the first ride -/
  firstRide : ∃ r before after, t.firstRide? = some r ∧ legs = before ++ .ride r :: after ∧
    ∀ l ∈ before, l.isRide = false
  /-- only walks come after the last ride -/
  lastRide : ∃ r before after, t.lastRide? = some r ∧ legs = before ++ .ride r :: after ∧
    ∀ l ∈ after, l.isRide = false
  /-- the trip starts as its first leg does -/
  start : ∃ l, legs.head? = some l ∧ t.origin = l.origin ∧ t.departureTime = l.departureTime
  /-- the trip ends as its last leg does -/
  finish : ∃ l, legs.getLast? = some l ∧ t.destination = l.destination ∧
    t.arrivalTime = l.arrivalTime

theorem isMadeOf_self (t : Trip) : t.IsMadeOf t.id t.legs t.disruptions where
  id_eq := rfl
  legs_eq := rfl
  disruptions_eq := rfl
  transfers := t.transfers_add_one
  counted := t.counted.symm
  firstRide := by
    obtain ⟨r, hr⟩ := t.exists_firstRide?
    have hfind : t.legs.findSome? Leg.ride? = some r := by rw [← List.head?_filterMap]; exact hr
    obtain ⟨before, after, hlegs, hbefore⟩ := eq_append_of_findSome? hfind
    exact ⟨r, before, after, hr, hlegs, hbefore⟩
  lastRide := by
    obtain ⟨r, hr⟩ := t.exists_lastRide?
    have hfind : t.legs.reverse.findSome? Leg.ride? = some r := by
      rw [← List.getLast?_filterMap]
      exact hr
    -- the last ride is the first one of the list read backwards
    obtain ⟨after, before, hlegs, hafter⟩ := eq_append_of_findSome? hfind
    refine ⟨r, before.reverse, after.reverse, hr, ?_, fun l hl => hafter l (List.mem_reverse.mp hl)⟩
    rw [← List.reverse_reverse t.legs, hlegs, List.reverse_append, List.reverse_cons,
      List.append_assoc]
    rfl
  start := ⟨t.firstLeg, List.head?_eq_some_head t.legs_ne_nil, rfl, rfl⟩
  finish := ⟨t.lastLeg, List.getLast?_eq_some_getLast t.legs_ne_nil, rfl, rfl⟩

end Trip

/-! ### Refusals -/

/-- The fault for which legs are refused. -/
inductive Refused : List Leg → AssemblyError → Prop where
  | empty : Refused [] .empty
  /-- the next leg starts elsewhere for the first time -/
  | gap {legs : List Leg} {i : Nat} (hgap : GapBehind legs i)
    (hfirst : ∀ j < i, ¬ GapBehind legs j) : Refused legs (.gap i)
  /-- all legs are walks, without a gap -/
  | noRide {legs : List Leg} (hne : legs ≠ []) (hgap : ∀ i, ¬ GapBehind legs i)
    (hwalks : ∀ l ∈ legs, l.isRide = false) : Refused legs .noRide

theorem not_gapBehind_nil (i : Nat) : ¬ GapBehind [] i := by
  rintro ⟨a, b, ha, -⟩
  cases ha

theorem Refused.assemble_eq {legs : List Leg} {fault : AssemblyError} (h : Refused legs fault)
    (id : TripId) (disruptions : List Disruption) :
    Trip.assemble id legs disruptions = .error fault := by
  cases h with
  | empty => exact Trip.assemble_nil id disruptions
  | gap hgap hfirst =>
    refine Trip.assemble_of_firstGap id disruptions (fun hnil => ?_)
      (firstGap_eq_some_iff.mpr ⟨hgap, hfirst⟩)
    exact not_gapBehind_nil _ (hnil ▸ hgap)
  | noRide hne hgap hwalks =>
    refine Trip.assemble_of_not_any id disruptions hne (firstGap_eq_none_iff_forall.mpr hgap) ?_
    rw [List.any_eq_true]
    rintro ⟨l, hl, hride⟩
    exact Bool.false_ne_true ((hwalks l hl).symm.trans hride)

/-- Legs make a trip or are refused. -/
theorem whole_or_refused (legs : List Leg) :
    (legs ≠ [] ∧ (∀ i, ¬ GapBehind legs i) ∧ ∃ l ∈ legs, l.isRide = true) ∨
      ∃ fault, Refused legs fault := by
  -- in the order in which the faults are looked for
  by_cases hnil : legs = []
  · subst hnil
    exact .inr ⟨_, .empty⟩
  cases hgap : firstGap legs with
  | some i =>
    obtain ⟨hbehind, hfirst⟩ := firstGap_eq_some_iff.mp hgap
    exact .inr ⟨_, .gap hbehind hfirst⟩
  | none =>
    have hwhole := firstGap_eq_none_iff_forall.mp hgap
    by_cases hride : ∃ l ∈ legs, l.isRide = true
    · exact .inl ⟨hnil, hwhole, hride⟩
    · refine .inr ⟨_, .noRide hnil hwhole fun l hl => ?_⟩
      exact Bool.eq_false_iff.mpr fun h => hride ⟨l, hl, h⟩

namespace Trip

theorem exists_assemble_eq_ok {legs : List Leg} (hgap : ∀ i, ¬ GapBehind legs i)
    (hride : ∃ l ∈ legs, l.isRide = true) (id : TripId) (disruptions : List Disruption) :
    ∃ t, assemble id legs disruptions = .ok t := by
  obtain ⟨n, hn⟩ := exists_transferCount (List.any_eq_true.mpr hride)
  exact ⟨_, assemble_of_transferCount id disruptions (firstGap_eq_none_iff_forall.mpr hgap) hn⟩

/-- **Legs make a trip or are refused for their first fault**: that there are none, else the first
gap, else that there is no ride. -/
theorem assemble_outcome (id : TripId) (legs : List Leg) (disruptions : List Disruption) :
    ((∃ t, assemble id legs disruptions = .ok t) ↔
        legs ≠ [] ∧ (∀ i, ¬ GapBehind legs i) ∧ ∃ l ∈ legs, l.isRide = true) ∧
      (∀ t, assemble id legs disruptions = .ok t → t.IsMadeOf id legs disruptions) ∧
      ∀ fault, assemble id legs disruptions = .error fault ↔ Refused legs fault := by
  -- legs are whole or refused, and never both, so each direction excludes the other case
  refine ⟨⟨?whole, ?made⟩, ?has, fun fault => ⟨?told, fun h => h.assemble_eq id disruptions⟩⟩
  case whole =>
    rintro ⟨t, ht⟩
    rcases whole_or_refused legs with hwhole | ⟨fault, hfault⟩
    · exact hwhole
    · cases ht.symm.trans (hfault.assemble_eq id disruptions)
  case made =>
    rintro ⟨-, hgap, hride⟩
    exact exists_assemble_eq_ok hgap hride id disruptions
  case has =>
    intro t ht
    obtain ⟨rfl, rfl, rfl⟩ := assemble_ok ht
    exact t.isMadeOf_self
  case told =>
    intro h
    rcases whole_or_refused legs with ⟨-, hgap, hride⟩ | ⟨fault', hfault⟩
    · obtain ⟨t, ht⟩ := exists_assemble_eq_ok hgap hride id disruptions
      cases h.symm.trans ht
    · cases h.symm.trans (hfault.assemble_eq id disruptions)
      exact hfault

end Trip

end Itinerary
