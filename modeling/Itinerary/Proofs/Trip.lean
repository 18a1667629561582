import Mathlib.Data.List.Chain
import Itinerary.Trip

/-!
# Trips and their legs

What assembling a trip asks of its legs, read as properties of the list: `firstGap` finds nothing
exactly if every leg ends where the next one starts, and the changes that are counted are one less
than the rides (`transferCount_eq`), so the count is a natural number exactly if there is a ride.
-/

namespace Itinerary

/-- There is no gap exactly if each leg ends where the next one starts. -/
theorem firstGap_eq_none_iff {legs : List Leg} :
    firstGap legs = none ↔ legs.IsChain fun a b => a.meets b = true := by
  fun_induction firstGap legs with
  | case1 a b rest hmeets ih =>
    rw [Option.map_eq_none_iff, ih, List.isChain_cons_cons]
    exact ⟨fun h => ⟨hmeets, h⟩, fun h => h.2⟩
  | case2 a b rest hmeets =>
    rw [List.isChain_cons_cons]
    exact ⟨fun h => (nomatch h), fun h => absurd h.1 hmeets⟩
  | case3 legs hshort =>
    refine ⟨fun _ => ?_, fun _ => rfl⟩
    -- fewer than two legs cannot have a gap between them
    match legs, hshort with
    | [], _ => exact .nil
    | [a], _ => exact .singleton a
    | a :: b :: rest, h => exact (h a b rest rfl).elim

/-! ### Counting -/

/-- To count the rides up from a number adds how many there are. -/
theorem foldl_isRide (legs : List Leg) (start : Int) :
    legs.foldl (fun count l => if l.isRide then count + 1 else count) start =
      start + legs.countP Leg.isRide := by
  -- along the legs, whatever the count is so far
  induction legs generalizing start with
  | nil => exact (Int.add_zero start).symm
  | cons l rest ih =>
    rw [List.foldl_cons, ih, List.countP_cons]
    cases l with
    | walk w => rfl
    | ride r =>
      show start + 1 + (rest.countP Leg.isRide : Int) = start + ((rest.countP Leg.isRide + 1 : Nat))
      omega

/-- There is one change less than there are rides. -/
theorem transferCount_eq (legs : List Leg) :
    transferCount legs = (legs.countP Leg.isRide : Int) - 1 := by
  rw [transferCount, foldl_isRide]
  omega

/-- With a ride the count is a natural number. -/
theorem exists_transferCount {legs : List Leg} (hride : legs.any Leg.isRide = true) :
    ∃ n : Nat, transferCount legs = n := by
  have hpos : 0 < legs.countP Leg.isRide := List.countP_pos_iff.mpr (List.any_eq_true.mp hride)
  refine ⟨legs.countP Leg.isRide - 1, ?_⟩
  rw [transferCount_eq]
  omega

/-- Without a ride it stays below zero. -/
theorem transferCount_of_not_any {legs : List Leg} (hride : ¬ legs.any Leg.isRide = true) :
    transferCount legs = -1 := by
  have hnone : legs.countP Leg.isRide = 0 := by
    rw [List.countP_eq_zero]
    exact fun l hl h => hride (List.any_eq_true.mpr ⟨l, hl, h⟩)
  rw [transferCount_eq, hnone]
  rfl

namespace Trip

/-! ### What assembling comes to -/

section

variable {legs : List Leg} (id : TripId) (disruptions : List Disruption)

theorem assemble_nil : assemble id [] disruptions = .error .empty := rfl

/-- The first gap is told. -/
theorem assemble_of_firstGap (hne : legs ≠ []) {index : Nat} (h : firstGap legs = some index) :
    assemble id legs disruptions = .error (.gap index) := by
  unfold assemble
  rw [if_neg (mt List.isEmpty_iff.mp hne)]
  split
  · next index' h' => rw [Option.some.inj (h.symm.trans h')]
  · next h' => cases h.symm.trans h'

/-- Legs without a gap that are all walks are refused. -/
theorem assemble_of_not_any (hne : legs ≠ []) (h : firstGap legs = none)
    (hride : ¬ legs.any Leg.isRide = true) : assemble id legs disruptions = .error .noRide := by
  unfold assemble
  rw [if_neg (mt List.isEmpty_iff.mp hne)]
  split
  · next index h' => cases h.symm.trans h'
  · split
    · next transfers htransfers =>
      -- the count is below zero, so it is no natural number
      have hcount := Int.mem_toNat?.mp htransfers
      rw [transferCount_of_not_any hride] at hcount
      cases hcount
    · rfl

/-- Legs without a gap whose changes can be counted make a trip with that count. -/
theorem assemble_of_transferCount (h : firstGap legs = none) {n : Nat}
    (hn : transferCount legs = n) :
    assemble id legs disruptions = .ok ⟨id, legs, n, disruptions, h, hn⟩ := by
  -- without legs the count would be below zero
  have hne : legs ≠ [] := fun hnil => by
    rw [hnil] at hn
    cases hn
  unfold assemble
  rw [if_neg (mt List.isEmpty_iff.mp hne)]
  split
  · next index h' => cases h.symm.trans h'
  · split
    · next transfers htransfers =>
      obtain rfl := Int.ofNat.inj ((Int.mem_toNat?.mp htransfers).symm.trans hn)
      rfl
    · next hnone =>
      rw [hn] at hnone
      cases hnone

end

/-- What a trip that is assembled has: the identifier, legs and disruptions it is assembled of. -/
theorem assemble_ok {id : TripId} {legs : List Leg} {disruptions : List Disruption} {t : Trip}
    (h : assemble id legs disruptions = .ok t) :
    t.id = id ∧ t.legs = legs ∧ t.disruptions = disruptions := by
  unfold assemble at h
  split at h
  · cases h
  · split at h
    · cases h
    · split at h
      · cases h
        exact ⟨rfl, rfl, rfl⟩
      · cases h

/-! ### What a trip has -/

theorem isChain_legs (t : Trip) :
    t.legs.IsChain fun a b => a.destination.samePlace b.origin = true :=
  firstGap_eq_none_iff.mp t.connected

theorem length_rides (t : Trip) : t.rides.length = t.legs.countP Leg.isRide := by
  rw [rides, List.length_filterMap_eq_countP]
  exact List.countP_congr fun l _ => by rw [Leg.ride?_isSome]

/-- There is one ride more than there are changes. -/
theorem transfers_add_one (t : Trip) : t.transfers + 1 = t.legs.countP Leg.isRide := by
  -- the count of a trip is what was counted of its legs
  have hcounted := t.counted
  rw [transferCount_eq] at hcounted
  omega

theorem rides_ne_nil (t : Trip) : t.rides ≠ [] := by
  have hlength := t.length_rides
  rw [← t.transfers_add_one] at hlength
  exact List.ne_nil_of_length_eq_add_one hlength

theorem exists_firstRide? (t : Trip) : ∃ ride, t.firstRide? = some ride := by
  obtain ⟨ride, rest, hrides⟩ := List.exists_cons_of_ne_nil t.rides_ne_nil
  exact ⟨ride, by rw [firstRide?, hrides, List.head?_cons]⟩

theorem exists_lastRide? (t : Trip) : ∃ ride, t.lastRide? = some ride :=
  ⟨t.rides.getLast t.rides_ne_nil, List.getLast?_eq_some_getLast t.rides_ne_nil⟩

end Trip

end Itinerary
