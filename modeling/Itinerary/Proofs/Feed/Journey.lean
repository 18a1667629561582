import Itinerary.Proofs.Delay
import Itinerary.Proofs.Feed.Interpretation
import Itinerary.Proofs.Trip

/-!
# What a trip says of its connection

A connection comes as a list of legs, and everything a trip is asked about is inferred from them:
how it is travelled, how often one changes, whether it is cancelled. `Connection.Journey` says in
terms of the feed what the answers are. Legs without an exit have no part in any of them, wherever
they stand and whatever they hold.

The proof follows the lists that are in step. The proper legs of a connection and the legs of its
trip are (`interpretLegs_ok`), so a question that is answered leg by leg has the same answer on
either side, and counting and searching follow from that.
-/

namespace Itinerary.Feed

/-- Whether a delay of the feed is the mark of a cancelled call, blanks around it aside. -/
def MarksCancelled (mark : Option DelayMark) : Prop :=
  ∃ s, mark = some (.text s) ∧ Text.trim s = "X"

/-- Whether a leg cancels the trip it is part of: it is a ride that says so, or that has the mark
of cancellation for the delay at one of its ends. -/
def Leg.Cancels (l : Leg) : Prop :=
  ∃ exit, l.exit = some exit ∧ l.kind ≠ some "walk" ∧
    (l.cancelled = true ∨ MarksCancelled l.departureDelay ∨ MarksCancelled exit.arrivalDelay)

/-- What a trip says of the connection it is made of. -/
structure Connection.Journey (c : Connection) (t : Trip) : Prop where
  /-- The legs are the proper legs of the connection in order, a walk for each that is one. -/
  legs : List.Forall₂
    (fun l leg => l.interpret (disruptionsOf c.alerts) = .ok (some leg) ∧
      (leg.isRide = false ↔ l.kind = some "walk"))
    (c.legs.filter fun l => l.exit.isSome) t.legs
  /-- There is one change less than there are proper legs that are no walk. -/
  transfers : t.transfers + 1
    = (c.legs.filter fun l => l.exit.isSome && l.kind != some "walk").length
  /-- The trip is cancelled if one of the legs cancels it. -/
  cancelled : t.isCancelled = true ↔ ∃ l ∈ c.legs, l.Cancels
  /-- Each leg ends where the next one starts. -/
  connected : t.legs.IsChain fun a b => a.destination.samePlace b.origin = true

/-! ### Cancellation -/

/-- A delay of the feed cancels exactly if it is the mark. -/
theorem isCancelled_delayOf {mark : Option DelayMark} :
    (delayOf mark).isCancelled = true ↔ MarksCancelled mark := by
  match mark with
  | none => exact ⟨fun h => (nomatch h), fun ⟨_, h, _⟩ => (nomatch h)⟩
  | some (.minutes n) => exact ⟨fun h => (nomatch h), fun ⟨_, h, _⟩ => (nomatch h)⟩
  | some (.text s) =>
    change (Delay.ofText s).isCancelled = true ↔ _
    rw [Delay.isCancelled_ofText]
    exact ⟨fun h => ⟨s, rfl, h⟩, fun ⟨_, hs, h⟩ => by cases hs; exact h⟩

/-- A leg as it is counted when cancelled ones are looked for. -/
def Leg.cancels (l : Leg) : Bool := l.exit.any fun exit => !l.isWalk && l.isCancelled exit

/-- `Leg.cancels` decides whether a leg cancels its trip. -/
theorem Leg.cancels_iff {l : Leg} : l.cancels = true ↔ l.Cancels := by
  unfold Leg.cancels Leg.Cancels
  rw [Option.any_eq_true]
  refine exists_congr fun exit => and_congr_right fun _ => ?_
  rw [Bool.and_eq_true, Leg.isCancelled, Bool.or_eq_true, Bool.or_eq_true, isCancelled_delayOf,
    isCancelled_delayOf, or_assoc, Leg.isWalk, Bool.not_eq_true', decide_eq_false_iff_not]

/-! ### The legs one by one -/

/-- A leg of a trip is a ride, and a cancelled one, as the leg of the connection has it. -/
theorem isRide_and_isCancelled_of_interpret {l : Leg} {around : List Disruption}
    {leg : Itinerary.Leg} (h : l.interpret around = .ok (some leg)) :
    leg.isRide = !l.isWalk ∧ leg.isCancelled = l.cancels := by
  cases hexit : l.exit with
  | none =>
    rw [Leg.interpret_of_terminal (by rw [Leg.hasExit, hexit]; rfl)] at h
    cases h
  | some exit =>
    obtain ⟨times, leg', -, hleg, heq⟩ := Leg.interpret_ok hexit h
    obtain rfl := Option.some.inj heq
    refine ⟨isRide_of_legOf hleg, ?_⟩
    rw [isCancelled_of_legOf hleg, Leg.cancels, hexit]
    rfl

/-- Only proper legs cancel. -/
theorem Leg.hasExit_of_cancels {l : Leg} (h : l.cancels = true) : l.hasExit = true := by
  obtain ⟨exit, hexit, -⟩ := Leg.cancels_iff.mp h
  rw [Leg.hasExit, hexit]
  rfl

/-! ### The trip -/

/-- A trip says of its connection what a journey does. -/
theorem Connection.journey_of_interpret {c : Connection} {id : TripId} {t : Trip}
    (h : c.interpret id = .ok t) : c.Journey t := by
  obtain ⟨legs, hlegs, hassemble⟩ := Connection.interpret_ok h
  obtain ⟨-, rfl, -⟩ := Trip.assemble_ok hassemble
  have hstep := interpretLegs_ok hlegs
  refine ⟨?legs, ?transfers, ?cancelled, t.isChain_legs⟩
  case legs =>
    -- leg by leg, in the order of the proper legs
    refine hstep.imp fun l leg hl => ⟨hl, ?_⟩
    rw [(isRide_and_isCancelled_of_interpret hl).1, Bool.not_eq_false', Leg.isWalk,
      decide_eq_true_iff]
  case transfers =>
    -- a proper leg is no walk exactly if its leg of the trip is a ride, so there are as many
    have hride : (properLegs c.legs).map (fun l => !l.isWalk) = t.legs.map Itinerary.Leg.isRide :=
      map_eq_map_of_forall₂ (hstep.imp fun l leg hl =>
        (isRide_and_isCancelled_of_interpret hl).1.symm)
    have hcount := congrArg (List.countP fun b => b) hride
    rw [List.countP_map, List.countP_map] at hcount
    rw [t.transfers_add_one]
    refine hcount.symm.trans ?_
    rw [properLegs, List.countP_filter, List.countP_eq_length_filter]
    refine congrArg List.length (List.filter_congr fun l _ => ?_)
    rw [Bool.and_comm, Leg.hasExit, bne, beq_eq_decide]
    rfl
  case cancelled =>
    -- a leg of the trip is cancelled exactly if its proper leg cancels, and no other leg can
    have hcancel : (properLegs c.legs).map Leg.cancels = t.legs.map Itinerary.Leg.isCancelled :=
      map_eq_map_of_forall₂ (hstep.imp fun l leg hl =>
        (isRide_and_isCancelled_of_interpret hl).2.symm)
    have hany : t.isCancelled = (properLegs c.legs).any Leg.cancels := by
      have hany := congrArg (List.any · fun b => b) hcancel
      rw [List.any_map, List.any_map] at hany
      exact hany.symm
    rw [hany, List.any_eq_true]
    refine exists_congr fun l => ?_
    rw [properLegs, List.mem_filter, Leg.cancels_iff.symm]
    constructor
    · rintro ⟨⟨hl, -⟩, hc⟩
      exact ⟨hl, hc⟩
    · rintro ⟨hl, hc⟩
      exact ⟨⟨hl, Leg.hasExit_of_cancels hc⟩, hc⟩

/-- Legs without an exit decide nothing, whether there is a trip or an error. -/
theorem Connection.interpret_withLegs (c : Connection) {legs : List Leg}
    (h : properLegs legs = properLegs c.legs) (id : TripId) :
    { c with legs }.interpret id = c.interpret id := by
  rw [Connection.interpret_eq, c.interpret_eq, ← interpretLegs_properLegs c.legs, ← h,
    interpretLegs_properLegs]

/-- **A trip is what the proper legs of its connection say.** Its legs, its changes and its
cancellation are read off them as `Connection.Journey` has it, and any other legs can be put in or
taken out anywhere without changing what the connection comes to, trip or error. -/
theorem Connection.interpret_journey (c : Connection) (id : TripId) :
    (∀ t, c.interpret id = .ok t → c.Journey t) ∧
    ∀ legs : List Leg,
      (legs.filter fun l => l.exit.isSome) = (c.legs.filter fun l => l.exit.isSome) →
      { c with legs }.interpret id = c.interpret id :=
  ⟨fun _ h => journey_of_interpret h, fun _ h => c.interpret_withLegs h id⟩

/-- A leg of which nothing is known. -/
def Leg.blank : Leg where
  kind := none
  name := none
  stopId := none
  lat := none
  lon := none
  departure := none
  arrival := none
  line := none
  operator := none
  terminal := none
  tripNumber := none
  productCode := none
  foreground := none
  background := none
  track := none
  departureDelay := none
  arrivalDelay := none
  cancelled := false
  isAddress := false
  notes := []
  calls := none
  alerts := none
  exit := none
  runningTime := none
  tripId := none

/-- The end of a leg at a station. -/
def Exit.atStation (id : String) (arrival : String) (delay : Option DelayMark) : Exit where
  arrival := some arrival
  stopId := some id
  name := none
  lat := none
  lon := none
  waitTime := none
  track := none
  arrivalDelay := delay
  isAddress := false

/-- A walk to a train that is cancelled where it ends, with legs that only name a place before,
between and behind, some of them with times that are none. -/
def cancelledTrain : Connection where
  origin := none
  destination := none
  duration := none
  departure := none
  arrival := none
  alerts := none
  legs := [
    { Leg.blank with departure := some "soon" },
    { Leg.blank with
      kind := some "walk"
      stopId := some "1"
      departure := some "2024-02-29 23:50:00"
      departureDelay := some (.text "X")
      exit := some (Exit.atStation "2" "2024-02-29 23:55:00" none) },
    { Leg.blank with name := some "2", arrival := some "", departureDelay := some (.text "X") },
    { Leg.blank with
      kind := some "strain"
      stopId := some "2"
      departure := some "2024-02-29 23:58:00"
      arrivalDelay := some (.minutes 3)
      exit := some (Exit.atStation "3" "2024-03-01 00:10:00" (some (.text " X "))) },
    { Leg.blank with name := some "3" }]

theorem cancelledTrain_journey :
    ∃ t, cancelledTrain.interpret ⟨"trip-0"⟩ = .ok t ∧ t.legs.length = 2 ∧ t.transfers = 0 ∧
      t.isCancelled = true ∧ cancelledTrain.Journey t ∧
      { cancelledTrain with legs := properLegs cancelledTrain.legs }.interpret ⟨"trip-0"⟩
        = .ok t := by
  obtain ⟨t, ht⟩ : ∃ t, cancelledTrain.interpret ⟨"trip-0"⟩ = .ok t :=
    exists_eq_ok (by decide +kernel)
  have hall := cancelledTrain.interpret_journey ⟨"trip-0"⟩
  have hjourney := hall.1 t ht
  refine ⟨t, ht, ?_, ?_, ?_, hjourney, ?_⟩
  · exact hjourney.legs.length_eq.symm
  · exact Nat.succ_injective hjourney.transfers
  · refine hjourney.cancelled.mpr ⟨cancelledTrain.legs[3], List.getElem_mem _, ?_⟩
    exact ⟨_, rfl, by decide, Or.inr (Or.inr ⟨" X ", rfl, by decide⟩)⟩
  · exact (hall.2 (properLegs cancelledTrain.legs) rfl).trans ht

end Itinerary.Feed
