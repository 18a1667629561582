import Mathlib.Data.List.Nodup
import Itinerary.Proofs.Feed.Interpretation

/-!
# Which connections become trips

A response lists connections, and each of them is interpreted by itself. `tripsOf` keeps the
trips and leaves out what is refused, so three things could go wrong: a trip could be lost or
shown twice, an identifier could move to the trip of another position, and what surrounds a
connection could change what it is interpreted as.

None of them happens, and the reason is that the positions of the usable connections carry
everything. `usablePositions` lists them, and the trips are in step with that list
(`forall₂_tripsOf`): each trip is the interpretation of the connection at its position, under the
identifier of that position. An identifier is written into the trip and read nowhere
(`Connection.interpret_withId`), so the trip is apart from it what the connection gives alone.
-/

namespace Itinerary

/-- The identifier decides nothing when a trip is assembled. -/
theorem Trip.assemble_withId (id id' : TripId) (legs : List Leg) (disruptions : List Disruption) :
    Trip.assemble id' legs disruptions
      = (Trip.assemble id legs disruptions).map fun t => { t with id := id' } := by
  unfold Trip.assemble
  split
  · rfl
  · split
    · rfl
    · split <;> rfl

namespace Feed

/-! ### One connection -/

/-- Whether a connection makes a trip, under whatever identifier. -/
def Connection.IsUsable (c : Connection) : Prop := ∃ id t, c.interpret id = .ok t

/-- A connection makes the same trip under every identifier, apart from the identifier. -/
theorem Connection.interpret_withId (c : Connection) (id id' : TripId) :
    c.interpret id' = (c.interpret id).map fun t => { t with id := id' } := by
  rw [c.interpret_eq, c.interpret_eq]
  cases interpretLegs c.legs (disruptionsOf c.alerts) with
  | error e => rfl
  | ok legs =>
    change (Trip.assemble id' legs (disruptionsOf c.alerts)).mapError _
      = ((Trip.assemble id legs (disruptionsOf c.alerts)).mapError _).map _
    rw [Trip.assemble_withId id id']
    cases Trip.assemble id legs (disruptionsOf c.alerts) <;> rfl

/-- What a connection is interpreted as under any other identifier. -/
theorem Connection.interpret_of_interpret {c : Connection} {id : TripId} {t : Trip}
    (h : c.interpret id = .ok t) (id' : TripId) :
    c.interpret id' = .ok { t with id := id' } := by
  rw [c.interpret_withId id id', h]
  rfl

theorem Connection.IsUsable.exists_interpret {c : Connection} (h : c.IsUsable) (id : TripId) :
    ∃ t, c.interpret id = .ok t := by
  obtain ⟨id₀, t, h⟩ := h
  exact ⟨_, Connection.interpret_of_interpret h id⟩

/-! ### All connections of a response -/

/-- The positions of the connections that make a trip. -/
def usablePositions (ids : IdSupply) (connections : List Connection) : List Nat :=
  (connections.zipIdx.filter fun (c, position) =>
    (c.interpret (ids position)).toOption.isSome).map Prod.snd

/-- The positions are those of the connections that make a trip. -/
theorem mem_usablePositions {ids : IdSupply} {connections : List Connection} {i : Nat} :
    i ∈ usablePositions ids connections ↔
      ∃ c, connections[i]? = some c ∧ c.IsUsable := by
  unfold usablePositions
  rw [List.mem_map]
  constructor
  · rintro ⟨⟨c, j⟩, hmem, rfl⟩
    obtain ⟨hzip, hsome⟩ := List.mem_filter.mp hmem
    refine ⟨c, List.mem_zipIdx_iff_getElem?.mp hzip, ids j, ?_⟩
    cases h : c.interpret (ids j) with
    | error e => simp [h, Except.toOption] at hsome
    | ok t => exact ⟨t, rfl⟩
  · rintro ⟨c, hget, husable⟩
    -- it makes a trip under some identifier, so under that of its position as well
    obtain ⟨t, ht⟩ := husable.exists_interpret (ids i)
    refine ⟨(c, i), List.mem_filter.mpr ⟨List.mem_zipIdx_iff_getElem?.mpr hget, ?_⟩, rfl⟩
    simp [ht, Except.toOption]

/-- **The trips are in step with the positions.** The trip at a position is what the connection
there is interpreted as under the identifier of the position. -/
theorem forall₂_tripsOf (ids : IdSupply) (connections : List Connection) :
    List.Forall₂ (fun i t => ∃ c, connections[i]? = some c ∧ c.interpret (ids i) = .ok t)
      (usablePositions ids connections) (tripsOf ids connections) := by
  rw [usablePositions, tripsOf_eq]
  -- both lists are made of the same connections with their positions
  rw [List.forall₂_map_left_iff]
  refine (forall₂_filterMap _ connections.zipIdx).imp ?_
  rintro ⟨c, i⟩ t ⟨hmem, ht⟩
  refine ⟨c, List.mem_zipIdx_iff_getElem?.mp hmem, ?_⟩
  cases h : c.interpret (ids i) with
  | error e => simp [h, Except.toOption] at ht
  | ok t' =>
    simp only [h, Except.toOption, Option.some.injEq] at ht
    rw [ht]

end Feed

end Itinerary
