import Itinerary.Leg

/-!
# Trips

A trip is a list of legs of which each ends where the next one starts, with at least one ride
among them. Both conditions are part of the type: the first by itself, the second by the number of
changes, which is counted from one below zero and is a natural number only if there is a ride. So a
trip has a first and a last leg and hence places and times at its ends. `Trip.assemble` builds a
trip or says what is wrong with its legs.

Identifiers are handed out by a generator. That of `SequentialIds` counts, and nothing keeps it from
counting on. How one would be drawn at random is left out: an `IdSupply` may be any.
-/

namespace Itinerary

/-! ### Identifiers -/

/-- The identifier of a trip. -/
structure TripId where
  text : String
deriving DecidableEq, Repr

/-- What hands out identifiers: the next one, and what hands out those after it. -/
class IdGenerator (σ : Type) where
  nextId : σ → TripId × σ

/-- Identifiers that count up behind a common stem. -/
structure SequentialIds where
  stem : String
  /-- the number of the identifier that comes next -/
  next : Nat
deriving DecidableEq, Repr

namespace SequentialIds

/-- The identifiers of a stem, from zero on. -/
def ofStem (stem : String) : SequentialIds := ⟨stem, 0⟩

/-- The next identifier, and the count behind it. -/
def nextId (ids : SequentialIds) : TripId × SequentialIds :=
  (⟨ids.stem ++ "-" ++ toString ids.next⟩, { ids with next := ids.next + 1 })

instance : IdGenerator SequentialIds := ⟨nextId⟩

end SequentialIds

/-- A supply of identifiers: one for every position in a response. -/
abbrev IdSupply := Nat → TripId

/-- A supply of which some identifiers have been handed out. -/
structure IdSupply.Opened where
  supply : IdSupply
  used : Nat

instance : IdGenerator IdSupply.Opened :=
  ⟨fun ids => (ids.supply ids.used, { ids with used := ids.used + 1 })⟩

/-- The supply of the identifiers that count up from zero behind a stem. -/
def sequentialIds (stem : String) : IdSupply := fun n => (SequentialIds.nextId ⟨stem, n⟩).1

/-! ### Assembling -/

/-- The position of the first leg that does not end where the next one starts. -/
def firstGap : List Leg → Option Nat
  | a :: b :: rest => if a.meets b then (firstGap (b :: rest)).map (· + 1) else some 0
  | _ => none

/-- The changes between rides, counted from one below zero. Walks do not count. -/
def transferCount (legs : List Leg) : Int :=
  legs.foldl (fun count l => if l.isRide then count + 1 else count) (-1)

/-- A journey from door to door. -/
structure Trip where
  id : TripId
  legs : List Leg
  /-- the number of changes between rides -/
  transfers : Nat
  disruptions : List Disruption
  /-- each leg ends where the next one starts -/
  connected : firstGap legs = none
  /-- the changes are as they are counted, which takes a ride -/
  counted : transferCount legs = transfers
deriving DecidableEq, Repr

/-- Why some legs make no trip. -/
inductive AssemblyError where
  | empty
  /-- the leg at this position does not end where the next one starts -/
  | gap (index : Nat)
  | noRide
deriving DecidableEq, Repr

/-- The wording of an assembly error. -/
def AssemblyError.message : AssemblyError → String
  | .empty => "trip must have at least one leg"
  | .noRide => "trip must have at least one transit leg"
  | .gap index =>
    "leg " ++ toString index ++ " does not arrive where leg " ++ toString (index + 1) ++ " departs"

namespace Trip

/-- A trip of the given legs. A list without legs, then the first gap, then a count of changes below
zero is refused. -/
def assemble (id : TripId) (legs : List Leg) (disruptions : List Disruption) :
    Except AssemblyError Trip :=
  if legs.isEmpty then .error .empty
  else
    -- the gap is found before the rides are counted, so of both faults the gap is told
    match h : firstGap legs with
    | some index => .error (.gap index)
    | none =>
      match h' : (transferCount legs).toNat? with
      | some transfers => .ok ⟨id, legs, transfers, disruptions, h, Int.mem_toNat?.mp h'⟩
      | none => .error .noRide

theorem legs_ne_nil (t : Trip) : t.legs ≠ [] := by
  intro h
  -- without a leg the count stays below zero
  have hcounted := t.counted
  rw [h] at hcounted
  cases hcounted

/-! ### What a trip shows -/

/-- The first leg. -/
def firstLeg (t : Trip) : Leg := t.legs.head t.legs_ne_nil

/-- The last leg. -/
def lastLeg (t : Trip) : Leg := t.legs.getLast t.legs_ne_nil

/-- Where the trip starts. -/
def origin (t : Trip) : Location := t.firstLeg.origin

/-- Where the trip ends. -/
def destination (t : Trip) : Location := t.lastLeg.destination

/-- When the trip starts. -/
def departureTime (t : Trip) : StopTime := t.firstLeg.departureTime

/-- When the trip ends. -/
def arrivalTime (t : Trip) : StopTime := t.lastLeg.arrivalTime

/-- How many seconds the trip takes by plan. -/
def seconds (t : Trip) : Int := t.departureTime.secondsUntil t.arrivalTime

/-- The rides in order. -/
def rides (t : Trip) : List Ride := t.legs.filterMap Leg.ride?

/-- The first ride. -/
def firstRide? (t : Trip) : Option Ride := t.rides.head?

/-- The last ride. -/
def lastRide? (t : Trip) : Option Ride := t.rides.getLast?

/-- Whether any ride is cancelled. -/
def isCancelled (t : Trip) : Bool := t.legs.any Leg.isCancelled

end Trip

end Itinerary
