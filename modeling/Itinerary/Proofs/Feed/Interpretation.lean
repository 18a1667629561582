import Itinerary.Feed.Interpretation
import Itinerary.Proofs.Steps

/-!
# How a connection is interpreted, step by step

One statement for each function that makes a trip of a connection. They say all that a success
comes with, so that what is proved about trips never opens these functions again: a leg without an
exit gives nothing (`Leg.interpret_of_terminal`), any other is read as a walk or as a ride
(`Leg.interpret_of_exit`), a walk and a ride are what `walkOf_ok` and `rideOf_ok` say, and a trip
is assembled of the legs that are left (`Connection.interpret_eq`). Identifiers are handed out one
after the other, and so that of a connection is known by its position (`interpretAll_eq`).
-/

namespace Itinerary.Feed

open Calendar

/-! ### Walks and rides -/

/-- A walk has a time at either end, borrowed from the other end if it has but one. -/
theorem walkOf_ok {l : Leg} {exit : Exit} {departure arrival : Option StopTime}
    {leg : Itinerary.Leg} (h : walkOf l exit departure arrival = .ok leg) :
    ∃ departureTime arrivalTime, departure.or arrival = some departureTime ∧
      arrival.or departure = some arrivalTime ∧
      leg = .walk ⟨l.place, exit.place, departureTime, arrivalTime⟩ := by
  unfold walkOf at h
  split at h
  · cases h
  · cases h
  · next departureTime arrivalTime hd ha =>
    exact ⟨departureTime, arrivalTime, hd, ha, (Except.ok.inj h).symm⟩

/-- A ride has the times it is given at its ends, its stops in order, and one mark of cancellation
for both ends. -/
theorem rideOf_ok {l : Leg} {exit : Exit} {departure arrival : Option StopTime}
    {around : List Disruption} {leg : Itinerary.Leg}
    (h : rideOf l exit departure arrival around = .ok leg) :
    ∃ stops departureTime arrivalTime, l.stopsOf = .ok stops ∧
      departure = some departureTime ∧ arrival = some arrivalTime ∧
      leg = .ride
        { line := l.lineOf
          departure :=
            { Stop.bare l.place with
              departure, cancelled := l.isCancelled exit : Stop }.withTrack l.track
          arrival :=
            { Stop.bare exit.place with
              arrival, cancelled := l.isCancelled exit : Stop }.withTrack exit.track
          stops
          destination := l.terminal
          info := infoOf l.notes (disruptionsOf l.alerts ++ around)
          disruptions := disruptionsOf l.alerts
          departureTime, arrivalTime } := by
  unfold rideOf at h
  obtain ⟨stops, hstops, h⟩ := bind_eq_ok_iff.mp h
  refine ⟨stops, ?_⟩
  -- the two stops have one side each, so boarding looks at the times as they are given
  cases departure with
  | none => cases h
  | some departureTime =>
    cases arrival with
    | none => cases h
    | some arrivalTime =>
      exact ⟨departureTime, arrivalTime, hstops, rfl, rfl, (Except.ok.inj h).symm⟩

/-! ### Legs -/

/-- Whether a leg ends somewhere; one that does not only names the destination. -/
def Leg.hasExit (l : Leg) : Bool := l.exit.isSome

/-- Whether a leg is marked as a walk. -/
def Leg.isWalk (l : Leg) : Bool := l.kind = some "walk"

theorem LegClass.of_true (kind : Option String) :
    LegClass.of kind true = if kind = some "walk" then .walking else .transit := rfl

/-- A leg that ends nowhere gives no leg, whatever else it says. -/
theorem Leg.interpret_of_terminal {l : Leg} (h : l.hasExit = false) (around : List Disruption) :
    l.interpret around = .ok none := by
  unfold Leg.hasExit at h
  unfold Leg.interpret
  rw [h]
  rfl

/-- The times at the two ends of a leg with their delays. -/
def stopTimesOf (l : Leg) (exit : Exit) :
    Except ConversionError (Option StopTime × Option StopTime) := do
  let (boarding, alighting) ← plannedTimes l exit
  return (boarding.map (StopTime.withDelay · (delayOf l.departureDelay)),
    alighting.map (StopTime.withDelay · (delayOf exit.arrivalDelay)))

/-- What a leg with an exit is taken as, given the times at its ends. -/
def legOf (l : Leg) (exit : Exit) (around : List Disruption)
    (times : Option StopTime × Option StopTime) : Except ConversionError Itinerary.Leg :=
  if l.isWalk then walkOf l exit times.1 times.2 else rideOf l exit times.1 times.2 around

/-- A leg that ends somewhere is taken as a walk if it is marked as one, and as a ride if not. -/
theorem Leg.interpret_of_exit {l : Leg} {exit : Exit} (h : l.exit = some exit)
    (around : List Disruption) :
    l.interpret around = (stopTimesOf l exit >>= legOf l exit around).map some := by
  unfold Leg.interpret stopTimesOf legOf Leg.isWalk
  rw [h, Option.isSome_some, LegClass.of_true]
  -- in both cases the times are read first, and a fault of theirs is the fault of the leg
  by_cases hwalk : l.kind = some "walk"
  · rw [if_pos hwalk, decide_eq_true hwalk]
    dsimp only
    cases plannedTimes l exit with
    | error e => rfl
    | ok times =>
      change (walkOf l exit _ _ >>= fun leg => pure (some leg))
        = Except.map some (walkOf l exit _ _)
      cases walkOf l exit _ _ <;> rfl
  · rw [if_neg hwalk, decide_eq_false hwalk]
    dsimp only
    cases plannedTimes l exit with
    | error e => rfl
    | ok times =>
      change (rideOf l exit _ _ around >>= fun leg => pure (some leg))
        = Except.map some (rideOf l exit _ _ around)
      cases rideOf l exit _ _ around <;> rfl

/-- What is marked as a walk becomes one, and all else becomes a ride. -/
theorem isRide_of_legOf {l : Leg} {exit : Exit} {around : List Disruption}
    {times : Option StopTime × Option StopTime} {leg : Itinerary.Leg}
    (h : legOf l exit around times = .ok leg) : leg.isRide = !l.isWalk := by
  unfold legOf at h
  split at h
  · next hwalk =>
    obtain ⟨_, _, _, _, rfl⟩ := walkOf_ok h
    rw [hwalk]
    rfl
  · next hwalk =>
    obtain ⟨_, _, _, _, _, _, rfl⟩ := rideOf_ok h
    rw [eq_false_of_ne_true hwalk]
    rfl

/-- A ride is cancelled as its leg says; a walk never is. -/
theorem isCancelled_of_legOf {l : Leg} {exit : Exit} {around : List Disruption}
    {times : Option StopTime × Option StopTime} {leg : Itinerary.Leg}
    (h : legOf l exit around times = .ok leg) :
    leg.isCancelled = (!l.isWalk && l.isCancelled exit) := by
  unfold legOf at h
  split at h
  · next hwalk =>
    obtain ⟨_, _, _, _, rfl⟩ := walkOf_ok h
    rw [hwalk]
    rfl
  · next hwalk =>
    obtain ⟨_, _, _, _, _, _, rfl⟩ := rideOf_ok h
    rw [eq_false_of_ne_true hwalk]
    exact Bool.or_self _

theorem Leg.interpret_ok {l : Leg} {exit : Exit} (h : l.exit = some exit)
    {around : List Disruption} {result : Option Itinerary.Leg}
    (hok : l.interpret around = .ok result) :
    ∃ times leg, stopTimesOf l exit = .ok times ∧ legOf l exit around times = .ok leg ∧
      result = some leg := by
  rw [Leg.interpret_of_exit h, map_eq_ok_iff] at hok
  obtain ⟨leg, hleg, rfl⟩ := hok
  obtain ⟨times, htimes, hleg⟩ := bind_eq_ok_iff.mp hleg
  exact ⟨times, leg, htimes, hleg, rfl⟩

/-- A ride comes of a leg that is taken as one. -/
theorem Leg.rideOf_of_interpret {l : Leg} {around : List Disruption} {r : Ride}
    (h : l.interpret around = .ok (some (.ride r))) :
    ∃ exit departure arrival, rideOf l exit departure arrival around = .ok (.ride r) := by
  cases hexit : l.exit with
  | none =>
    rw [Leg.interpret_of_terminal (by rw [Leg.hasExit, hexit]; rfl)] at h
    cases h
  | some exit =>
    obtain ⟨times, leg, -, hleg, hresult⟩ := Leg.interpret_ok hexit h
    obtain rfl := Option.some.inj hresult
    unfold legOf at hleg
    split at hleg
    · -- a walk is no ride
      obtain ⟨_, _, _, _, hwalk⟩ := walkOf_ok hleg
      cases hwalk
    · exact ⟨exit, times.1, times.2, hleg⟩

/-! ### Connections -/

/-- The legs of a connection that end somewhere. -/
def properLegs (legs : List Leg) : List Leg := legs.filter Leg.hasExit

/-- The legs come one after the other, and the first that cannot be interpreted fails them all. -/
theorem interpretLegs_cons (l : Leg) (rest : List Leg) (around : List Disruption) :
    interpretLegs (l :: rest) around =
      l.interpret around >>= fun first => interpretLegs rest around >>= fun others =>
        .ok (first.toList ++ others) := by
  unfold interpretLegs
  rw [List.mapM_cons]
  cases l.interpret around with
  | error e => rfl
  | ok first =>
    cases rest.mapM fun l => l.interpret around with
    | error e => rfl
    | ok others => cases first <;> rfl

/-- Legs that end nowhere have no part in what the legs come to. -/
theorem interpretLegs_properLegs (legs : List Leg) (around : List Disruption) :
    interpretLegs (properLegs legs) around = interpretLegs legs around := by
  induction legs with
  | nil => rfl
  | cons l rest ih =>
    cases hexit : l.hasExit with
    | false =>
      -- the leg gives nothing, and neither side has it
      have hcons : interpretLegs (l :: rest) around = interpretLegs rest around := by
        rw [interpretLegs_cons, Leg.interpret_of_terminal hexit]
        cases interpretLegs rest around <;> rfl
      rw [properLegs, List.filter_cons_of_neg (by rw [hexit]; exact Bool.false_ne_true), hcons]
      exact ih
    | true =>
      -- both sides start with the leg, and may fail at it
      rw [properLegs, List.filter_cons_of_pos hexit, interpretLegs_cons, interpretLegs_cons, ← ih]
      rfl

/-- The legs that are left are those that end somewhere, one for one and in order. -/
theorem interpretLegs_ok {legs : List Leg} {around : List Disruption}
    {result : List Itinerary.Leg} (h : interpretLegs legs around = .ok result) :
    List.Forall₂ (fun l leg => l.interpret around = .ok (some leg)) (properLegs legs) result := by
  rw [← interpretLegs_properLegs] at h
  obtain ⟨legs', hlegs', hresult⟩ := bind_eq_ok_iff.mp h
  obtain rfl := Except.ok.inj hresult
  have hall : ∀ l ∈ properLegs legs, l.hasExit = true := fun l hl => (List.mem_filter.mp hl).2
  -- one result for each proper leg, and none of these results is empty
  have hstep := mapM_eq_ok_iff.mp hlegs'
  clear h hlegs' hresult
  generalize properLegs legs = ls at hstep hall
  induction hstep with
  | nil => exact .nil
  | @cons l leg rest legs hl _ ih =>
    obtain ⟨exit, hexit⟩ := Option.isSome_iff_exists.mp (hall l List.mem_cons_self)
    obtain ⟨_, leg', _, _, rfl⟩ := Leg.interpret_ok hexit hl
    exact .cons hl (ih fun l hl => hall l (List.mem_cons_of_mem _ hl))

/-- A connection is interpreted leg by leg, and then its trip is assembled. -/
theorem Connection.interpret_eq (c : Connection) (id : TripId) :
    c.interpret id = interpretLegs c.legs (disruptionsOf c.alerts) >>= fun legs =>
      (Trip.assemble id legs (disruptionsOf c.alerts)).mapError .assembly := by
  unfold Connection.interpret
  refine congrArg (interpretLegs c.legs (disruptionsOf c.alerts) >>= ·) (funext fun legs => ?_)
  cases Trip.assemble id legs (disruptionsOf c.alerts) <;> rfl

/-- A trip has the legs that the legs of its connection come to. -/
theorem Connection.interpret_ok {c : Connection} {id : TripId} {t : Trip}
    (h : c.interpret id = .ok t) :
    ∃ legs, interpretLegs c.legs (disruptionsOf c.alerts) = .ok legs ∧
      Trip.assemble id legs (disruptionsOf c.alerts) = .ok t := by
  rw [c.interpret_eq] at h
  obtain ⟨legs, hlegs, h⟩ := bind_eq_ok_iff.mp h
  exact ⟨legs, hlegs, mapError_eq_ok_iff.mp h⟩

/-! ### Identifiers -/

/-- **Every connection is interpreted under the identifier of its position**, if a generator hands
out those of a supply on its course. -/
theorem interpretAll_eq {σ : Type} [IdGenerator σ] (course : Nat → σ) (ids : IdSupply)
    (h : ∀ n, IdGenerator.nextId (course n) = (ids n, course (n + 1)))
    (connections : List Connection) (n : Nat) :
    interpretAll (course n) connections =
      ((connections.zipIdx n).filterMap fun (c, position) =>
        (c.interpret (ids position)).toOption, course (n + connections.length)) := by
  induction connections generalizing n with
  | nil => rfl
  | cons c rest ih =>
    -- the identifier is used up before it is known whether there is a trip
    rw [interpretAll, h n]
    dsimp only
    rw [ih (n + 1), List.zipIdx_cons, List.filterMap_cons, List.length_cons, Nat.add_right_comm,
      Nat.add_assoc]
    cases c.interpret (ids n) <;> rfl

/-- The trips of a list of connections, each with the identifier of its position. -/
theorem tripsOf_eq (ids : IdSupply) (connections : List Connection) :
    tripsOf ids connections = connections.zipIdx.filterMap fun (c, position) =>
      (c.interpret (ids position)).toOption :=
  congrArg Prod.fst (interpretAll_eq (IdSupply.Opened.mk ids) ids (fun _ => rfl) connections 0)

/-- **A count of identifiers gives the connection at a position the number of it**, whatever the
others come to, and stands at the number of all connections behind them. -/
theorem interpretAll_ofStem (stem : String) (connections : List Connection) :
    interpretAll (SequentialIds.ofStem stem) connections =
      (tripsOf (sequentialIds stem) connections, ⟨stem, connections.length⟩) := by
  have hcounted := interpretAll_eq (SequentialIds.mk stem) (sequentialIds stem) (fun _ => rfl)
    connections 0
  rw [Nat.zero_add] at hcounted
  rw [tripsOf_eq]
  exact hcounted

end Itinerary.Feed
