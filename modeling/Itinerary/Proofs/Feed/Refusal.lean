import Itinerary.Proofs.Feed.Interpretation

/-!
# Why a connection is refused

A connection is refused with one error, and many things can be wrong with it at once: any of its
legs may have texts that are no stamps, or too few times, and its legs may not make a trip. What is
said here is which of the faults is told. Legs are looked at in order and the first that is refused
is told (`Connection.Refused`); whether the legs make a trip is only asked if none is.

Of a leg the texts come first, in a fixed order (`Leg.stampTexts`), and then what it lacks
(`Leg.Refused`). Reading texts in order is done in three places of the interpretation: at the ends
of a leg, at a call and along the calls. Each of them goes as `readTexts` goes on the texts of that
place (`verdict_plannedTimes`, `verdict_stop`, `verdict_stopsOf`), and texts one after the other
are read like one list (`verdict_readTexts_append`).
-/

namespace Itinerary.Feed

open Calendar

/-! ### Texts -/

/-- Whether a text is a stamp. -/
def IsStamp (s : String) : Prop := ∃ t, readStamp s = .ok t

/-- The text that is given for a time, if there is one. -/
def textOf (field : TimeField) (value : Option String) : List (TimeField × String) :=
  value.toList.map fun s => (field, s)

/-- The texts of a call: its arrival, then its departure. -/
def Call.stampTexts (c : Call) : List (TimeField × String) :=
  textOf .callArrival c.arrival ++ textOf .callDeparture c.departure

/-- The texts at the ends of a leg: the departure and the arrival where it starts, then the arrival
where it ends. -/
def Leg.endTexts (l : Leg) (exit : Exit) : List (TimeField × String) :=
  textOf .legDeparture l.departure ++
    (textOf .legArrival l.arrival ++ textOf .exitArrival exit.arrival)

/-- The texts of the calls of a leg, call by call. -/
def Leg.callTexts (l : Leg) : List (TimeField × String) :=
  (l.calls.getD []).flatMap Call.stampTexts

/-- The texts that have to be stamps, in the order in which they are read. Nobody reads the calls
of a walk. -/
def Leg.stampTexts (l : Leg) (exit : Exit) : List (TimeField × String) :=
  l.endTexts exit ++ if l.kind = some "walk" then [] else l.callTexts

/-! ### Refusals -/

/-- Why a leg that ends somewhere is refused. -/
inductive Leg.Refused (l : Leg) (exit : Exit) : ConversionError → Prop where
  /-- a text is no stamp, and it is the first such text -/
  | badTime {before after : List (TimeField × String)} {field : TimeField} {value : String}
    (htexts : l.stampTexts exit = before ++ (field, value) :: after)
    (hbefore : ∀ t ∈ before, IsStamp t.2) (hvalue : ¬ IsStamp value) :
    Refused l exit (.badTime field value)
  /-- a walk has no time at all -/
  | untimedWalk (htexts : ∀ t ∈ l.stampTexts exit, IsStamp t.2) (hwalk : l.kind = some "walk")
    (hstart : l.departure = none ∧ l.arrival = none) (hend : exit.arrival = none) :
    Refused l exit (.missing .walkDeparture)
  /-- a ride has no time where it starts, whether it has one where it ends or not -/
  | untimedRide (htexts : ∀ t ∈ l.stampTexts exit, IsStamp t.2) (hride : l.kind ≠ some "walk")
    (hstart : l.departure = none ∧ l.arrival = none) :
    Refused l exit (.missing .boardingDeparture)

/-- Why a connection is refused under an identifier. -/
inductive Connection.Refused (c : Connection) (id : TripId) : ConversionError → Prop where
  /-- a leg is refused, and it is the first such leg -/
  | leg {before after : List Leg} {l : Leg} {e : ConversionError}
    (hlegs : c.legs = before ++ l :: after)
    (hbefore : ∀ b ∈ before, ∃ result, b.interpret (disruptionsOf c.alerts) = .ok result)
    (hl : l.interpret (disruptionsOf c.alerts) = .error e) : Refused c id e
  /-- no leg is refused, and those that are left make no trip -/
  | assembly {results : List (Option Itinerary.Leg)} {fault : AssemblyError}
    (hlegs : List.Forall₂ (fun l result => l.interpret (disruptionsOf c.alerts) = .ok result)
      c.legs results)
    (hfault : Trip.assemble id results.reduceOption (disruptionsOf c.alerts) = .error fault) :
    Refused c id (.assembly fault)

/-! ### Texts in order -/

/-- Reads a text that has to be a stamp. -/
def readText (t : TimeField × String) : Except ConversionError DateTime :=
  (readStamp t.2).mapError fun _ => .badTime t.1 t.2

/-- Reads texts in order, as far as they are stamps. -/
def readTexts (texts : List (TimeField × String)) : Except ConversionError (List DateTime) :=
  texts.mapM readText

theorem exists_readText_iff (t : TimeField × String) :
    (∃ moment, readText t = .ok moment) ↔ IsStamp t.2 :=
  exists_congr fun _ => mapError_eq_ok_iff

theorem readText_eq_error_iff (t : TimeField × String) {e : ConversionError} :
    readText t = .error e ↔ ¬ IsStamp t.2 ∧ e = .badTime t.1 t.2 := by
  rw [readText, mapError_eq_error_iff, IsStamp]
  cases readStamp t.2 with
  | ok moment =>
    refine ⟨?_, ?_⟩
    · rintro ⟨_, h, -⟩
      cases h
    · rintro ⟨h, -⟩
      exact absurd ⟨moment, rfl⟩ h
  | error fault =>
    refine ⟨?_, ?_⟩
    · rintro ⟨_, -, rfl⟩
      refine ⟨?_, rfl⟩
      rintro ⟨_, h⟩
      cases h
    · rintro ⟨-, rfl⟩
      exact ⟨fault, rfl, rfl⟩

/-- **The first text that is no stamp is told.** -/
theorem readTexts_eq_error_iff {texts : List (TimeField × String)} {e : ConversionError} :
    readTexts texts = .error e ↔
      ∃ before field value after, texts = before ++ (field, value) :: after ∧
        (∀ t ∈ before, IsStamp t.2) ∧ ¬ IsStamp value ∧ e = .badTime field value := by
  -- the texts are read one after another, so the first fault is that of the first bad text
  rw [readTexts, mapM_eq_error_iff]
  constructor
  · rintro ⟨before, ⟨field, value⟩, after, htexts, hbefore, ht⟩
    exact ⟨before, field, value, after, htexts,
      fun t ht => (exists_readText_iff t).mp (hbefore t ht),
      (readText_eq_error_iff (field, value)).mp ht⟩
  · rintro ⟨before, field, value, after, htexts, hbefore, ht⟩
    exact ⟨before, (field, value), after, htexts,
      fun t ht => (exists_readText_iff t).mpr (hbefore t ht),
      (readText_eq_error_iff (field, value)).mpr ht⟩

theorem verdict_readTexts_eq_ok_iff {texts : List (TimeField × String)} :
    verdict (readTexts texts) = .ok () ↔ ∀ t ∈ texts, IsStamp t.2 := by
  rw [verdict_eq_ok_iff, readTexts, exists_mapM_eq_ok_iff]
  exact forall₂_congr fun t _ => exists_readText_iff t

theorem verdict_readTexts_append (texts others : List (TimeField × String)) :
    verdict (readTexts (texts ++ others)) =
      (verdict (readTexts texts) >>= fun _ => verdict (readTexts others)) := by
  rw [readTexts, List.mapM_append]
  exact verdict_bind fun _ _ => verdict_bind_pure _ _

/-! ### The places where texts are read -/

/-- An optional stamp is read as the text that is given for it. -/
theorem verdict_stampOf (field : TimeField) (value : Option String) :
    verdict (stampOf field value) = verdict (readTexts (textOf field value)) := by
  cases value with
  | none => rfl
  | some s =>
    rw [stampOf, textOf, Option.toList_some, List.map_singleton, readTexts, List.mapM_cons,
      readText]
    dsimp only
    cases readStamp s <;> rfl

/-- A stamp is there if its text is. -/
theorem stampOf_isSome {field : TimeField} {value : Option String} {stamp : Option DateTime}
    (h : stampOf field value = .ok stamp) : stamp.isSome = value.isSome := by
  cases value with
  | none =>
    cases h
    rfl
  | some s =>
    rw [stampOf] at h
    split at h
    · cases h
      rfl
    · cases h

/-- The times at the ends of a leg are read from the texts there. -/
theorem verdict_plannedTimes (l : Leg) (exit : Exit) :
    verdict (plannedTimes l exit) = verdict (readTexts (l.endTexts exit)) := by
  rw [Leg.endTexts, verdict_readTexts_append, verdict_readTexts_append, ← verdict_stampOf,
    ← verdict_stampOf, ← verdict_stampOf, plannedTimes]
  refine verdict_bind fun departure _ => verdict_bind fun arrival _ => ?_
  exact verdict_bind_pure _ _

theorem Call.verdict_stop (c : Call) : verdict c.stop = verdict (readTexts c.stampTexts) := by
  rw [Call.stampTexts, verdict_readTexts_append, ← verdict_stampOf, ← verdict_stampOf, Call.stop]
  exact verdict_bind fun arrival _ => verdict_bind_pure _ _

/-- A call without times has no texts, so to leave it out makes no difference. -/
theorem Call.stampTexts_of_isWaypoint {c : Call} (h : c.isWaypoint = true) : c.stampTexts = [] := by
  rw [Call.isWaypoint, Bool.and_eq_true, Option.isNone_iff_eq_none, Option.isNone_iff_eq_none] at h
  rw [Call.stampTexts, h.1, h.2]
  rfl

/-- The stops of a ride are read from the texts of its calls. -/
theorem Leg.verdict_stopsOf (l : Leg) : verdict l.stopsOf = verdict (readTexts l.callTexts) := by
  rw [Leg.stopsOf, Leg.callTexts]
  induction l.calls.getD [] with
  | nil => rfl
  | cons c rest ih =>
    rw [List.flatMap_cons]
    cases hway : c.isWaypoint with
    | true =>
      -- a waypoint has no texts and makes no stop
      rw [List.filter_cons_of_neg (by simp [hway]), Call.stampTexts_of_isWaypoint hway]
      exact ih
    | false =>
      rw [List.filter_cons_of_pos (by simp [hway]), List.mapM_cons, verdict_readTexts_append,
        ← Call.verdict_stop, ← ih]
      exact verdict_bind fun _ _ => verdict_bind_pure _ _

/-! ### Legs -/

/-- The times at the ends of a leg are there if their texts are, that of the start standing in for
that of the end. -/
theorem stopTimesOf_isSome {l : Leg} {exit : Exit} {times : Option StopTime × Option StopTime}
    (h : stopTimesOf l exit = .ok times) :
    times.1.isSome = (l.departure.isSome || l.arrival.isSome) ∧
      times.2.isSome = (exit.arrival.isSome || times.1.isSome) := by
  obtain ⟨planned, hplanned, h⟩ := bind_eq_ok_iff.mp h
  cases h
  obtain ⟨departure, hdeparture, hplanned⟩ := bind_eq_ok_iff.mp hplanned
  obtain ⟨arrival, harrival, hplanned⟩ := bind_eq_ok_iff.mp hplanned
  obtain ⟨exitArrival, hexitArrival, hplanned⟩ := bind_eq_ok_iff.mp hplanned
  cases hplanned
  simp only [Option.isSome_map, Option.isSome_or, stampOf_isSome hdeparture,
    stampOf_isSome harrival, stampOf_isSome hexitArrival, and_self]

/-- A walk needs a time at one of its ends. -/
theorem verdict_walkOf (l : Leg) (exit : Exit) (departure arrival : Option StopTime) :
    verdict (walkOf l exit departure arrival) =
      if departure.isSome || arrival.isSome then .ok () else .error (.missing .walkDeparture) := by
  cases departure <;> cases arrival <;> rfl

/-- A ride needs its stops and then a time at both of its ends. -/
theorem verdict_rideOf (l : Leg) (exit : Exit) (departure arrival : Option StopTime)
    (around : List Disruption) :
    verdict (rideOf l exit departure arrival around) = (verdict l.stopsOf >>= fun _ =>
      if departure.isNone then .error (.missing .boardingDeparture)
      else if arrival.isNone then .error (.missing .alightingArrival) else .ok ()) := by
  refine verdict_bind fun stops _ => ?_
  cases departure <;> cases arrival <;> rfl

/-- Whether a leg whose texts are stamps has the times it needs. -/
def Leg.checkTimes (l : Leg) (exit : Exit) : Except ConversionError Unit :=
  if l.departure.isSome || l.arrival.isSome then .ok ()
  else if l.kind = some "walk" then
    if exit.arrival.isSome then .ok () else .error (.missing .walkDeparture)
  else .error (.missing .boardingDeparture)

/-- **A leg is refused for its texts, and then for the times it has not.** -/
theorem Leg.verdict_interpret {l : Leg} {exit : Exit} (h : l.exit = some exit)
    (around : List Disruption) :
    verdict (l.interpret around) =
      (verdict (readTexts (l.stampTexts exit)) >>= fun _ => l.checkTimes exit) := by
  rw [Leg.interpret_of_exit h, verdict_map, Leg.stampTexts, verdict_readTexts_append, bind_assoc,
    ← verdict_plannedTimes]
  have htimes : verdict (stopTimesOf l exit) = verdict (plannedTimes l exit) :=
    verdict_bind_pure _ _
  rw [← htimes]
  refine verdict_bind fun times htimes => ?_
  obtain ⟨hstart, hend⟩ := stopTimesOf_isSome htimes
  rw [legOf, Leg.isWalk, Leg.checkTimes]
  by_cases hwalk : l.kind = some "walk"
  · -- a walk has no further texts, and a time at its end will do
    rw [if_pos (decide_eq_true hwalk), if_pos hwalk, if_pos hwalk, verdict_walkOf, hend, hstart]
    generalize (l.departure.isSome || l.arrival.isSome) = start
    cases start <;> cases exit.arrival.isSome <;> rfl
  · -- the end of a ride has the time of its start, if it has none of its own
    rw [if_neg (by simp [hwalk]), if_neg hwalk, if_neg hwalk, verdict_rideOf, l.verdict_stopsOf,
      ← Option.not_isSome, ← Option.not_isSome, hend, hstart]
    generalize (l.departure.isSome || l.arrival.isSome) = start
    cases start <;> cases exit.arrival.isSome <;> rfl

/-- What a leg lacks is told by its kind. -/
theorem Leg.checkTimes_eq_error_iff {l : Leg} {exit : Exit} {e : ConversionError} :
    l.checkTimes exit = .error e ↔ (l.departure = none ∧ l.arrival = none) ∧
      ((l.kind = some "walk" ∧ exit.arrival = none ∧ e = .missing .walkDeparture) ∨
        (l.kind ≠ some "walk" ∧ e = .missing .boardingDeparture)) := by
  rw [Leg.checkTimes]
  cases hdeparture : l.departure <;> cases harrival : l.arrival <;>
    cases hend : exit.arrival <;> by_cases hwalk : l.kind = some "walk" <;>
    simp [hwalk, eq_comm]

/-- **A leg that ends somewhere fails with the error it is refused for**, and no other. -/
theorem Leg.interpret_eq_error_iff {l : Leg} {exit : Exit} (h : l.exit = some exit)
    (around : List Disruption) {e : ConversionError} :
    l.interpret around = .error e ↔ l.Refused exit e := by
  rw [← verdict_eq_error_iff, Leg.verdict_interpret h, bind_eq_error_iff, verdict_eq_error_iff,
    readTexts_eq_error_iff]
  constructor
  · -- the texts come first, and the times are looked at once all texts are stamps
    rintro (⟨before, field, value, after, htexts, hbefore, hvalue, rfl⟩ | ⟨_, htexts, hlack⟩)
    · exact .badTime htexts hbefore hvalue
    · have hall := verdict_readTexts_eq_ok_iff.mp htexts
      obtain ⟨hstart, ⟨hwalk, hend, rfl⟩ | ⟨hride, rfl⟩⟩ := Leg.checkTimes_eq_error_iff.mp hlack
      · exact .untimedWalk hall hwalk hstart hend
      · exact .untimedRide hall hride hstart
  · intro hrefused
    cases hrefused with
    | badTime htexts hbefore hvalue =>
      exact .inl ⟨_, _, _, _, htexts, hbefore, hvalue, rfl⟩
    | untimedWalk htexts hwalk hstart hend =>
      refine .inr ⟨(), verdict_readTexts_eq_ok_iff.mpr htexts, ?_⟩
      exact Leg.checkTimes_eq_error_iff.mpr ⟨hstart, .inl ⟨hwalk, hend, rfl⟩⟩
    | untimedRide htexts hride hstart =>
      refine .inr ⟨(), verdict_readTexts_eq_ok_iff.mpr htexts, ?_⟩
      exact Leg.checkTimes_eq_error_iff.mpr ⟨hstart, .inr ⟨hride, rfl⟩⟩

/-- A leg gives none exactly if it ends nowhere. -/
theorem Leg.interpret_eq_ok_none_iff {l : Leg} {around : List Disruption} :
    l.interpret around = .ok none ↔ l.exit = none := by
  constructor
  · intro h
    cases hexit : l.exit with
    | none => rfl
    | some exit =>
      obtain ⟨_, _, _, _, hsome⟩ := Leg.interpret_ok hexit h
      cases hsome
  · intro h
    exact Leg.interpret_of_terminal (by rw [Leg.hasExit, h]; rfl) around

/-- **A leg is refused, or it is taken, or it ends nowhere.** -/
theorem Leg.exists_interpret_iff {l : Leg} {around : List Disruption} :
    (∃ leg, l.interpret around = .ok (some leg)) ↔
      ∃ exit, l.exit = some exit ∧ ∀ e, ¬ l.Refused exit e := by
  constructor
  · rintro ⟨leg, hleg⟩
    cases hexit : l.exit with
    | none => cases (Leg.interpret_eq_ok_none_iff.mpr hexit).symm.trans hleg
    | some exit =>
      refine ⟨exit, rfl, fun e hrefused => ?_⟩
      cases ((Leg.interpret_eq_error_iff hexit around).mpr hrefused).symm.trans hleg
  · rintro ⟨exit, hexit, hnone⟩
    cases hresult : l.interpret around with
    | error e => exact absurd ((Leg.interpret_eq_error_iff hexit around).mp hresult) (hnone e)
    | ok result =>
      cases result with
      | none => cases hexit.symm.trans (Leg.interpret_eq_ok_none_iff.mp hresult)
      | some leg => exact ⟨leg, rfl⟩

/-- Of the times a leg can lack only two are ever told. -/
theorem Leg.missing_of_interpret {l : Leg} {around : List Disruption} {m : MissingTime}
    (h : l.interpret around = .error (.missing m)) :
    m = .walkDeparture ∨ m = .boardingDeparture := by
  cases hexit : l.exit with
  | none => cases (Leg.interpret_eq_ok_none_iff.mpr hexit).symm.trans h
  | some exit =>
    cases (Leg.interpret_eq_error_iff hexit around).mp h with
    | untimedWalk => exact .inl rfl
    | untimedRide => exact .inr rfl

/-! ### Connections -/

/-- **A connection fails with the error it is refused for**, and no other. -/
theorem Connection.interpret_eq_error_iff (c : Connection) (id : TripId) {e : ConversionError} :
    c.interpret id = .error e ↔ c.Refused id e := by
  rw [c.interpret_eq, bind_eq_error_iff, interpretLegs, bind_eq_error_iff, mapM_eq_error_iff]
  -- a leg is refused before the trip is put together, and the first such leg decides
  constructor
  · rintro ((⟨before, l, after, hlegs, hbefore, hl⟩ | ⟨_, _, h⟩) | ⟨legs, hlegs, hassemble⟩)
    · exact .leg hlegs hbefore hl
    · cases h
    · obtain ⟨results, hresults, hlegs⟩ := bind_eq_ok_iff.mp hlegs
      cases hlegs
      obtain ⟨fault, hfault, rfl⟩ := mapError_eq_error_iff.mp hassemble
      exact .assembly (mapM_eq_ok_iff.mp hresults) hfault
  · intro hrefused
    cases hrefused with
    | leg hlegs hbefore hl => exact .inl (.inl ⟨_, _, _, hlegs, hbefore, hl⟩)
    | assembly hlegs hfault =>
      refine .inr ⟨_, bind_eq_ok_iff.mpr ⟨_, mapM_eq_ok_iff.mpr hlegs, rfl⟩, ?_⟩
      exact mapError_eq_error_iff.mpr ⟨_, hfault, rfl⟩

/-- What a connection lacks is lacking at one of its legs. -/
theorem Connection.missing_of_interpret {c : Connection} {id : TripId} {m : MissingTime}
    (h : c.interpret id = .error (.missing m)) : m = .walkDeparture ∨ m = .boardingDeparture := by
  cases (c.interpret_eq_error_iff id).mp h with
  | leg _ _ hl => exact Leg.missing_of_interpret hl

/-- **Which fault of a connection is told.** It is that of the first leg that is refused, and if
none is, what keeps the legs from making a trip. A leg is passed over exactly if it ends nowhere;
any other is taken unless it is refused, for the first text that is no stamp or else for the time it
cannot do without. That a walk has no arrival or a ride no time where it ends is never told. -/
theorem Connection.interpret_refusal (c : Connection) (id : TripId) :
    (∀ e, c.interpret id = .error e ↔ c.Refused id e) ∧
    (∀ (l : Leg) (around : List Disruption),
      (l.interpret around = .ok none ↔ l.exit = none) ∧
      (∀ e, l.interpret around = .error e ↔ ∃ exit, l.exit = some exit ∧ l.Refused exit e) ∧
      ((∃ leg, l.interpret around = .ok (some leg)) ↔
        ∃ exit, l.exit = some exit ∧ ∀ e, ¬ l.Refused exit e) ∧
      l.interpret around ≠ .error (.missing .walkArrival) ∧
      l.interpret around ≠ .error (.missing .alightingArrival)) ∧
    c.interpret id ≠ .error (.missing .walkArrival) ∧
    c.interpret id ≠ .error (.missing .alightingArrival) := by
  refine ⟨fun e => c.interpret_eq_error_iff id, fun l around => ⟨Leg.interpret_eq_ok_none_iff, ?_,
    Leg.exists_interpret_iff, ?_, ?_⟩, ?_, ?_⟩
  · intro e
    cases hexit : l.exit with
    | none =>
      rw [Leg.interpret_eq_ok_none_iff.mpr hexit]
      exact ⟨fun h => (nomatch h), fun ⟨_, h, _⟩ => (nomatch h)⟩
    | some exit =>
      rw [Leg.interpret_eq_error_iff hexit]
      exact ⟨fun h => ⟨exit, rfl, h⟩, fun ⟨_, rfl, h⟩ => h⟩
  · -- what is told to be missing is one of two times, and neither of these
    exact fun h => absurd (Leg.missing_of_interpret h) (by decide)
  · exact fun h => absurd (Leg.missing_of_interpret h) (by decide)
  · exact fun h => absurd (Connection.missing_of_interpret h) (by decide)
  · exact fun h => absurd (Connection.missing_of_interpret h) (by decide)

-- a ride that only has the time of its end, with a call whose departure is no stamp: of both faults
-- the text is told
example :
    (Leg.reader.parse ("\x7b\"stops\":[\x7b\"departure\":\"late\"\x7d]," ++
      "\"exit\":\x7b\"arrival\":\"2024-03-15 08:58:00\"\x7d\x7d")).map (·.interpret []) =
        some (.error (.badTime .callDeparture "late")) := by
  decide +kernel

end Itinerary.Feed
