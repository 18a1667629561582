import Itinerary.Proofs.Feed.Refusal
import Itinerary.Proofs.Feed.Times
import Itinerary.Proofs.Trip

/-!
# Where the times of a trip come from

A trip shows many times: at the ends of its walks, and at every stop of its rides. All of them are
made of texts of the connection, so what holds of every moment that these texts name holds of every
planned time of the trip, and nothing else has to be known of the way from one to the other.

`Leg.forall_mem_times_of_interpret` says so of the legs of a connection that end somewhere. The
texts are those that have to be stamps (`Leg.stampTexts`); a leg that ends nowhere has none, and
nobody reads the calls of a walk. With it comes that a ride has the times of its ends at its first
and its last stop, which not every ride has (`Leg.ShowsEnds`).
-/

namespace Itinerary

open Calendar

/-! ### The times of a leg -/

/-- The times of a stop. -/
def Stop.times (s : Stop) : List StopTime := s.arrival.toList ++ s.departure.toList

namespace Leg

/-- The times at the ends of a leg and at its stops. -/
def times : Leg → List StopTime
  | walk w => [w.departureTime, w.arrivalTime]
  | ride r => r.departure.times ++ (r.arrival.times ++ r.stops.flatMap Stop.times)

/-- Whether the times of a leg are those of its ends. A walk has no others. -/
def ShowsEnds : Leg → Prop
  | walk _ => True
  | ride r => r.departure.departure = some r.departureTime ∧
      r.arrival.arrival = some r.arrivalTime

theorem departureTime_mem_times {l : Leg} (h : l.ShowsEnds) : l.departureTime ∈ l.times := by
  cases l with
  | walk w => exact List.mem_cons_self
  | ride r =>
    have hmem : r.departureTime ∈ r.departure.times := by
      rw [Stop.times, h.1]
      exact List.mem_append_right _ List.mem_cons_self
    exact List.mem_append_left _ hmem

theorem arrivalTime_mem_times {l : Leg} (h : l.ShowsEnds) : l.arrivalTime ∈ l.times := by
  cases l with
  | walk w => exact List.mem_cons_of_mem _ List.mem_cons_self
  | ride r =>
    have hmem : r.arrivalTime ∈ r.arrival.times := by
      rw [Stop.times, h.2]
      exact List.mem_append_left _ List.mem_cons_self
    exact List.mem_append_right _ (List.mem_append_left _ hmem)

end Leg

namespace Feed

/-! ### Texts of a leg -/

/-- Whether a time is that of one of some texts, with some delay laid over it. -/
def IsReadFrom (texts : List (TimeField × String)) (t : StopTime) : Prop :=
  ∃ text ∈ texts, ∃ planned delay, readStamp text.2 = .ok planned ∧ t = .withDelay planned delay

section

variable {texts others : List (TimeField × String)} {value value' : Option String}
  {delay : Option DelayMark} {t : StopTime}

theorem IsReadFrom.mono (h : IsReadFrom texts t) (hsub : texts ⊆ others) : IsReadFrom others t := by
  obtain ⟨text, htext, hread⟩ := h
  exact ⟨text, hsub htext, hread⟩

theorem IsTimeOf.isReadFrom (field : TimeField) (h : IsTimeOf value delay t) :
    IsReadFrom (textOf field value) t := by
  obtain ⟨s, planned, rfl, hread, rfl⟩ := h
  exact ⟨(field, s), List.mem_singleton_self _, planned, delayOf delay, hread, rfl⟩

theorem IsTimeOf.of_or (h : IsTimeOf (value.or value') delay t) :
    IsTimeOf value delay t ∨ IsTimeOf value' delay t := by
  cases value with
  | none => exact .inr h
  | some s => exact .inl h

end

section

variable {l : Leg} {exit : Exit} {delay : Option DelayMark} {t : StopTime}

theorem isReadFrom_of_boarding (h : IsTimeOf (l.departure.or l.arrival) delay t) :
    IsReadFrom (l.endTexts exit) t := by
  rcases h.of_or with h | h
  · exact (h.isReadFrom .legDeparture).mono (List.subset_append_left _ _)
  · refine (h.isReadFrom .legArrival).mono ?_
    exact List.Subset.trans (List.subset_append_left _ _) (List.subset_append_right _ _)

theorem isReadFrom_of_alighting
    (h : IsTimeOf (exit.arrival.or (l.departure.or l.arrival)) delay t) :
    IsReadFrom (l.endTexts exit) t := by
  rcases h.of_or with h | h
  · refine (h.isReadFrom .exitArrival).mono ?_
    exact List.Subset.trans (List.subset_append_right _ _) (List.subset_append_right _ _)
  · exact isReadFrom_of_boarding h

end

/-- The times at the ends of a leg are those of its texts. -/
theorem isReadFrom_of_stopTimesOf {l : Leg} {exit : Exit}
    {times : Option StopTime × Option StopTime} (h : stopTimesOf l exit = .ok times) {t : StopTime}
    (ht : times.1 = some t ∨ times.2 = some t) : IsReadFrom (l.endTexts exit) t := by
  obtain ⟨planned, hplanned, h⟩ := bind_eq_ok_iff.mp h
  cases h
  obtain ⟨hboarding, halighting⟩ := plannedTimes_ok hplanned
  rcases ht with ht | ht
  · exact isReadFrom_of_boarding (hboarding.isTimeOf ht)
  · exact isReadFrom_of_alighting (halighting.isTimeOf ht)

/-- The times of a stop on the way are those of the texts of its call. -/
theorem Call.isReadFrom_of_isStop {c : Call} {s : Stop} (h : c.IsStop s) {t : StopTime}
    (ht : t ∈ s.times) : IsReadFrom c.stampTexts t := by
  obtain ⟨arrival, departure, htimes, rfl⟩ := h
  have hends : t = arrival ∨ t = departure := by
    simpa [Stop.times] using ht
  have harrival : ∀ {t}, IsTimeOf c.arrival c.arrivalDelay t → IsReadFrom c.stampTexts t :=
    fun h => (h.isReadFrom .callArrival).mono (List.subset_append_left _ _)
  have hdeparture : ∀ {t}, IsTimeOf c.departure c.departureDelay t → IsReadFrom c.stampTexts t :=
    fun h => (h.isReadFrom .callDeparture).mono (List.subset_append_right _ _)
  -- a side without a text is as the other one
  cases htimes with
  | both ha hd =>
    rcases hends with rfl | rfl
    · exact harrival ha
    · exact hdeparture hd
  | arrival ha =>
    obtain rfl : t = arrival := hends.elim id id
    exact harrival ha
  | departure _ hd =>
    obtain rfl : t = arrival := hends.elim id id
    exact hdeparture hd

theorem isReadFrom_of_stopsOf {l : Leg} {stops : List Stop} (h : l.stopsOf = .ok stops)
    {s : Stop} (hs : s ∈ stops) {t : StopTime} (ht : t ∈ s.times) :
    IsReadFrom l.callTexts t := by
  obtain ⟨c, hc, hstop⟩ := exists_mem_of_forall₂ (Leg.stopsOf_ok h).flip hs
  refine (Call.isReadFrom_of_isStop hstop ht).mono fun text htext => ?_
  exact List.mem_flatMap.mpr ⟨c, (List.mem_filter.mp hc).1, htext⟩

/-! ### Legs of a connection -/

/-- **Every time of a leg is that of one of its texts**, and those of its ends are shown. -/
theorem Leg.forall_mem_times_of_interpret {l : Leg} {exit : Exit} (hexit : l.exit = some exit)
    {around : List Disruption} {leg : Itinerary.Leg} (h : l.interpret around = .ok (some leg)) :
    leg.ShowsEnds ∧ ∀ t ∈ leg.times, IsReadFrom (l.stampTexts exit) t := by
  obtain ⟨times, leg', htimes, hleg, hresult⟩ := Leg.interpret_ok hexit h
  cases hresult
  have hends : ∀ t, times.1 = some t ∨ times.2 = some t → IsReadFrom (l.stampTexts exit) t := by
    intro t ht
    exact (isReadFrom_of_stopTimesOf htimes ht).mono (List.subset_append_left _ _)
  unfold legOf Leg.isWalk at hleg
  split at hleg
  · obtain ⟨departureTime, arrivalTime, hdeparture, harrival, rfl⟩ := walkOf_ok hleg
    refine ⟨trivial, fun t ht => hends t ?_⟩
    -- a time that a walk has at one end only stands at both
    rcases List.mem_pair.mp ht with rfl | rfl
    · exact (Option.or_eq_some_iff.mp hdeparture).imp_right And.right
    · exact ((Option.or_eq_some_iff.mp harrival).imp_right And.right).symm
  · next hride =>
    obtain ⟨stops, departureTime, arrivalTime, hstops, hdeparture, harrival, rfl⟩ := rideOf_ok hleg
    -- a time of a ride is one of its two ends or of a stop on the way
    refine ⟨⟨hdeparture, harrival⟩, fun t ht => ?_⟩
    rcases List.mem_append.mp ht with ht | ht
    · refine hends t (.inl ?_)
      simpa [Stop.times, Stop.withTrack, Stop.bare] using ht
    rcases List.mem_append.mp ht with ht | ht
    · refine hends t (.inr ?_)
      simpa [Stop.times, Stop.withTrack, Stop.bare] using ht
    · obtain ⟨s, hs, ht⟩ := List.mem_flatMap.mp ht
      refine (isReadFrom_of_stopsOf hstops hs ht).mono ?_
      rw [Leg.stampTexts, if_neg (by simpa using hride)]
      exact List.subset_append_right _ _

/-- The texts that have to be stamps for a connection: those of its legs that end somewhere. -/
def Connection.stampTexts (c : Connection) : List (TimeField × String) :=
  c.legs.flatMap fun l => l.exit.toList.flatMap l.stampTexts

/-- **Every time of a trip is that of a text of its connection**, and the legs show the times of
their ends. -/
theorem Connection.forall_mem_times_of_interpret {c : Connection} {id : TripId} {t : Trip}
    (h : c.interpret id = .ok t) :
    ∀ leg ∈ t.legs, leg.ShowsEnds ∧ ∀ time ∈ leg.times, IsReadFrom c.stampTexts time := by
  obtain ⟨legs, hlegs, hassemble⟩ := Connection.interpret_ok h
  obtain ⟨-, rfl, -⟩ := Trip.assemble_ok hassemble
  intro leg hleg
  obtain ⟨l, hl, hinterpret⟩ := exists_mem_of_forall₂ (interpretLegs_ok hlegs).flip hleg
  obtain ⟨hmem, hproper⟩ := List.mem_filter.mp hl
  obtain ⟨exit, hexit⟩ := Option.isSome_iff_exists.mp hproper
  obtain ⟨hends, htimes⟩ := Leg.forall_mem_times_of_interpret hexit hinterpret
  refine ⟨hends, fun time htime => (htimes time htime).mono fun text htext => ?_⟩
  refine List.mem_flatMap.mpr ⟨l, hmem, ?_⟩
  rw [hexit]
  exact List.mem_flatMap.mpr ⟨exit, List.mem_singleton_self exit, htext⟩

end Feed

end Itinerary
