import Itinerary.Page
import Itinerary.Proofs.Query
import Itinerary.Proofs.Trip

/-!
# Steps between pages

The later page starts one minute after the bound of the page on its later side, and the earlier
page ends one minute before the bound on the other. With the bound of a side, its minute and its
time type given names, the two steps are one, and the query of a neighbour is that of the page
moved to another time.
-/

namespace Itinerary

open Calendar

namespace PageContext

/-- The bound of a page on one of its sides. -/
def bound (c : PageContext) (later : Bool) : Option DateTime :=
  if later then c.latestDeparture else c.earliestArrival

/-- How many minutes behind the bound of a side its neighbour starts or ends. -/
def minutesBeyond (later : Bool) : Int := if later then 1 else -1

/-- What the time of the neighbour on a side bounds. -/
def timeTypeBeyond (later : Bool) : TimeType := if later then .depart else .arrival

theorem nextQuery_eq (c : PageContext) (later : Bool) :
    c.nextQuery later =
      c.stepFrom (c.bound later) (minutesBeyond later) (timeTypeBeyond later) := by
  cases later <;> rfl

/-- The bound of some trips on a side: the planned departure of the first ride of the last of them,
or the planned arrival of the last ride of the first. -/
def boundOf (trips : List Trip) (later : Bool) : Option DateTime :=
  if later then trips.getLast?.bind fun last => last.firstRide?.map (·.departureTime.planned)
  else trips.head?.bind fun first => first.lastRide?.map (·.arrivalTime.planned)

/-- The context of a page has its query and, on either side, the bound of its trips. -/
theorem ofTrips_eq_some {trips : List Trip} {q : TripQuery} {c : PageContext}
    (h : ofTrips trips q = some c) :
    c.query = q ∧ ∀ later, ∃ t, c.bound later = some t ∧ boundOf trips later = some t := by
  rw [ofTrips] at h
  split at h
  · rename_i first last hfirst hlast
    cases h
    refine ⟨rfl, fun later => ?_⟩
    -- every trip has a ride, so neither bound is missing
    cases later with
    | true =>
      obtain ⟨ride, hride⟩ := last.exists_firstRide?
      refine ⟨ride.departureTime.planned, ?_, ?_⟩
      · rw [bound, if_pos rfl, hride, Option.map_some]
      · rw [boundOf, if_pos rfl, hlast, Option.bind_some, hride, Option.map_some]
    | false =>
      obtain ⟨ride, hride⟩ := first.exists_lastRide?
      refine ⟨ride.arrivalTime.planned, ?_, ?_⟩
      · rw [bound, if_neg Bool.false_ne_true, hride, Option.map_some]
      · rw [boundOf, if_neg Bool.false_ne_true, hfirst, Option.bind_some, hride, Option.map_some]
  · cases h

theorem exists_ofTrips {trips : List Trip} (h : trips ≠ []) (q : TripQuery) :
    ∃ c, ofTrips trips q = some c := by
  rw [ofTrips, List.head?_eq_some_head h, List.getLast?_eq_some_getLast h]
  exact ⟨_, rfl⟩

theorem nextQuery_of_bound_none {c : PageContext} {later : Bool} (h : c.bound later = none) :
    c.nextQuery later = .error .noBound := by
  rw [nextQuery_eq, h]
  rfl

theorem nextQuery_of_bound_some {c : PageContext} {later : Bool} {t moment : DateTime}
    (h : c.bound later = some t) (hmoment : t.addMinutes? (minutesBeyond later) = some moment) :
    c.nextQuery later = .ok (c.query.reanchored moment (timeTypeBeyond later)) := by
  rw [nextQuery_eq, h]
  simp only [stepFrom, hmoment]

/-- **What a step comes to.** A query is the one of the page, moved to the minute beyond the bound
of that side. -/
theorem nextQuery_eq_ok_iff {c : PageContext} {later : Bool} {q : TripQuery} :
    c.nextQuery later = .ok q ↔
      ∃ t moment, c.bound later = some t ∧ t.addMinutes? (minutesBeyond later) = some moment ∧
        q = c.query.reanchored moment (timeTypeBeyond later) := by
  constructor
  · intro h
    rw [nextQuery_eq] at h
    unfold stepFrom at h
    -- without a bound, or where the calendar ends, there is no query
    split at h
    · cases h
    · rename_i t hbound
      split at h
      · rename_i moment hmoment
        exact ⟨t, moment, hbound, hmoment, (Except.ok.inj h).symm⟩
      · cases h
  · rintro ⟨t, moment, hbound, hmoment, rfl⟩
    exact nextQuery_of_bound_some hbound hmoment

/-- A step has nothing to start from exactly if the page has no bound on that side. -/
theorem nextQuery_eq_noBound_iff {c : PageContext} {later : Bool} :
    c.nextQuery later = .error .noBound ↔ c.bound later = none := by
  rw [nextQuery_eq]
  unfold stepFrom
  split
  · rename_i hbound
    simp [hbound]
  · rename_i t hbound
    split <;> simp [hbound]

/-- A step leads off the calendar if the minute beyond the bound does not exist. -/
theorem nextQuery_eq_offCalendar_iff {c : PageContext} {later : Bool} :
    c.nextQuery later = .error .offCalendar ↔
      ∃ t, c.bound later = some t ∧ t.addMinutes? (minutesBeyond later) = none := by
  rw [nextQuery_eq]
  unfold stepFrom
  split
  · rename_i hbound
    simp [hbound]
  · rename_i t hbound
    split
    · rename_i moment hmoment
      simp [hbound, hmoment]
    · rename_i hmoment
      simp [hbound, hmoment]

/-- The query of a neighbour is that of the page at another time. -/
theorem exists_eq_reanchored {c : PageContext} {later : Bool} {q : TripQuery}
    (h : c.nextQuery later = .ok q) :
    ∃ moment timeType, q = c.query.reanchored moment timeType := by
  obtain ⟨-, moment, -, -, rfl⟩ := nextQuery_eq_ok_iff.mp h
  exact ⟨moment, timeTypeBeyond later, rfl⟩

theorem isUnresolvable_of_nextQuery {c : PageContext} {later : Bool} {q : TripQuery}
    (hnext : c.nextQuery later = .ok q) (h : c.query.IsUnresolvable) : q.IsUnresolvable := by
  obtain ⟨moment, timeType, rfl⟩ := exists_eq_reanchored hnext
  exact h

end PageContext

end Itinerary
