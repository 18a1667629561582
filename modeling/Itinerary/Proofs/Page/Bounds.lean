import Itinerary.Proofs.Page

/-!
# The bounds of a page are times of rides

Every trip has a ride, so it has a time at which its first ride leaves and a time at which its last
ride arrives (`Trip.boarding`, `Trip.alighting`). The context of a page has one of each: where the
page ends it looks at the last trip, and where it begins at the first (`ofTrips_eq_some_iff`). So a
page that has a context can be left to either side.
-/

namespace Itinerary

open Calendar

namespace Trip

/-- The planned time at which the first ride leaves. -/
def boarding (t : Trip) : DateTime := (t.rides.head t.rides_ne_nil).departureTime.planned

/-- The planned time at which the last ride arrives. -/
def alighting (t : Trip) : DateTime := (t.rides.getLast t.rides_ne_nil).arrivalTime.planned

theorem map_firstRide? (t : Trip) :
    t.firstRide?.map (·.departureTime.planned) = some t.boarding := by
  rw [firstRide?, List.head?_eq_some_head t.rides_ne_nil]
  rfl

theorem map_lastRide? (t : Trip) :
    t.lastRide?.map (·.arrivalTime.planned) = some t.alighting := by
  rw [lastRide?, List.getLast?_eq_some_getLast t.rides_ne_nil]
  rfl

end Trip

namespace PageContext

/-- **The context of a page** has its query, the time at which the last trip leaves and the time at
which the first one arrives. Only a page without trips has none. -/
theorem ofTrips_eq_some_iff {trips : List Trip} {q : TripQuery} {c : PageContext} :
    ofTrips trips q = some c ↔
      ∃ first last, trips.head? = some first ∧ trips.getLast? = some last ∧
        c = ⟨q, some last.boarding, some first.alighting⟩ := by
  rw [ofTrips]
  constructor
  · intro h
    split at h
    · rename_i first last hfirst hlast
      cases h
      exact ⟨first, last, hfirst, hlast, by rw [last.map_firstRide?, first.map_lastRide?]⟩
    · cases h
  · rintro ⟨first, last, hfirst, hlast, rfl⟩
    rw [hfirst, hlast]
    simp only [last.map_firstRide?, first.map_lastRide?]

/-- A page without trips is the only one that has no context. -/
theorem ofTrips_eq_none_iff {trips : List Trip} {q : TripQuery} :
    ofTrips trips q = none ↔ trips = [] := by
  constructor
  · intro h
    by_contra hne
    obtain ⟨c, hc⟩ := exists_ofTrips hne q
    rw [h] at hc
    cases hc
  · rintro rfl
    rfl

end PageContext

end Itinerary
