import Itinerary.Proofs.Feed.Suggestions
import Itinerary.Proofs.Query
import Itinerary.Proofs.Service.Requests

/-!
# Places that are found

A search for places, by a text or near a coordinate, shows the first usable suggestions of the
reply, at most as many as are wanted and never more than fifty. What a caller is shown can be asked
for: it has a term, so a query is never refused for it, and a query between places that are shown
can be sent.

All searches are the same request with other parameters (`handle_of_wantsPlaces`), so what is read
off a body is said once (`Client.readPlaces_eq_ok_iff`), of a client and of the service. A search
that is answered well is one that wants places (`refused_or_wantsPlaces`).
-/

namespace Itinerary

/-! ### Places that can be asked for -/

/-- Whether places can stand in queries: each of them has a term, no query is refused for the role
that one of them has in it, and a query between any of them can be sent. -/
structure CanBeAskedFor (places : List Location) : Prop where
  term : ∀ place ∈ places, place.term? ≠ none
  role : ∀ place ∈ places, ∀ (q : TripQuery) (role : Role), q.place? role = some place →
    q.parameters ≠ .error ⟨role⟩
  query : ∀ q : TripQuery, (∀ role place, q.place? role = some place → place ∈ places) →
    ∃ ps, q.parameters = .ok ps

/-- All it takes is a term. -/
theorem canBeAskedFor_of_term {places : List Location} (h : ∀ place ∈ places, place.term? ≠ none) :
    CanBeAskedFor places where
  term := h
  role place hplace q role hrole herror := by
    -- the place without a term would be this one
    obtain ⟨other, hother, hterm⟩ := TripQuery.exists_place?_of_parameters herror
    obtain rfl : place = other := Option.some.inj (hrole.symm.trans hother)
    exact h place hplace hterm
  query q hall := by
    cases hps : q.parameters with
    | ok ps => exact ⟨ps, rfl⟩
    | error e =>
      obtain ⟨place, hplace, hterm⟩ := TripQuery.exists_place?_of_parameters hps
      exact absurd hterm (h place (hall e.role place hplace))

/-- **What suggestions give can be asked for.** -/
theorem canBeAskedFor_of_arePlacesOf {limit : Nat} {suggestions : List Feed.Suggestion}
    {places : List Location} (h : Feed.ArePlacesOf limit suggestions places) :
    CanBeAskedFor places :=
  canBeAskedFor_of_term fun _ hplace => h.term?_ne_none hplace

/-! ### Places of a body -/

/-- **The places of a body are those of its first usable suggestions.** -/
theorem Client.readPlaces_eq_ok_iff {limit : Nat} {body : String} {places : List Location} :
    readPlaces limit body = .ok places ↔
      ∃ suggestions, Feed.decodeSuggestions body = .ok suggestions ∧
        Feed.ArePlacesOf limit suggestions places := by
  rw [readPlaces, map_eq_ok_iff]
  refine exists_congr fun suggestions => and_congr_right fun _ => ⟨?_, fun h => ?_⟩
  · rintro rfl
    exact Feed.arePlacesOf_take_filterMap limit suggestions
  · exact (Feed.arePlacesOf_take_filterMap limit suggestions).unique h

namespace Service

/-! ### Searches for places -/

/-- Whether a request is a search for places, by a text that is not blank or near a coordinate in
range, for so many of them if it says how many. -/
inductive Request.WantsPlaces (r : Request) (limit : Option Nat) : Prop where
  | byText {wanted : PlaceRequest} (method : r.method = .get)
    (route : Route.ofPath? r.target.path = some .places)
    (query : PlaceRequest.ofQuery r.target.query = .ok wanted)
    (term : Text.isBlankText wanted.term = false) (limit : wanted.limit = limit)
  | near {wanted : NearbyRequest} (method : r.method = .get)
    (route : Route.ofPath? r.target.path = some .nearby)
    (query : NearbyRequest.ofQuery r.target.query = .ok wanted)
    (range : Point.inRange wanted.lat wanted.lon = true) (limit : wanted.limit = limit)

/-- A search for places asks for suggestions, with parameters of its own. -/
theorem handle_of_wantsPlaces (s : Service) (now : Calendar.DateTime) {r : Request}
    {limit : Option Nat} (h : r.WantsPlaces limit) :
    ∃ ps, s.handle now r = (s.client.request .completion ps
      (Client.readPlaces (limitOf limit))).map (.ofResult placesBody) := by
  cases h with
  | @byText wanted method route query term limit =>
    have hterm : ¬ (Text.trim wanted.term).isEmpty = true := by
      rw [Text.isEmpty_trim, term]
      decide
    rw [s.handle_eq_answer now method route, answer, query, withRequest, answerPlaces,
      if_neg hterm, ← limit]
    exact ⟨_, rfl⟩
  | @near wanted method route query range limit =>
    rw [s.handle_eq_answer now method route, answer, query, withRequest, answerNearby,
      if_pos range, ← limit]
    exact ⟨_, rfl⟩

/-- What is asked for on a route for places is refused unless it wants places. -/
theorem refused_or_wantsPlaces {r : Request} {route : Route} (hmethod : r.method = .get)
    (hroute : Route.ofPath? r.target.path = some route)
    (hplaces : route = .places ∨ route = .nearby) :
    Refused r.target.query route .badRequest ∨ ∃ limit, r.WantsPlaces limit := by
  rcases hplaces with rfl | rfl
  · cases hquery : PlaceRequest.ofQuery r.target.query with
    | error fault => exact .inl (.placeParameters hquery)
    | ok wanted =>
      cases hterm : Text.isBlankText wanted.term with
      | true => exact .inl (.blankTerm hquery hterm)
      | false => exact .inr ⟨_, .byText hmethod hroute hquery hterm rfl⟩
  · cases hquery : NearbyRequest.ofQuery r.target.query with
    | error fault => exact .inl (.nearbyParameters hquery)
    | ok wanted =>
      cases hrange : Point.inRange wanted.lat wanted.lon with
      | false => exact .inl (.outOfRange hquery hrange)
      | true => exact .inr ⟨_, .near hmethod hroute hquery hrange rfl⟩

/-- A search for places that is answered well shows places of a body. -/
theorem exists_places_of_answer {s : Service} {now : Calendar.DateTime} {r : Request}
    {limit : Option Nat} (h : r.WantsPlaces limit) {σ : Type} {p : Provider σ} {state : σ}
    {response : Response} (hanswer : ((s.handle now r).run p state).answer = some response)
    (hok : response.status = .ok) :
    ∃ suggestions places, Feed.ArePlacesOf (limitOf limit) suggestions places ∧
      response = .json .ok (placesBody places) := by
  obtain ⟨ps, hhandle⟩ := s.handle_of_wantsPlaces now h
  rw [hhandle, Call.run_map, Option.map_eq_some_iff] at hanswer
  obtain ⟨result, hresult, rfl⟩ := hanswer
  cases result with
  | ok places =>
    obtain ⟨body, hbody⟩ := Client.exists_read_of_answer_request hresult
    obtain ⟨suggestions, -, hplaces⟩ := Client.readPlaces_eq_ok_iff.mp hbody
    exact ⟨suggestions, places, hplaces, rfl⟩
  | error e => cases e <;> cases hok

/-- **What a search for places shows.** Of a body that holds suggestions a client gives the first
usable ones, as many as are wanted if there are so many, and every one of them can be asked for. A
search of a caller shows the same, for ten places unless it says how many, and for fifty at most;
and nothing else is ever shown on the routes for places, where a caller who reads the body of the
answer finds a list of no more than that. -/
theorem places_found (s : Service) {base : Url}
    (hbase : Url.parse (s.client.baseUrl ++ "/" ++ Client.Endpoint.completion.segment) = .ok base)
    {body : String} {suggestions : List Feed.Suggestion}
    (hbody : Feed.decodeSuggestions body = .ok suggestions) :
    (∀ limit, ∃ places, Feed.ArePlacesOf limit suggestions places ∧
      places.length = min limit (suggestions.filter (·.IsUsable)).length ∧
      CanBeAskedFor places ∧
      (∀ term, (s.client.suggestPlaces term limit).AnswersTo (.ok body) (.ok places)) ∧
      ∀ p accuracy, (s.client.nearbyPlaces p accuracy limit).AnswersTo (.ok body) (.ok places)) ∧
    (∀ now (r : Request) limit, r.WantsPlaces limit →
      ∃ places, Feed.ArePlacesOf (min (limit.getD 10) 50) suggestions places ∧
        (s.handle now r).AnswersTo (.ok body) (.json .ok (placesBody places)) ∧
        (Response.json .ok (placesBody places)).shownPlaces? =
          some (places.map fun place => (PlaceEntry.of place).toJson)) ∧
    ∀ now (r : Request) route, r.method = .get → Route.ofPath? r.target.path = some route →
      route = .places ∨ route = .nearby →
      ∀ (σ : Type) (p : Provider σ) (state : σ) (response : Response),
        ((s.handle now r).run p state).answer = some response → response.status = .ok →
        ∃ limit places shown, r.WantsPlaces limit ∧ response = .json .ok (placesBody places) ∧
          places.length ≤ min (limit.getD 10) 50 ∧ CanBeAskedFor places ∧
          response.shownPlaces? = some shown ∧ shown.length ≤ min (limit.getD 10) 50 := by
  -- of these suggestions the first usable ones are read, whatever the limit
  have hread : ∀ limit, ∃ places, Feed.ArePlacesOf limit suggestions places ∧
      Client.readPlaces limit body = .ok places := fun limit =>
    have hplaces := Feed.arePlacesOf_take_filterMap limit suggestions
    ⟨_, hplaces, Client.readPlaces_eq_ok_iff.mpr ⟨suggestions, hbody, hplaces⟩⟩
  refine ⟨?client, ?service, ?shown⟩
  case client =>
    intro limit
    obtain ⟨places, hplaces, hlimit⟩ := hread limit
    -- by a text or near a coordinate, the same body is read in the same way
    refine ⟨places, hplaces, hplaces.length_eq, canBeAskedFor_of_arePlacesOf hplaces,
      fun term => ?_, fun p accuracy => ?_⟩
    · exact Client.request_answersTo hbase _ hlimit
    · exact Client.request_answersTo hbase _ hlimit
  case service =>
    intro now r limit h
    -- a caller's limit is the client's, cut to fifty
    obtain ⟨ps, hhandle⟩ := s.handle_of_wantsPlaces now h
    obtain ⟨places, hplaces, hlimit⟩ := hread (limitOf limit)
    refine ⟨places, hplaces, ?_, shownPlaces?_placesBody .ok places⟩
    rw [hhandle]
    exact (Client.request_answersTo hbase ps hlimit).map (Response.ofResult placesBody)
  case shown =>
    intro now r route hmethod hroute hplaces σ p state response hanswer hok
    rcases refused_or_wantsPlaces hmethod hroute hplaces with hrefused | ⟨limit, hwants⟩
    · -- a refusal is no success
      obtain ⟨refusal, hcall, hstatus⟩ := s.answer_of_refused now hrefused
      rw [s.handle_eq_answer now hmethod hroute, hcall, Call.run_answer] at hanswer
      obtain rfl := Option.some.inj hanswer
      rw [hstatus] at hok
      cases hok
    · -- a success has been read off some body, and cut in the same way
      obtain ⟨suggestions, places, hplaces, rfl⟩ := exists_places_of_answer hwants hanswer hok
      have hlength : places.length ≤ min (limit.getD 10) 50 := by
        rw [hplaces.length_eq]
        exact Nat.min_le_left _ _
      refine ⟨limit, places, _, hwants, rfl, hlength, canBeAskedFor_of_arePlacesOf hplaces,
        shownPlaces?_placesBody .ok places, ?_⟩
      rw [List.length_map]
      exact hlength

/-- Suggestions of which two can be asked for, behind three that cannot, the last by its id. -/
def mixedSuggestions : String :=
  "[\x7b\x7d,\x7b\"id\":\"\",\"label\":\" \\t\"\x7d,\x7b\"lat\":46.9,\"lon\":7.4\x7d," ++
    "\x7b\"label\":\"Bern, Bundesplatz\",\"iconclass\":\"sl-icon-type-adr\"\x7d," ++
    "\x7b\"id\":8507000,\"label\":\"\"\x7d]"

/-- Those suggestions as they are read. -/
def readMixed : List Feed.Suggestion :=
  [⟨none, none, none, none, none, none⟩, ⟨some "", some " \t", none, none, none, none⟩,
    ⟨none, none, some 46.9, some 7.4, none, none⟩,
    ⟨none, some "Bern, Bundesplatz", none, none, some "sl-icon-type-adr", none⟩,
    ⟨some "8507000", some "", none, none, none, none⟩]

/-- A search for one place. -/
def searchForOne : Request := ⟨.get, "/api/locations", "limit=1&q=+Bern"⟩

theorem places_found_mixedSuggestions :
    (∃ places, places.length = 2 ∧ CanBeAskedFor places ∧
      (inFrontOfPublic.client.suggestPlaces "Bern" 4).AnswersTo (.ok mixedSuggestions)
        (.ok places)) ∧
    ∃ places shown, shown.length = 1 ∧
      (inFrontOfPublic.handle midnight searchForOne).AnswersTo (.ok mixedSuggestions)
        (.json .ok (placesBody places)) ∧
      (Response.json .ok (placesBody places)).shownPlaces? = some shown := by
  have hbase : Url.parse (inFrontOfPublic.client.baseUrl ++ "/" ++
      Client.Endpoint.completion.segment) = .ok
        ⟨"https", some ⟨"", "", some (.domain "timetable.search.ch"), none⟩,
          .rooted ["api", "completion.json"], none, none⟩ := by
    decide +kernel
  have hbody : Feed.decodeSuggestions mixedSuggestions = .ok readMixed := by decide +kernel
  -- of the suggestions two can be used, and the caller wants one
  have husable : (readMixed.filter (·.IsUsable)).length = 2 := by decide +kernel
  obtain ⟨hclient, hservice, -⟩ := inFrontOfPublic.places_found hbase hbody
  refine ⟨?_, ?_⟩
  · obtain ⟨places, -, hlength, hasked, hsuggested, -⟩ := hclient 4
    rw [husable] at hlength
    exact ⟨places, hlength, hasked, hsuggested "Bern"⟩
  · have hquery : PlaceRequest.ofQuery searchForOne.target.query = .ok ⟨" Bern", some 1⟩ := by
      decide +kernel
    obtain ⟨places, hplaces, hanswer, hshown⟩ := hservice midnight searchForOne (some 1)
      (.byText rfl (by decide) hquery (by decide) rfl)
    refine ⟨places, _, ?_, hanswer, hshown⟩
    rw [List.length_map, hplaces.length_eq, husable]
    rfl

end Service

end Itinerary
