import Itinerary.Proofs.Client
import Itinerary.Proofs.Place
import Itinerary.Proofs.Service.Response
import Itinerary.Service

/-!
# What a request costs

Every answer of the service is either given without the provider or read off one reply of it. The
statuses of the two do not meet: what is refused is a bad request, not found or not allowed, and
what is read off a reply is a success or a failure of the provider. So a caller can tell from the
status of an answer what it cost, and a failure of the service itself is never answered.

There are two ways for this to go wrong. An error is mapped to a status by its kind alone, so a
provider that replied with an error of the client's own kinds would be answered as if it had not
been asked. `handle_requests` says of every provider what happens then, and `Provider.RefusesNothing`
that it does not. And the token of a page is written when the provider has been asked, and writing
may fail; but never for a page (`Response.ofTrips_eq`).

`answer_tells` holds this route by route, from what a client says of its results and from what an
error of a client is for a caller. `Refused` lists why a request is refused, at whatever depth that
is found out, and `answer_of_refused` shows that nothing has been asked then.
-/

namespace Itinerary

open Calendar

namespace Service

/-! ### Statuses -/

/-- Whether a status is that of a refusal. -/
def Status.IsRefusal (status : Status) : Prop :=
  status = .badRequest ∨ status = .notFound ∨ status = .methodNotAllowed

/-- Whether a status is that of a report on what the provider said. -/
def Status.IsReport (status : Status) : Prop := status = .ok ∨ status = .badGateway

theorem Status.IsRefusal.not_isReport {status : Status} (h : status.IsRefusal) :
    ¬ status.IsReport := by
  rcases h with rfl | rfl | rfl <;> rintro (h | h) <;> cases h

theorem Status.ne_internal {status : Status} (h : status.IsRefusal ∨ status.IsReport) :
    status ≠ .internal := by
  rintro rfl
  rcases h with (h | h | h) | (h | h) <;> cases h

/-- Whether a response is one to a reply: a report on it, or, if the reply refuses what was asked, a
refusal. -/
def AnswersReply (reply : Reply) (response : Response) : Prop :=
  response.status.IsReport ∨ reply.Refuses ∧ response.status.IsRefusal

/-- Whether a call asks at most once, refuses without asking, and answers the reply if it asks. -/
abbrev Tells (call : Call Response) : Prop :=
  call.Says (·.status.IsRefusal) AnswersReply

theorem tells_badRequest (message : String) :
    Tells (.answer (ServiceError.badRequest message).response) := .answer (.inl rfl)

/-- A refusal is one for the caller as well. -/
theorem ServiceError.isRefusal_ofClient {e : ClientError} (h : e.IsRefusal) :
    (ofClient e).response.status.IsRefusal := by
  cases e with
  | query e => exact .inl rfl
  | address fault => exact .inl rfl
  | noMoreResults => exact .inr (.inl rfl)
  | provider fault => exact h.elim
  | decode e => exact h.elim

/-- A failure is reported. -/
theorem ServiceError.isReport_ofClient {e : ClientError} (h : ¬ e.IsRefusal) :
    (ofClient e).response.status.IsReport := by
  cases e with
  | query e => exact absurd trivial h
  | address fault => exact absurd trivial h
  | noMoreResults => exact absurd trivial h
  | provider fault => exact .inr rfl
  | decode e => exact .inr rfl

/-- What a client has without the provider is answered as a refusal. -/
theorem Response.isRefusal_ofResult {α : Type} {write : α → Json.Value} {result : Client.Result α}
    (h : Client.IsUnasked result) : (Response.ofResult write result).status.IsRefusal := by
  obtain ⟨e, rfl, he⟩ := h
  exact ServiceError.isRefusal_ofClient he

/-- What a client has of a reply is answered as that. -/
theorem Response.answersReply_ofResult {α : Type} {write : α → Json.Value} {reply : Reply}
    {result : Client.Result α} (h : Client.IsTold reply result) :
    AnswersReply reply (Response.ofResult write result) := by
  cases h with
  | read => exact .inl (.inl rfl)
  | unreadable => exact .inl (.inr rfl)
  | @failed e =>
    by_cases he : e.IsRefusal
    · exact .inr ⟨⟨e, rfl, he⟩, ServiceError.isRefusal_ofClient he⟩
    · exact .inl (ServiceError.isReport_ofClient he)

/-- What is done for a result of a client. -/
theorem tells_ofResult {α : Type} {call : Call (Client.Result α)}
    (h : call.Says Client.IsUnasked Client.IsTold) (write : α → Json.Value) :
    Tells (call.map (.ofResult write)) :=
  h.map (fun _ => Response.isRefusal_ofResult) fun _ _ => Response.answersReply_ofResult

/-- What is done for the result of a query, whose token can always be written. -/
theorem tells_ofTrips {call : Call (Client.Result Client.TripsResult)}
    (h : call.Says Client.IsUnasked Client.IsTold) : Tells (call.map .ofTrips) := by
  rw [Response.ofTrips_eq]
  exact tells_ofResult h resultBody

/-! ### Routes -/

theorem tells_withRequest {α : Type} (r : Except ParameterFault α) {next : α → Call Response}
    (h : ∀ a, Tells (next a)) : Tells (withRequest r next) := by
  cases r with
  | ok a => exact h a
  | error fault => exact .answer (.inl rfl)

theorem answerPlaces_tells (s : Service) (r : PlaceRequest) : Tells (s.answerPlaces r) := by
  rw [answerPlaces]
  split
  · exact tells_badRequest _
  · exact tells_ofResult (s.client.request_says _ _ _) _

theorem answerNearby_tells (s : Service) (r : NearbyRequest) : Tells (s.answerNearby r) := by
  rw [answerNearby]
  split
  · exact tells_ofResult (s.client.request_says _ _ _) _
  · exact tells_badRequest _

/-- Only a date that is given can be wrong, and it is refused as a bad request. -/
theorem dateOf_eq_error {today : Date} {date : Option String} {e : ServiceError}
    (h : dateOf today date = .error e) : e.status = .badRequest := by
  cases date with
  | none => cases h
  | some d =>
    simp only [dateOf] at h
    split at h
    · cases h
    · cases h
      rfl

/-- Only a time that is given can be wrong, and it is refused as a bad request. -/
theorem clockOf_eq_error {now : Clock} {time : Option String} {e : ServiceError}
    (h : clockOf now time = .error e) : e.status = .badRequest := by
  cases time with
  | none => cases h
  | some t =>
    simp only [clockOf] at h
    split at h
    · cases h
    · cases h
      rfl

/-- The moment of a search for trips is only refused as a bad request. -/
theorem momentOf_eq_error {now : DateTime} {date time : Option String} {e : ServiceError}
    (h : momentOf now date time = .error e) : e.status = .badRequest := by
  rw [momentOf] at h
  -- the date is looked at before the time
  cases hdate : dateOf now.date date with
  | error e' =>
    rw [hdate] at h
    cases h
    exact dateOf_eq_error hdate
  | ok day =>
    cases htime : clockOf now.clock time with
    | error e' =>
      rw [hdate, htime] at h
      cases h
      exact clockOf_eq_error htime
    | ok clock =>
      rw [hdate, htime] at h
      cases h

/-- A search for trips tells what it costs. -/
theorem answerTrips_tells (s : Service) (now : DateTime) (r : TripRequest) :
    Tells (s.answerTrips now r) := by
  rw [answerTrips]
  cases h : momentOf now r.date r.time with
  | error e => exact .answer (.inl (momentOf_eq_error h))
  | ok moment => exact tells_ofTrips (s.client.queryTrips_says _ _)

theorem answerMore_tells (s : Service) (r : MoreRequest) : Tells (s.answerMore r) := by
  rw [answerMore]
  split
  · exact tells_badRequest _
  · exact tells_ofTrips (s.client.queryMoreTrips_says _ _ _)

/-- Every route but that for the health of the service tells what it costs. -/
theorem answer_tells (s : Service) (now : DateTime) {route : Route} (h : route ≠ .health)
    (query : String) : Tells (s.answer now route query) := by
  -- route by route, once the parameters are read
  cases route with
  | health => exact absurd rfl h
  | places => exact tells_withRequest _ s.answerPlaces_tells
  | nearby => exact tells_withRequest _ s.answerNearby_tells
  | trips => exact tells_withRequest _ (s.answerTrips_tells now)
  | more => exact tells_withRequest _ s.answerMore_tells

/-! ### Requests -/

theorem Tells.withoutBody {call : Call Response} (h : Tells call) :
    Tells (call.map Response.withoutBody) :=
  h.map (fun _ h => h) fun _ _ h => h

/-- Every request but one after the health of the service tells what it costs. -/
theorem handle_tells (s : Service) (now : DateTime) {r : Request}
    (h : Route.ofPath? r.target.path ≠ some .health) : Tells (s.handle now r) := by
  rw [handle]
  cases hroute : Route.ofPath? r.target.path with
  | none => exact .answer (.inr (.inl rfl))
  | some route =>
    have hroute : route ≠ .health := fun hhealth => h (hhealth ▸ hroute)
    cases r.method with
    | get => exact s.answer_tells now hroute _
    | head => exact (s.answer_tells now hroute _).withoutBody
    | other => exact .answer (.inr (.inr rfl))

/-- The health of the service is told without asking. -/
theorem handle_health (s : Service) (now : DateTime) {r : Request}
    (h : Route.ofPath? r.target.path = some .health) :
    ∃ response, s.handle now r = .answer response ∧
      (response.status = .ok ∨ response.status.IsRefusal) := by
  rw [handle, h]
  cases r.method with
  | get => exact ⟨_, rfl, .inl rfl⟩
  | head => exact ⟨_, rfl, .inl rfl⟩
  | other => exact ⟨_, rfl, .inr (.inr (.inr rfl))⟩

/-- An answer is one on the health of the service, or it refuses without asking, or it has asked for
one address and answers the reply. -/
theorem answer_cases (s : Service) (now : DateTime) (r : Request) {σ : Type} (p : Provider σ)
    (state : σ) {response : Response}
    (h : ((s.handle now r).run p state).answer = some response) :
    (Route.ofPath? r.target.path = some .health ∧ ((s.handle now r).run p state).requests = [] ∧
      (response.status = .ok ∨ response.status.IsRefusal)) ∨
    (response.status.IsRefusal ∧ ((s.handle now r).run p state).requests = []) ∨
    ∃ u, Route.ofPath? r.target.path ≠ some .health ∧ AnswersReply (p u state).1 response ∧
      ((s.handle now r).run p state).requests = [u] := by
  by_cases hhealth : Route.ofPath? r.target.path = some .health
  · obtain ⟨known, hknown, hstatus⟩ := s.handle_health now hhealth
    rw [hknown, Call.run_answer] at h ⊢
    obtain rfl := Option.some.inj h
    exact .inl ⟨hhealth, rfl, hstatus⟩
  · rcases (s.handle_tells now hhealth).run p state h with hrefused | ⟨u, htold, hasked⟩
    · exact .inr (.inl hrefused)
    · exact .inr (.inr ⟨u, hhealth, htold, hasked⟩)

/-- **No request asks twice**, whatever it is replied. -/
theorem handle_asksAtMost_one (s : Service) (now : DateTime) (r : Request) :
    (s.handle now r).AsksAtMost 1 := by
  by_cases hhealth : Route.ofPath? r.target.path = some .health
  · obtain ⟨known, hknown, -⟩ := s.handle_health now hhealth
    rw [hknown]
    exact .answer
  · exact (s.handle_tells now hhealth).asksAtMost_one

/-! ### Refusals -/

/-- Why a query is refused on a route, and with which status. -/
inductive Refused (query : String) : Route → Status → Prop where
  /-- the parameters make no search for places by a text -/
  | placeParameters {fault : ParameterFault} (h : PlaceRequest.ofQuery query = .error fault) :
    Refused query .places .badRequest
  /-- the parameters make no search for places near a coordinate -/
  | nearbyParameters {fault : ParameterFault} (h : NearbyRequest.ofQuery query = .error fault) :
    Refused query .nearby .badRequest
  /-- the parameters make no search for trips -/
  | tripParameters {fault : ParameterFault} (h : TripRequest.ofQuery query = .error fault) :
    Refused query .trips .badRequest
  /-- the parameters make no step from a page -/
  | moreParameters {fault : ParameterFault} (h : MoreRequest.ofQuery query = .error fault) :
    Refused query .more .badRequest
  | blankTerm {r : PlaceRequest} (h : PlaceRequest.ofQuery query = .ok r)
    (hterm : Text.isBlankText r.term = true) : Refused query .places .badRequest
  /-- the coordinate is out of its ranges -/
  | outOfRange {r : NearbyRequest} (h : NearbyRequest.ofQuery query = .ok r)
    (hrange : Point.inRange r.lat r.lon = false) : Refused query .nearby .badRequest
  /-- the coordinate is infinite or no number -/
  | notFinite {r : NearbyRequest} (h : NearbyRequest.ofQuery query = .ok r)
    (hfinite : (r.lat.isFinite && r.lon.isFinite) = false) : Refused query .nearby .badRequest
  | date {r : TripRequest} {date : String} (h : TripRequest.ofQuery query = .ok r)
    (hdate : r.date = some date) (hnone : (dashedDate.readFields date).bind Fields.date? = none) :
    Refused query .trips .badRequest
  | time {r : TripRequest} {time : String} (h : TripRequest.ofQuery query = .ok r)
    (htime : r.time = some time) (hnone : (hourMinute.readFields time).bind Fields.clock? = none) :
    Refused query .trips .badRequest
  /-- the start or the end is blank -/
  | blankPlace {r : TripRequest} (h : TripRequest.ofQuery query = .ok r)
    (hblank : Text.isBlankText r.origin = true ∨ Text.isBlankText r.destination = true) :
    Refused query .trips .badRequest
  /-- the token holds no page -/
  | token {r : MoreRequest} {fault : TokenFault} (h : MoreRequest.ofQuery query = .ok r)
    (htoken : PageContext.ofToken r.token = .error fault) : Refused query .more .badRequest
  /-- the page has no bound on the wanted side -/
  | noBound {r : MoreRequest} {c : PageContext} (h : MoreRequest.ofQuery query = .ok r)
    (htoken : PageContext.ofToken r.token = .ok c)
    (hbound : c.bound r.later = none) :
    Refused query .more .notFound
  /-- a place of the page has no term -/
  | pagePlace {r : MoreRequest} {c : PageContext} {q : TripQuery}
    (h : MoreRequest.ofQuery query = .ok r) (htoken : PageContext.ofToken r.token = .ok c)
    (hnext : c.nextQuery r.later = .ok q) (hplace : c.query.IsUnresolvable) :
    Refused query .more .badRequest

/-- Whether a call answers with a status and asks nothing. -/
def AnswersWith (call : Call Response) (status : Status) : Prop :=
  ∃ response, call = .answer response ∧ response.status = status

theorem momentOf_of_date {now : DateTime} {date : String}
    (h : (dashedDate.readFields date).bind Fields.date? = none) (time : Option String) :
    ∃ e, momentOf now (some date) time = .error e := by
  rw [momentOf, dateOf, h]
  exact ⟨_, rfl⟩

theorem momentOf_of_time {now : DateTime} {time : String}
    (h : (hourMinute.readFields time).bind Fields.clock? = none) (date : Option String) :
    ∃ e, momentOf now date (some time) = .error e := by
  rw [momentOf, clockOf, h]
  cases dateOf now.date date with
  | error e => exact ⟨e, rfl⟩
  | ok day => exact ⟨_, rfl⟩

theorem answerTrips_of_momentOf (s : Service) {now : DateTime} {r : TripRequest} {e : ServiceError}
    (h : momentOf now r.date r.time = .error e) :
    AnswersWith (s.answerTrips now r) .badRequest := by
  rw [answerTrips, h]
  exact ⟨_, rfl, momentOf_eq_error h⟩

theorem places_queryOf (s : Service) (moment : DateTime) (r : TripRequest) :
    (s.queryOf moment r).origin = Location.ofTerm r.origin ∧
      (s.queryOf moment r).destination = Location.ofTerm r.destination := by
  simp only [queryOf, and_self]

/-- A search for trips is a bad request where its query cannot be sent. -/
theorem answerTrips_of_isUnresolvable (s : Service) {now : DateTime} {r : TripRequest}
    (h : ∀ moment, (s.queryOf moment r).IsUnresolvable) :
    AnswersWith (s.answerTrips now r) .badRequest := by
  cases hmoment : momentOf now r.date r.time with
  | error e => exact s.answerTrips_of_momentOf hmoment
  | ok moment =>
    obtain ⟨e, he⟩ := TripQuery.parameters_of_isUnresolvable (h moment)
    rw [answerTrips, hmoment]
    dsimp only
    rw [Client.queryTrips, he]
    exact ⟨_, rfl, rfl⟩

/-- A query that is refused is answered with the status of the refusal, and asks nothing. -/
theorem answer_of_refused (s : Service) (now : DateTime) {query : String} {route : Route}
    {status : Status} (h : Refused query route status) :
    AnswersWith (s.answer now route query) status := by
  -- in the order in which a request is looked at: its parameters, what they say, and the page
  cases h with
  | placeParameters h | nearbyParameters h | tripParameters h | moreParameters h =>
    rw [answer, h]
    exact ⟨_, rfl, rfl⟩
  | blankTerm h hterm =>
    rw [answer, h, withRequest, answerPlaces, if_pos ((Text.isEmpty_trim _).trans hterm)]
    exact ⟨_, rfl, rfl⟩
  | outOfRange h hrange =>
    rw [answer, h, withRequest, answerNearby, if_neg (Bool.eq_false_iff.mp hrange)]
    exact ⟨_, rfl, rfl⟩
  | notFinite h hfinite =>
    -- the ranges exclude what is not finite
    have hrange : ¬ Point.inRange _ _ = true := fun hrange =>
      Bool.eq_false_iff.mp hfinite (Bool.and_eq_true_iff.mpr (Point.isFinite_of_inRange hrange))
    rw [answer, h, withRequest, answerNearby, if_neg hrange]
    exact ⟨_, rfl, rfl⟩
  | date h hdate hnone =>
    obtain ⟨e, he⟩ := momentOf_of_date hnone _
    rw [answer, h, withRequest]
    exact s.answerTrips_of_momentOf (hdate ▸ he)
  | time h htime hnone =>
    obtain ⟨e, he⟩ := momentOf_of_time hnone _
    rw [answer, h, withRequest]
    exact s.answerTrips_of_momentOf (htime ▸ he)
  | blankPlace h hblank =>
    -- the moment decides nothing, since the places are without a term for every moment
    rw [answer, h, withRequest]
    refine s.answerTrips_of_isUnresolvable fun moment => ?_
    rw [TripQuery.IsUnresolvable, (s.places_queryOf moment _).1, (s.places_queryOf moment _).2]
    rcases hblank with hblank | hblank
    · exact Or.inl (Location.term?_ofTerm_of_isBlankText hblank)
    · exact Or.inr (Or.inl (Location.term?_ofTerm_of_isBlankText hblank))
  | token h htoken =>
    rw [answer, h, withRequest, answerMore, htoken]
    exact ⟨_, rfl, rfl⟩
  | noBound h htoken hbound =>
    -- a page without the bound that is asked for has no query at all
    rw [answer, h, withRequest, answerMore, htoken]
    dsimp only
    rw [Client.queryMoreTrips, PageContext.nextQuery_of_bound_none hbound]
    exact ⟨_, rfl, rfl⟩
  | pagePlace h htoken hnext hplace =>
    -- the query of the next page has the places of the first one
    obtain ⟨e, he⟩ :=
      TripQuery.parameters_of_isUnresolvable (PageContext.isUnresolvable_of_nextQuery hnext hplace)
    rw [answer, h, withRequest, answerMore, htoken]
    dsimp only
    rw [Client.queryMoreTrips, hnext]
    dsimp only
    rw [Client.queryTrips, he]
    exact ⟨_, rfl, rfl⟩

theorem AnswersWith.withoutBody {call : Call Response} {status : Status}
    (h : AnswersWith call status) : AnswersWith (call.map Response.withoutBody) status := by
  obtain ⟨response, rfl, hstatus⟩ := h
  exact ⟨response.withoutBody, rfl, hstatus⟩

theorem handle_eq_answer (s : Service) (now : DateTime) {r : Request} {route : Route}
    (hmethod : r.method = .get) (hroute : Route.ofPath? r.target.path = some route) :
    s.handle now r = s.answer now route r.target.query := by
  rw [handle, hroute, hmethod]

/-- A request with a query that is refused asks nothing, whether its body is wanted or not. -/
theorem handle_of_refused (s : Service) (now : DateTime) {r : Request} {route : Route}
    {status : Status} (hroute : Route.ofPath? r.target.path = some route)
    (hmethod : r.method ≠ .other) (h : Refused r.target.query route status) :
    AnswersWith (s.handle now r) status := by
  rw [handle, hroute]
  cases hm : r.method with
  | get => exact s.answer_of_refused now h
  | head => exact (s.answer_of_refused now h).withoutBody
  | other => exact absurd hm hmethod

/-- **The status of an answer tells what it cost.** An answer is a refusal or a report, and never a
failure of the service. No refusal and no word on the health of the service has asked the provider,
and every other report has asked exactly once, if the provider itself refuses nothing. A provider
that does may reply the error of a refusal, and that is the only way for a refusal to have asked;
the network does not, whatever it brings, nor does a fixture. What is refused for its query is
answered as that, without asking, and no request asks twice. -/
theorem handle_requests (s : Service) (now : DateTime) (r : Request) {σ : Type} (p : Provider σ)
    (state : σ) (log : List Url) :
    let outcome := (s.handle now r).run p.recorded (state, log)
    (∀ response, outcome.answer = some response →
      (response.status.IsRefusal ∨ response.status.IsReport) ∧ response.status ≠ .internal ∧
      (p.RefusesNothing → response.status.IsRefusal → outcome.state.2 = log) ∧
      (response.status.IsRefusal → outcome.state.2 = log ∨
        ∃ u, (p u state).1.Refuses ∧ outcome.state.2 = log ++ [u]) ∧
      (Route.ofPath? r.target.path = some .health → outcome.state.2 = log) ∧
      (response.status.IsReport → Route.ofPath? r.target.path ≠ some .health →
        ∃ u, outcome.state.2 = log ++ [u])) ∧
    (∀ route status, Route.ofPath? r.target.path = some route → r.method ≠ .other →
      Refused r.target.query route status →
      outcome.state.2 = log ∧
        ∃ response, outcome.answer = some response ∧ response.status = status) ∧
    (outcome.state.2 = log ∨ ∃ u, outcome.state.2 = log ++ [u]) ∧
    (∀ (τ : Type) (network : Url → τ → Transmission × τ),
      (Provider.ofNetwork network).RefusesNothing) ∧
    ∀ f : Fixture, f.provider.RefusesNothing := by
  intro outcome
  -- the log grows by the requests of the call alone
  have houtcome : outcome = _ := Call.run_recorded p state log (s.handle now r)
  have hanswer : outcome.answer = ((s.handle now r).run p state).answer := by rw [houtcome]
  have hlog : outcome.state.2 = log ++ ((s.handle now r).run p state).requests := by rw [houtcome]
  rw [hanswer, hlog]
  refine ⟨fun response hresponse => ?answered, fun route status hroute hmethod h => ?refused, ?once,
    fun _ network => Provider.refusesNothing_ofNetwork network, Provider.refusesNothing_provider⟩
  case answered =>
    -- an answer is given at once, or it is what is made of the one reply
    rcases s.answer_cases now r p state hresponse with
      ⟨hhealth, hnone, hstatus⟩ | ⟨hrefusal, hnone⟩ | ⟨u, hroute, htold, hasked⟩
    · -- the health of the service is the one report that costs nothing
      have hkind : response.status.IsRefusal ∨ response.status.IsReport :=
        hstatus.symm.imp_right .inl
      rw [hnone, List.append_nil]
      exact ⟨hkind, Status.ne_internal hkind, fun _ _ => rfl, fun _ => .inl rfl, fun _ => rfl,
        fun _ hne => absurd hhealth hne⟩
    · -- a refusal that the service finds by itself has asked nobody
      rw [hnone, List.append_nil]
      exact ⟨.inl hrefusal, Status.ne_internal (.inl hrefusal), fun _ _ => rfl, fun _ => .inl rfl,
        fun _ => rfl, fun hreport => absurd hreport hrefusal.not_isReport⟩
    · have hkind : response.status.IsRefusal ∨ response.status.IsReport :=
        htold.symm.imp_left And.right
      -- behind a reply there is only a report, unless the reply itself refuses
      have hrefuses : response.status.IsRefusal → (p u state).1.Refuses := by
        intro hrefusal
        rcases htold with hreport | ⟨hrefuses, -⟩
        · exact absurd hreport hrefusal.not_isReport
        · exact hrefuses
      rw [hasked]
      exact ⟨hkind, Status.ne_internal hkind,
        fun hp hrefusal => absurd (hrefuses hrefusal) (hp u state),
        fun hrefusal => .inr ⟨u, hrefuses hrefusal, rfl⟩, fun hhealth => absurd hhealth hroute,
        fun _ _ => ⟨u, rfl⟩⟩
  case refused =>
    obtain ⟨response, hcall, hstatus⟩ := s.handle_of_refused now hroute hmethod h
    rw [hcall, Call.run_answer]
    exact ⟨List.append_nil log, response, rfl, hstatus⟩
  case once =>
    -- no call of the service asks twice, whatever comes back
    rcases (s.handle_asksAtMost_one now r).requests_cases p state with hnone | ⟨u, hu⟩
    · exact .inl (by rw [hnone, List.append_nil])
    · exact .inr ⟨u, by rw [hu]⟩

/-- The service in front of the public provider. -/
def inFrontOfPublic : Service := ⟨.ofConfig .standard, sequentialIds "trip"⟩

/-- The provider that is always asked too often. -/
def busy : Provider Unit := fun _ _ => (.error .rateLimited, ())

/-- A search for trips from a term to Bern, on the first of March at eight. -/
def searchToBern (origin : String) : Request :=
  ⟨.get, "/api/trips", "from=" ++ origin ++ "&to=8507000&date=2024-03-01&time=08:00"⟩

/-- Midnight before the first of January of year 0. -/
def midnight : DateTime :=
  ⟨(Date.of? 0 1 1).get (by decide), (Clock.of? 0 0 0 0).get (by decide)⟩

theorem refusesNothing_busy : busy.RefusesNothing := by
  rintro u s ⟨e, he, hrefusal⟩
  cases he
  exact hrefusal

/-- A provider that says of every request that there is nothing more, as if it were a client. -/
def exhausted : Provider Unit := fun _ _ => (.error .noMoreResults, ())

/-- What comes of a search from a term with a provider. -/
def searchWith (p : Provider Unit) (origin : String) : Call.Outcome Response (Unit × List Url) :=
  (inFrontOfPublic.handle midnight (searchToBern origin)).run p.recorded ((), [])

theorem requests_of_searchWhileBusy :
    busy.RefusesNothing ∧
    ((searchWith busy "8503000").answer.map Response.status = some .badGateway ∧
      ∃ u, (searchWith busy "8503000").state.2 = [u]) ∧
    ((searchWith busy "+").answer.map Response.status = some .badRequest ∧
      (searchWith busy "+").state.2 = []) ∧
    (searchWith exhausted "8503000").answer.map Response.status = some .notFound ∧
      ∃ u, (exhausted u ()).1.Refuses ∧ (searchWith exhausted "8503000").state.2 = [u] := by
  refine ⟨refusesNothing_busy, ?asked, ?refused, ?refusing⟩
  case asked =>
    -- the status is computed, and it is the status that tells of the request
    have hstatus : (searchWith busy "8503000").answer.map Response.status = some .badGateway := by
      decide +kernel
    obtain ⟨response, hresponse, hstatus'⟩ := Option.map_eq_some_iff.mp hstatus
    obtain ⟨hanswered, -⟩ :=
      inFrontOfPublic.handle_requests midnight (searchToBern "8503000") busy () []
    obtain ⟨-, -, -, -, -, hreport⟩ := hanswered response hresponse
    exact ⟨hstatus, hreport (.inr hstatus') (by decide)⟩
  case refused =>
    -- only the blank start of the journey is looked at
    obtain ⟨r, hr⟩ : ∃ r, TripRequest.ofQuery (searchToBern "+").target.query = .ok r :=
      exists_eq_ok (by decide +kernel)
    have horigin : (TripRequest.ofQuery (searchToBern "+").target.query).toOption.map
        TripRequest.origin = some " " := by
      decide +kernel
    rw [hr] at horigin
    have hblank : Text.isBlankText r.origin = true := by
      rw [show r.origin = " " from Option.some.inj horigin]
      decide
    obtain ⟨hanswered, hrefused, -⟩ :=
      inFrontOfPublic.handle_requests midnight (searchToBern "+") busy () []
    obtain ⟨-, response, hresponse, hstatus⟩ :=
      hrefused .trips .badRequest (by decide) (by decide) (.blankPlace hr (.inl hblank))
    obtain ⟨-, -, hunasked, -⟩ := hanswered response hresponse
    exact ⟨Option.map_eq_some_iff.mpr ⟨response, hresponse, hstatus⟩,
      hunasked refusesNothing_busy (.inl hstatus)⟩
  case refusing =>
    have hstatus : (searchWith exhausted "8503000").answer.map Response.status =
        some .notFound := by
      decide +kernel
    -- the provider has been asked, so the refusal is not one of the service
    have hasked : (searchWith exhausted "8503000").state.2 ≠ [] := by decide +kernel
    obtain ⟨response, hresponse, hstatus'⟩ := Option.map_eq_some_iff.mp hstatus
    obtain ⟨hanswered, -⟩ :=
      inFrontOfPublic.handle_requests midnight (searchToBern "8503000") exhausted () []
    obtain ⟨-, -, -, hrefusal, -⟩ := hanswered response hresponse
    exact ⟨hstatus, (hrefusal (.inr (.inl hstatus'))).resolve_left hasked⟩

end Service

end Itinerary
