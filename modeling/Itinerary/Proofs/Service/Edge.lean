import Itinerary.Proofs.Calendar.Order
import Itinerary.Proofs.Service.Paging

/-!
# Requests that get no answer

The bounds of a page come back in the token of a caller, who can put any times in it that can be
written. A step goes to the minute beyond a bound, and at the edge of the calendar there is none.
The call is given up then, and that is the only way for a request to get no answer
(`handle_eq_drop_iff`): every other step is refused or asks for the neighbour of its page, and no
request of another kind is ever given up.
-/

namespace Itinerary

open Calendar

/-! ### Calls that are given up -/

namespace Call

variable {α β σ : Type}

@[simp] theorem map_eq_drop_iff {f : α → β} {call : Call α} :
    call.map f = .drop ↔ call = .drop := by
  cases call <;> simp [map]

end Call

namespace Client

theorem request_ne_drop {α : Type} (c : Client) (endpoint : Endpoint) (ps : List Parameter)
    (read : String → Except Feed.DecodeError α) : c.request endpoint ps read ≠ .drop := by
  rw [request]
  cases c.address endpoint ps <;> simp [Call.askOnce]

theorem queryTrips_ne_drop (c : Client) (ids : IdSupply) (q : TripQuery) :
    c.queryTrips ids q ≠ .drop := by
  rcases c.queryTrips_cases ids q with ⟨e, h⟩ | ⟨-, u, -, -, h⟩ <;> simp [h, Call.askOnce]

/-- A step from a page is given up exactly if it leads off the calendar. -/
theorem queryMoreTrips_eq_drop_iff {c : Client} {ids : IdSupply} {context : PageContext}
    {later : Bool} :
    c.queryMoreTrips ids context later = .drop ↔
      ∃ t, context.bound later = some t ∧ t.IsAtEdge later := by
  have hedge : context.nextQuery later = .error .offCalendar ↔
      ∃ t, context.bound later = some t ∧ t.IsAtEdge later := by
    rw [PageContext.nextQuery_eq_offCalendar_iff]
    exact exists_congr fun t => and_congr_right fun _ => DateTime.addMinutes?_eq_none_iff
  rw [← hedge, queryMoreTrips]
  split
  · rename_i q hq
    simp [hq, c.queryTrips_ne_drop ids q]
  · rename_i hnone
    simp [hnone]
  · rename_i hoff
    simp [hoff]

end Client

namespace Service

/-! ### Requests that are given up -/

/-- Whether a request is a step from a page whose bound on that side lies at the edge of the
calendar. -/
inductive Request.LeadsOff (r : Request) : Prop where
  | intro {token : String} {later : Bool} {context : PageContext} {t : DateTime}
    (method : r.method ≠ .other)
    (route : Route.ofPath? r.target.path = some .more)
    (query : MoreRequest.ofQuery r.target.query = .ok ⟨token, later⟩)
    (page : PageContext.ofToken token = .ok context)
    (bound : context.bound later = some t)
    (edge : t.IsAtEdge later)

theorem withRequest_eq_drop_iff {α : Type} {r : Except ParameterFault α}
    {next : α → Call Response} :
    withRequest r next = .drop ↔ ∃ a, r = .ok a ∧ next a = .drop := by
  cases r with
  | ok a => simp [withRequest]
  | error fault => simp [withRequest]

/-- A step is given up exactly if its token holds a page at the edge. -/
theorem answerMore_eq_drop_iff {s : Service} {m : MoreRequest} :
    s.answerMore m = .drop ↔
      ∃ context t, PageContext.ofToken m.token = .ok context ∧ context.bound m.later = some t ∧
        t.IsAtEdge m.later := by
  rw [answerMore]
  cases PageContext.ofToken m.token with
  | error fault => simp
  | ok context => simp [Client.queryMoreTrips_eq_drop_iff]

/-- Of what is asked for only steps are given up. -/
theorem answer_eq_drop_iff {s : Service} {now : DateTime} {route : Route} {query : String} :
    s.answer now route query = .drop ↔
      route = .more ∧ ∃ m, MoreRequest.ofQuery query = .ok m ∧ s.answerMore m = .drop := by
  cases route with
  | health => simp [answer]
  | places =>
    -- a request for places that is in order sends one query, and any other is answered at once
    have hplaces : ∀ r, s.answerPlaces r ≠ .drop := by
      intro r
      rw [answerPlaces]
      split
      · simp
      · simp [Client.suggestPlaces, Client.request_ne_drop]
    simp [answer, withRequest_eq_drop_iff, hplaces]
  | nearby =>
    have hnearby : ∀ r, s.answerNearby r ≠ .drop := by
      intro r
      rw [answerNearby]
      split
      · simp [Client.nearbyPlaces, Client.request_ne_drop]
      · simp
    simp [answer, withRequest_eq_drop_iff, hnearby]
  | trips =>
    -- the first page of trips is asked for as of now, and there is no step to be given up
    have htrips : ∀ r, s.answerTrips now r ≠ .drop := by
      intro r
      rw [answerTrips]
      split
      · simp
      · simp [Client.queryTrips_ne_drop]
    simp [answer, withRequest_eq_drop_iff, htrips]
  | more => simp [answer, withRequest_eq_drop_iff]

/-- What is asked for is given up exactly if it leads off, whether its body is wanted or not. -/
theorem answer_eq_drop_iff_leadsOff {s : Service} {now : DateTime} {r : Request} {route : Route}
    (hroute : Route.ofPath? r.target.path = some route) (hmethod : r.method ≠ .other) :
    s.answer now route r.target.query = .drop ↔ r.LeadsOff := by
  rw [answer_eq_drop_iff]
  constructor
  · rintro ⟨rfl, ⟨token, later⟩, hquery, hdrop⟩
    obtain ⟨context, t, hpage, hbound, hedge⟩ := answerMore_eq_drop_iff.mp hdrop
    exact ⟨hmethod, hroute, hquery, hpage, hbound, hedge⟩
  · rintro ⟨-, hmore, hquery, hpage, hbound, hedge⟩
    refine ⟨Option.some.inj (hroute.symm.trans hmore), _, hquery, ?_⟩
    exact answerMore_eq_drop_iff.mpr ⟨_, _, hpage, hbound, hedge⟩

/-- **Only steps off the calendar are given up.** -/
theorem handle_eq_drop_iff {s : Service} {now : DateTime} {r : Request} :
    s.handle now r = .drop ↔ r.LeadsOff := by
  rw [handle]
  cases hroute : Route.ofPath? r.target.path with
  | none =>
    constructor
    · intro h
      cases h
    · rintro ⟨-, hmore, -, -, -, -⟩
      cases hroute.symm.trans hmore
  | some route =>
    cases hmethod : r.method with
    | get => exact answer_eq_drop_iff_leadsOff hroute (by simp [hmethod])
    | head =>
      -- a request for the head alone is answered as one for the whole, and the body left out
      exact Call.map_eq_drop_iff.trans (answer_eq_drop_iff_leadsOff hroute (by simp [hmethod]))
    | other =>
      constructor
      · intro h
        cases h
      · rintro ⟨hread, -, -, -, -, -⟩
        exact absurd hmethod hread

/-- A request is given up from the start or gets an answer, whatever the provider replies. -/
theorem answer_handle_eq_none_iff {s : Service} {now : DateTime} {r : Request} {σ : Type}
    {p : Provider σ} {state : σ} :
    ((s.handle now r).run p state).answer = none ↔ r.LeadsOff := by
  rw [← handle_eq_drop_iff]
  by_cases hhealth : Route.ofPath? r.target.path = some .health
  · obtain ⟨known, hknown, -⟩ := s.handle_health now hhealth
    rw [hknown]
    exact ⟨nofun, nofun⟩
  · exact (s.handle_tells now hhealth).answer_run_eq_none_iff

/-! ### Steps from a page -/

/-- A step that does not lead off is one from a page without a bound on that side, or it is the
query of the neighbour. -/
theorem answerMore_cases {s : Service} {m : MoreRequest} {context : PageContext}
    (hpage : PageContext.ofToken m.token = .ok context) (h : s.answerMore m ≠ .drop) :
    (context.bound m.later = none ∧ AnswersWith (s.answerMore m) .notFound) ∨
      ∃ q, context.nextQuery m.later = .ok q ∧
        s.answerMore m = (s.client.queryTrips s.ids q).map (.ofResult resultBody) := by
  rw [answerMore, hpage] at h ⊢
  dsimp only at h ⊢
  rw [Client.queryMoreTrips] at h ⊢
  rw [Response.ofTrips_eq]
  cases hnext : context.nextQuery m.later with
  | ok q => exact .inr ⟨q, rfl, rfl⟩
  | error e =>
    rw [hnext] at h
    cases e with
    | noBound => exact .inl ⟨PageContext.nextQuery_eq_noBound_iff.mp hnext, _, rfl, rfl⟩
    | offCalendar => exact absurd rfl h

/-- **Which requests get no answer.** They are the steps from a page whose bound lies at the edge of
the calendar, whatever the provider replies. Every other step from a page is answered that there is
nothing, if the page has no bound on its side, or else its neighbour is asked for. -/
theorem unanswered_iff (s : Service) (now : DateTime) (r : Request) :
    (∀ (σ : Type) (p : Provider σ) (state : σ),
      ((s.handle now r).run p state).answer = none ↔ r.LeadsOff) ∧
    ∀ token later context, r.method = .get → Route.ofPath? r.target.path = some .more →
      MoreRequest.ofQuery r.target.query = .ok ⟨token, later⟩ →
      PageContext.ofToken token = .ok context → ¬ r.LeadsOff →
      (context.bound later = none ∧ AnswersWith (s.handle now r) .notFound) ∨
        ∃ q, context.nextQuery later = .ok q ∧
          s.handle now r = (s.client.queryTrips s.ids q).map (.ofResult resultBody) := by
  refine ⟨fun σ p state => answer_handle_eq_none_iff, ?_⟩
  intro token later context hmethod hroute hquery hpage hstays
  have hhandle : s.handle now r = s.answerMore ⟨token, later⟩ := by
    rw [handle, hroute, hmethod]
    dsimp only
    rw [answer, hquery, withRequest]
  rw [hhandle]
  refine answerMore_cases (m := ⟨token, later⟩) hpage fun hdrop => hstays ?_
  exact handle_eq_drop_iff.mp (hhandle.trans hdrop)

/-! ### A page at both edges -/

/-- A page that reaches from the first day of the calendar, at midnight, to the last second. -/
def fromEdgeToEdge : PageContext where
  query := .departing (.named "Bern") (.named "Thun") midnight
  latestDeparture := some ⟨.last, (Clock.of? 23 59 59 0).get (by decide)⟩
  earliestArrival := some ⟨.first, midnight.clock⟩

/-- A step from that page. -/
def stepOff (later : Bool) : Request :=
  ⟨.get, "/api/trips/more", Exchange.stepQuery fromEdgeToEdge.token later⟩

theorem ofToken_fromEdgeToEdge :
    PageContext.ofToken fromEdgeToEdge.token = .ok fromEdgeToEdge := by
  refine PageContext.ofToken_token ⟨?_, ?_, ?_⟩
  · rintro point ⟨⟩
  · rintro point ⟨⟩
  · rintro place ⟨⟩

theorem leadsOff_stepOff (later : Bool) : (stepOff later).LeadsOff := by
  have hroute : Route.ofPath? "/api/trips/more" = some .more := by decide
  have hquery := Exchange.ofQuery_stepQuery fromEdgeToEdge.token later
  have hmethod : Method.get ≠ .other := by decide
  cases later with
  | true =>
    refine ⟨hmethod, hroute, hquery, ofToken_fromEdgeToEdge, rfl, ?_⟩
    -- the bound of the page lies in the last minute of the calendar
    show DateTime.minutes _ = _
    decide +kernel
  | false =>
    refine ⟨hmethod, hroute, hquery, ofToken_fromEdgeToEdge, rfl, ?_⟩
    exact ⟨by decide +kernel, by decide +kernel⟩

/-- **A token that is accepted may get no answer**, to either side. -/
theorem stepOff_unanswered :
    PageContext.ofToken fromEdgeToEdge.token = .ok fromEdgeToEdge ∧
      MoreRequest.ofQuery (stepOff true).target.query = .ok ⟨fromEdgeToEdge.token, true⟩ ∧
      MoreRequest.ofQuery (stepOff false).target.query = .ok ⟨fromEdgeToEdge.token, false⟩ ∧
      ((inFrontOfPublic.handle midnight (stepOff true)).run busy ()).answer = none ∧
      ((inFrontOfPublic.handle midnight (stepOff false)).run busy ()).answer = none := by
  refine ⟨ofToken_fromEdgeToEdge, Exchange.ofQuery_stepQuery _ _, Exchange.ofQuery_stepQuery _ _,
    ?_, ?_⟩
  · exact answer_handle_eq_none_iff.mpr (leadsOff_stepOff true)
  · exact answer_handle_eq_none_iff.mpr (leadsOff_stepOff false)

end Service

end Itinerary
