import Itinerary.Proofs.Calendar.Date
import Itinerary.Proofs.Service.Requests
import Itinerary.Proofs.Service.Response
import Itinerary.Proofs.Token
import Itinerary.Proofs.Url.Form

/-!
# Paging keeps the search

A caller searches for trips and then goes from page to page, each time with the token of the
latest answer that has trips. Nothing but the time is lost or changed on the way, however long it
is: every step is accepted and asks the provider once, for the places and options of the first
search.

The invariant of a run is `Exchange.AsksFor`: the latest page is the answer to the first query,
moved to some time. A token keeps the query of its page (`exists_context_of_token?`), so a step
asks for that query moved once more (`asksFor_of_follows`), and two moves are one. What a query is
sent as depends on its time in the part for the time only (`sameSearch_of_asksFor`).
-/

namespace Itinerary.Service

open Calendar

variable {σ : Type}

/-! ### Exchanges -/

/-- A request together with what it meets. Others ask the provider as well, so its state is
whatever they leave. -/
structure Exchange (σ : Type) where
  ids : IdSupply
  now : DateTime
  request : Request
  /-- the state that the provider is found in -/
  before : σ

namespace Exchange

/-- The service that the request is made of. -/
def service (x : Exchange σ) (c : Client) : Service := ⟨c, x.ids⟩

/-- What comes of the request. -/
def outcome (c : Client) (p : Provider σ) (x : Exchange σ) : Call.Outcome Response σ :=
  ((x.service c).handle x.now x.request).run p x.before

/-- The token in the answer. -/
def token? (c : Client) (p : Provider σ) (x : Exchange σ) : Option String :=
  (x.outcome c p).answer.bind Response.pageToken?

/-- The trips in the reply of the provider. -/
def trips (c : Client) (p : Provider σ) (x : Exchange σ) : List Trip :=
  match (x.outcome c p).requests with
  | u :: _ => Client.tripsIn x.ids (p u x.before).1
  | [] => []

/-- The request is a search for trips. -/
structure Searches (x : Exchange σ) (r : TripRequest) : Prop where
  method : x.request.method = .get
  route : Route.ofPath? x.request.target.path = some .trips
  /-- its parameters make the search -/
  query : TripRequest.ofQuery x.request.target.query = .ok r

/-- The request is the step to one side of a page. -/
structure Follows (c : Client) (p : Provider σ) (x page : Exchange σ) (later : Bool) : Prop where
  method : x.request.method = .get
  route : Route.ofPath? x.request.target.path = some .more
  /-- it has the token of the page -/
  query : ∃ token, page.token? c p = some token ∧
    MoreRequest.ofQuery x.request.target.query = .ok ⟨token, later⟩

/-! ### What is asked for -/

/-- The request comes down to a query. -/
def AsksFor (c : Client) (x : Exchange σ) (q : TripQuery) : Prop :=
  (x.service c).handle x.now x.request =
    (c.queryTrips x.ids q).map (.ofResult resultBody)

variable {c : Client} {p : Provider σ} {x page : Exchange σ} {q : TripQuery}

/-- A search at a moment asks for its query. -/
theorem asksFor_of_momentOf {r : TripRequest} {moment : DateTime} (h : x.Searches r)
    (hmoment : momentOf x.now r.date r.time = .ok moment) :
    x.AsksFor c ((x.service c).queryOf moment r) := by
  rw [AsksFor, handle, h.route, h.method]
  dsimp only
  rw [answer, h.query, withRequest, answerTrips, hmoment]
  dsimp only
  rw [Response.ofTrips_eq]
  rfl

/-- A search with a page for an answer has a moment. -/
theorem exists_momentOf {r : TripRequest} (h : x.Searches r) (hpage : (x.token? c p).isSome) :
    ∃ moment, momentOf x.now r.date r.time = .ok moment := by
  cases hmoment : momentOf x.now r.date r.time with
  | ok moment => exact ⟨moment, rfl⟩
  | error e =>
    have hhandle : (x.service c).handle x.now x.request = .answer e.response := by
      rw [handle, h.route, h.method]
      dsimp only
      rw [answer, h.query, withRequest, answerTrips, hmoment]
    rw [token?, outcome, hhandle, Call.run_answer, Option.bind_some, pageToken?_response] at hpage
    cases hpage

/-- A request that comes down to a query is refused, or it is asked and answered with what is read
in the reply. -/
theorem outcome_cases (p : Provider σ) (h : x.AsksFor c q) :
    (∃ e : ServiceError, x.outcome c p = ⟨some e.response, [], x.before⟩) ∨
      ∃ ps u, q.parameters = .ok ps ∧ c.address .route ps = .ok u ∧
        x.outcome c p = ⟨some (.ofResult resultBody (Client.readTrips x.ids q (p u x.before).1)),
          [u], (p u x.before).2⟩ := by
  rw [AsksFor] at h
  rw [outcome, h]
  rcases c.queryTrips_cases x.ids q with ⟨e, hrefused⟩ | ⟨ps, u, hps, hu, hasked⟩
  · rw [hrefused]
    exact .inl ⟨.ofClient e, rfl⟩
  · rw [hasked]
    exact .inr ⟨ps, u, hps, hu, rfl⟩

/-- **A page holds its query.** The token of an answer is that of the context of its trips, which
come from one request. -/
theorem exists_context_of_token? {token : String} (h : x.AsksFor c q)
    (htoken : x.token? c p = some token) :
    ∃ ps u context, q.parameters = .ok ps ∧ c.address .route ps = .ok u ∧
      (x.outcome c p).requests = [u] ∧ PageContext.ofTrips (x.trips c p) q = some context ∧
      context.token = token := by
  rcases outcome_cases p h with ⟨e, houtcome⟩ | ⟨ps, u, hps, hu, houtcome⟩
  · rw [token?, houtcome, Option.bind_some, pageToken?_response] at htoken
    cases htoken
  · rw [token?, houtcome, Option.bind_some] at htoken
    obtain ⟨trips, context, hread, rfl⟩ := pageToken?_ofResult_iff.mp htoken
    obtain ⟨rfl, hcontext⟩ := Client.readTrips_eq_trips_iff.mp hread
    refine ⟨ps, u, context, hps, hu, ?_, ?_, rfl⟩
    · rw [houtcome]
    · rw [Exchange.trips, houtcome]
      exact hcontext

/-- An answer is a page if there are trips in the reply. -/
theorem isSome_token?_of_trips (h : x.AsksFor c q) (htrips : x.trips c p ≠ []) :
    (x.token? c p).isSome := by
  rcases outcome_cases p h with ⟨e, houtcome⟩ | ⟨ps, u, hps, hu, houtcome⟩
  · rw [Exchange.trips, houtcome] at htrips
    exact absurd rfl htrips
  · rw [Exchange.trips, houtcome] at htrips
    obtain ⟨context, hcontext⟩ := PageContext.exists_ofTrips htrips q
    have hread := Client.readTrips_eq_trips_iff.mpr ⟨rfl, hcontext⟩
    rw [token?, houtcome, Option.bind_some, pageToken?_ofResult_iff.mpr ⟨_, _, hread, rfl⟩]
    rfl

/-- **A step asks for the query of its page at another time**, the minute beyond the bound of the
page on that side. -/
theorem asksFor_of_follows {later : Bool} (hpage : page.AsksFor c q) (hq : q.CarriesOver)
    (h : x.Follows c p page later)
    (hyears : ∀ t, PageContext.boundOf (page.trips c p) later = some t →
      0 ≤ t.date.year ∧ t.date.year ≤ 9999) :
    ∃ t moment, PageContext.boundOf (page.trips c p) later = some t ∧
      t.addMinutes? (PageContext.minutesBeyond later) = some moment ∧
      x.AsksFor c (q.reanchored moment (PageContext.timeTypeBeyond later)) := by
  obtain ⟨token, htoken, hquery⟩ := h.query
  obtain ⟨-, -, context, -, -, -, hcontext, rfl⟩ := exists_context_of_token? hpage htoken
  obtain ⟨rfl, hbounds⟩ := PageContext.ofTrips_eq_some hcontext
  obtain ⟨t, hbound, ht⟩ := hbounds later
  -- within these years the calendar has a minute more on either side
  obtain ⟨moment, hmoment⟩ :
      ∃ moment, t.addMinutes? (PageContext.minutesBeyond later) = some moment :=
    DateTime.exists_addMinutes? (hyears t ht) (by cases later <;> decide)
  refine ⟨t, moment, ht, hmoment, ?_⟩
  -- the token is read back as the context, whose bound on that side is the one of the trips
  rw [AsksFor, handle, h.route, h.method]
  dsimp only
  rw [answer, hquery, withRequest, answerMore, PageContext.ofToken_token hq]
  dsimp only
  rw [Client.queryMoreTrips, PageContext.nextQuery_of_bound_some hbound hmoment,
    Response.ofTrips_eq]
  rfl

/-! ### Steps as they are written -/

/-- The query of a step from a page. -/
def stepQuery (token : String) (later : Bool) : String :=
  String.ofList (Url.Form.encode
    [("context", token), ("later", if later then "true" else "false")])

theorem ofQuery_stepQuery (token : String) (later : Bool) :
    MoreRequest.ofQuery (stepQuery token later) = .ok ⟨token, later⟩ := by
  rw [MoreRequest.ofQuery, fill, stepQuery, Url.Form.decode_encode]
  cases later <;> rfl

/-- The step to one side of a page, right behind it. -/
def step (c : Client) (p : Provider σ) (page : Exchange σ) (later : Bool) : Exchange σ :=
  { page with
    request := ⟨.get, "/api/trips/more", stepQuery ((page.token? c p).getD "") later⟩
    before := (page.outcome c p).state }

/-- Every page can be followed to either side. -/
theorem follows_step (hpage : (page.token? c p).isSome) (later : Bool) :
    (page.step c p later).Follows c p page later := by
  obtain ⟨token, htoken⟩ := Option.isSome_iff_exists.mp hpage
  have hroute : Route.ofPath? "/api/trips/more" = some .more := by decide
  refine ⟨rfl, hroute, token, htoken, ?_⟩
  rw [step, htoken]
  exact ofQuery_stepQuery token later

/-! ### What is sent -/

/-- Whether an address asks for what another one does, but at a given time: the addresses are the
same up to their parameters, and the parameters up to those for the time. -/
def SameSearch (u₀ u : Url) (moment : DateTime) (timeType : TimeType) : Prop :=
  { u with query := u₀.query } = u₀ ∧
    ∃ own places options moment₀ timeType₀,
      (places.map Prod.fst = ["from", "to"] ∨ places.map Prod.fst = ["from", "to", "via"]) ∧
      u₀.parameters = own ++ places ++ TripQuery.timing moment₀ timeType₀ ++
        TripQuery.optionParameters options ∧
      u.parameters = own ++ places ++ TripQuery.timing moment timeType ++
        TripQuery.optionParameters options

/-- **Only the time of a query that is moved changes in what is sent.** -/
theorem sameSearch_of_asksFor {first : Exchange σ} {moment : DateTime} {timeType : TimeType}
    (hfirst : first.AsksFor c q) (hpage : (first.token? c p).isSome)
    (h : x.AsksFor c (q.reanchored moment timeType)) :
    ∃ u₀ u, (first.outcome c p).requests = [u₀] ∧ (x.outcome c p).requests = [u] ∧
      SameSearch u₀ u moment timeType := by
  obtain ⟨token, htoken⟩ := Option.isSome_iff_exists.mp hpage
  obtain ⟨ps₀, u₀, -, hps₀, hu₀, hasked₀, -⟩ := exists_context_of_token? hfirst htoken
  obtain ⟨places, hplaces, rfl, hps⟩ := TripQuery.parameters_reanchored hps₀ moment timeType
  -- the address was good for the first query, so it is for the one that is moved
  obtain ⟨base, hbase, rfl⟩ := Client.address_eq_ok_iff.mp hu₀
  have hnext :=
    Client.queryTrips_eq_ask hps (Client.address_eq_ok_iff.mpr ⟨base, hbase, rfl⟩) x.ids
  have hasked : (x.outcome c p).requests =
      [base.withParameters (places ++ (q.reanchored moment timeType).timeParameters)] := by
    rw [outcome, h, hnext]
    rfl
  refine ⟨_, _, hasked₀, hasked, rfl, base.parameters, places, q.options, q.moment, q.timeType,
    TripQuery.names_of_placeParameters hplaces, ?_, ?_⟩
  · -- both are the parameters of the base and of the places with the time and the options behind
    -- them
    rw [Url.parameters_withParameters, TripQuery.timeParameters_eq]
    simp only [List.append_assoc]
  · rw [Url.parameters_withParameters, TripQuery.timeParameters_eq]
    simp only [List.append_assoc]
    rfl

/-- What has asked the provider is answered, and what it is replied is what it answers. -/
theorem answersReply_of_requests {u : Url}
    (hroute : Route.ofPath? x.request.target.path ≠ some .health)
    (h : (x.outcome c p).requests = [u]) :
    ∃ response, (x.outcome c p).answer = some response ∧
      AnswersReply (p u x.before).1 response := by
  have htells := (x.service c).handle_tells x.now hroute
  cases hanswer : (x.outcome c p).answer with
  | none =>
    -- what is given up has asked nothing
    have hdrop := htells.answer_run_eq_none_iff.mp hanswer
    rw [outcome, hdrop] at h
    cases h
  | some response =>
    rcases htells.run p x.before hanswer with ⟨-, hnone⟩ | ⟨u', htold, hasked⟩
    · exact absurd (h.symm.trans hnone) (List.cons_ne_nil u [])
    · obtain rfl := List.head_eq_of_cons_eq (h.symm.trans hasked)
      exact ⟨response, rfl, htold⟩

end Exchange

/-! ### Runs -/

/-- A step of a caller: from the latest answer with trips to one side of it. -/
structure Turn (σ : Type) where
  /-- the latest answer with trips -/
  page : Exchange σ
  later : Bool
  next : Exchange σ

/-- The runs that go on from a first page: the steps, and the latest answer with trips behind
them. A step that finds no trips or fails does not move the caller. -/
inductive Run (c : Client) (p : Provider σ) (first : Exchange σ) :
    List (Turn σ) → Exchange σ → Prop where
  /-- the first answer has trips -/
  | start (h : (first.token? c p).isSome) : Run c p first [] first
  /-- one step more, with the token of the latest page -/
  | step {turns : List (Turn σ)} {page next : Exchange σ} {later : Bool}
    (h : Run c p first turns page) (hnext : next.Follows c p page later) :
    Run c p first (turns ++ [⟨page, later, next⟩])
      (if (next.token? c p).isSome then next else page)

namespace Run

variable {c : Client} {p : Provider σ} {first page : Exchange σ} {turns : List (Turn σ)}

/-- Whether the bounds that the steps of a run start from lie in the years 0 to 9999. -/
def InYears (c : Client) (p : Provider σ) (turns : List (Turn σ)) : Prop :=
  ∀ turn ∈ turns, ∀ t, PageContext.boundOf (turn.page.trips c p) turn.later = some t →
    0 ≤ t.date.year ∧ t.date.year ≤ 9999

/-- Whether a step is accepted, asks the provider once, and asks it for what the first search asked
for, from the minute beyond the bound of the page on the side of the step. A step that is accepted
is reported on, unless the reply itself refuses what was asked. -/
def Keeps (c : Client) (p : Provider σ) (first : Exchange σ) (turn : Turn σ) : Prop :=
  ∃ u₀ u response t moment,
    (first.outcome c p).requests = [u₀] ∧ (turn.next.outcome c p).requests = [u] ∧
      (turn.next.outcome c p).answer = some response ∧
      AnswersReply (p u turn.next.before).1 response ∧
      PageContext.boundOf (turn.page.trips c p) turn.later = some t ∧
      t.addMinutes? (PageContext.minutesBeyond turn.later) = some moment ∧
      Exchange.SameSearch u₀ u moment (PageContext.timeTypeBeyond turn.later)

/-- A provider that refuses nothing has every step reported on. -/
theorem Keeps.exists_isReport {turn : Turn σ} (h : Keeps c p first turn) (hp : p.RefusesNothing) :
    ∃ response, (turn.next.outcome c p).answer = some response ∧ response.status.IsReport := by
  obtain ⟨-, u, response, -, -, -, -, hresponse, hanswers, -⟩ := h
  rcases hanswers with hreport | ⟨hrefuses, -⟩
  · exact ⟨response, hresponse, hreport⟩
  · exact absurd hrefuses (hp u turn.next.before)

theorem isSome_token?_first (h : Run c p first turns page) : (first.token? c p).isSome := by
  induction h with
  | start h => exact h
  | step h hnext ih => exact ih

/-- **The latest page of a run is a page of the first query** at some time. -/
theorem exists_asksFor {q : TripQuery} (h : Run c p first turns page) (hfirst : first.AsksFor c q)
    (hq : q.CarriesOver) (hyears : InYears c p turns) :
    ∃ moment timeType, page.AsksFor c (q.reanchored moment timeType) := by
  induction h with
  | start h => exact ⟨q.moment, q.timeType, hfirst⟩
  | step h hnext ih =>
    -- the new page is the next one if it has trips, and the old one if it has not
    split
    · obtain ⟨moment, timeType, hpage⟩ :=
        ih fun turn hturn => hyears turn (List.mem_append_left _ hturn)
      obtain ⟨-, moment', -, -, hasks⟩ := Exchange.asksFor_of_follows hpage hq hnext
        (hyears _ (List.mem_append_right _ (List.mem_singleton_self _)))
      exact ⟨moment', _, hasks⟩
    · exact ih fun turn hturn => hyears turn (List.mem_append_left _ hturn)

/-- A step from a page of the first query keeps the search. -/
theorem keeps_of_follows {q : TripQuery} {moment : DateTime} {timeType : TimeType}
    {turn : Turn σ} (hfirst : first.AsksFor c q) (hsome : (first.token? c p).isSome)
    (hq : q.CarriesOver) (hpage : turn.page.AsksFor c (q.reanchored moment timeType))
    (hnext : turn.next.Follows c p turn.page turn.later)
    (hyears : ∀ t, PageContext.boundOf (turn.page.trips c p) turn.later = some t →
      0 ≤ t.date.year ∧ t.date.year ≤ 9999) :
    Keeps c p first turn := by
  obtain ⟨t, moment', ht, hmoment', hasks⟩ :=
    Exchange.asksFor_of_follows hpage hq hnext hyears
  obtain ⟨u₀, u, hasked₀, hasked, hsame⟩ := Exchange.sameSearch_of_asksFor hfirst hsome hasks
  have hroute : Route.ofPath? turn.next.request.target.path ≠ some .health := by
    rw [hnext.route]
    decide
  obtain ⟨response, hresponse, hanswers⟩ := Exchange.answersReply_of_requests hroute hasked
  exact ⟨u₀, u, response, t, moment', hasked₀, hasked, hresponse, hanswers, ht, hmoment', hsame⟩

/-- **Paging keeps the search.** Every step of a run that starts with a search is accepted and asks
the provider once. What it asks for has the places and the options of the first search and differs
in the time only, which is the minute beyond the bound of the latest page: after its last departure
or before its first arrival. The bounds have to lie in the years of the calendar that is written
in four digits, and the coordinates of the search have to be read back from their texts. -/
theorem keeps_of_searches {r : TripRequest} (h : Run c p first turns page)
    (hsearch : first.Searches r)
    (hcoords : ((first.service c).queryOf first.now r).CarriesOver)
    (hyears : InYears c p turns) :
    ∀ turn ∈ turns, Keeps c p first turn := by
  obtain ⟨moment, hmoment⟩ := Exchange.exists_momentOf hsearch h.isSome_token?_first
  have hfirst : first.AsksFor c _ := Exchange.asksFor_of_momentOf hsearch hmoment
  -- the places of a query do not depend on its moment
  have hq : ((first.service c).queryOf moment r).CarriesOver := hcoords
  induction h with
  | start h => exact fun turn hturn => absurd hturn List.not_mem_nil
  | step h hnext ih =>
    have hbefore : InYears c p _ := fun turn hturn => hyears turn (List.mem_append_left _ hturn)
    intro turn hturn
    rcases List.mem_append.mp hturn with hturn | hturn
    · exact ih hbefore turn hturn
    · -- the last step starts from a page of the first query
      obtain rfl := List.mem_singleton.mp hturn
      obtain ⟨moment', timeType, hpage⟩ := h.exists_asksFor hfirst hq hbefore
      exact keeps_of_follows hfirst h.isSome_token?_first hq hpage hnext
        (hyears _ (List.mem_append_right _ (List.mem_singleton_self _)))

end Run

/-- The provider that knows one train, in the morning of the first of March. -/
def oneTrain : Provider Unit := fun _ _ =>
  (.ok ("\x7b\"connections\":[\x7b\"legs\":[\x7b\"type\":\"strain\",\"stopid\":\"1\"," ++
    "\"departure\":\"2024-03-01 08:05:00\"," ++
    "\"exit\":\x7b\"stopid\":\"2\",\"arrival\":\"2024-03-01 08:45:00\"\x7d\x7d]\x7d]\x7d"), ())

/-- A search that starts at a coordinate. -/
def searchFromPoint : Exchange Unit :=
  ⟨sequentialIds "trip", midnight, searchToBern "46.9,7.4", ()⟩

theorem keeps_searchFromPoint :
    ∃ page, Run inFrontOfPublic.client oneTrain searchFromPoint
        [⟨searchFromPoint, true, searchFromPoint.step inFrontOfPublic.client oneTrain true⟩] page ∧
      Run.Keeps inFrontOfPublic.client oneTrain searchFromPoint
        ⟨searchFromPoint, true, searchFromPoint.step inFrontOfPublic.client oneTrain true⟩ := by
  let r : TripRequest := ⟨"46.9,7.4", "8507000", none, some "2024-03-01", some "08:00", false⟩
  have hsearch : searchFromPoint.Searches r := ⟨rfl, by decide, by decide +kernel⟩
  have hbound : (PageContext.boundOf (searchFromPoint.trips inFrontOfPublic.client oneTrain)
      true).map (·.date.year) = some 2024 := by
    decide +kernel
  -- the run can be taken without reading the body of the answer
  obtain ⟨moment, hmoment⟩ : ∃ moment, momentOf searchFromPoint.now r.date r.time = .ok moment :=
    exists_eq_ok (by decide +kernel)
  have hsome : (searchFromPoint.token? inFrontOfPublic.client oneTrain).isSome := by
    refine Exchange.isSome_token?_of_trips (Exchange.asksFor_of_momentOf hsearch hmoment) ?_
    intro htrips
    rw [htrips] at hbound
    cases hbound
  have hrun := (Run.start hsome).step (Exchange.follows_step hsome true)
  -- the coordinates of the start are read back, and there are no others
  have hcoords : ((searchFromPoint.service inFrontOfPublic.client).queryOf searchFromPoint.now
      r).CarriesOver := by
    have horigin : (Location.ofTerm "46.9,7.4").coord = some ⟨46.9, 7.4⟩ := by decide +kernel
    have hdestination : (Location.ofTerm "8507000").coord = none := by decide +kernel
    refine ⟨?_, ?_, ?_⟩
    · intro point hpoint
      obtain rfl := Option.some.inj (horigin.symm.trans hpoint)
      constructor
      · rw [Json.CarriesOver]
        decide +kernel
      · rw [Json.CarriesOver]
        decide +kernel
    · intro point hpoint
      cases hdestination.symm.trans hpoint
    · intro place hplace
      cases hplace
  refine ⟨_, hrun, hrun.keeps_of_searches hsearch hcoords ?_ _ (List.mem_singleton_self _)⟩
  -- the one step goes beyond a bound in 2024
  intro turn hturn t ht
  obtain rfl := List.mem_singleton.mp hturn
  rw [ht] at hbound
  have hyear : t.date.year = 2024 := Option.some.inj hbound
  omega

end Itinerary.Service
