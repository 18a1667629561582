import Itinerary.Proofs.Client.Address
import Itinerary.Proofs.Feed.Selection
import Itinerary.Proofs.Page.Bounds

/-!
# What a query comes to

A query that can be sent is asked once, and what it comes to is decided by the body of the reply
(`Client.Reads`). A body that is no response is an error of decoding. A response with an error text
has no result for that reason, whatever else it holds, and one that has only messages has none for
these. If there are connections, the question is whether any of them makes a trip
(`Feed.tripsOf_eq_nil_iff`): if none does there is no result, and otherwise there are trips with the
context of their page.

That such a context has both of its bounds rests on the trips: each of them has a ride.
-/

namespace Itinerary

/-! ### Usable connections -/

/-- **There are trips unless no connection makes one.** -/
theorem Feed.tripsOf_eq_nil_iff {ids : IdSupply} {cs : List Feed.Connection} :
    Feed.tripsOf ids cs = [] ↔ ∀ c ∈ cs, ¬ c.IsUsable := by
  have hlength := (Feed.forall₂_tripsOf ids cs).length_eq
  rw [← List.length_eq_zero_iff, ← hlength, List.length_eq_zero_iff, List.eq_nil_iff_forall_not_mem]
  constructor
  · intro hnone c hc husable
    obtain ⟨i, hi⟩ := List.mem_iff_getElem?.mp hc
    exact hnone i (Feed.mem_usablePositions.mpr ⟨c, hi, husable⟩)
  · intro hall i hi
    obtain ⟨c, hget, husable⟩ := Feed.mem_usablePositions.mp hi
    exact hall c (List.mem_of_getElem? hget) husable

namespace PageContext

/-- Whether a context belongs to a page of trips: it can be stepped from to either side, and the
bounds are times of rides, the first ride of the last trip and the last ride of the first. -/
structure IsOf (c : PageContext) (trips : List Trip) : Prop where
  later : c.canStepLater = true
  earlier : c.canStepEarlier = true
  latest : ∃ last ride, trips.getLast? = some last ∧ last.rides.head? = some ride ∧
    c.latestDeparture = some ride.departureTime.planned
  earliest : ∃ first ride, trips.head? = some first ∧ first.rides.getLast? = some ride ∧
    c.earliestArrival = some ride.arrivalTime.planned

/-- **The context that is made of trips belongs to them.** -/
theorem isOf_of_ofTrips {trips : List Trip} {q : TripQuery} {c : PageContext}
    (h : ofTrips trips q = some c) : c.IsOf trips := by
  obtain ⟨first, last, hfirst, hlast, rfl⟩ := ofTrips_eq_some_iff.mp h
  refine ⟨rfl, rfl, ⟨last, last.rides.head last.rides_ne_nil, hlast, ?_, rfl⟩,
    ⟨first, first.rides.getLast first.rides_ne_nil, hfirst, ?_, rfl⟩⟩
  · exact List.head?_eq_some_head last.rides_ne_nil
  · exact List.getLast?_eq_some_getLast first.rides_ne_nil

end PageContext

namespace Client

/-! ### What a body comes to -/

/-- What a query comes to if this is the body of the reply. -/
structure Reads (ids : IdSupply) (q : TripQuery) (body : String) (result : Result TripsResult) :
    Prop where
  /-- The only error is one of decoding, and it is told exactly if the body is refused. -/
  decode : ∀ e, result = .error e ↔ ∃ fault, Feed.decodeRoute body = .error fault ∧
    e = .decode fault
  /-- An error text is the reason for no result, whatever stands beside it. -/
  error : ∀ r reason, Feed.Response.reader.parse body = some r → r.error = some reason →
    result = .ok (.noResult reason)
  /-- Messages alone are the reason, one after the other. -/
  messages : ∀ r messages, Feed.Response.reader.parse body = some r → r.error = none →
    r.connections = none → r.messages = some messages →
    result = .ok (.noResult (String.intercalate "; " messages))
  /-- Of connections there is no result exactly if none of them makes a trip. -/
  unusable : ∀ r cs, Feed.Response.reader.parse body = some r → r.error = none →
    r.connections = some cs →
    ((∃ reason, result = .ok (.noResult reason)) ↔ ∀ c ∈ cs, ¬ c.IsUsable)
  /-- Of any other connections there are trips, and the context of their page. -/
  trips : ∀ r cs, Feed.Response.reader.parse body = some r → r.error = none →
    r.connections = some cs → (∃ c ∈ cs, c.IsUsable) →
    ∃ trips context, result = .ok (.trips trips context) ∧ trips = Feed.tripsOf ids cs ∧
      trips ≠ [] ∧ context.query = q ∧ context.IsOf trips

section

variable {ids : IdSupply} {q : TripQuery} {body : String} {r : Feed.Response}
  {cs : List Feed.Connection}

/-- Connections of which none makes a trip come to nothing, and their number is told. -/
theorem TripsResult.ofConnections_of_forall (h : ∀ c ∈ cs, ¬ c.IsUsable) :
    TripsResult.ofConnections ids q cs = .noResult (reasonFor cs.length) := by
  have hnone : PageContext.ofTrips (Feed.tripsOf ids cs) q = none :=
    PageContext.ofTrips_eq_none_iff.mpr (Feed.tripsOf_eq_nil_iff.mpr h)
  rw [TripsResult.ofConnections]
  simp only [hnone]

/-- Any other connections come to their trips. -/
theorem TripsResult.ofConnections_of_exists (ids : IdSupply) (q : TripQuery)
    (h : ∃ c ∈ cs, c.IsUsable) :
    ∃ context, TripsResult.ofConnections ids q cs = .trips (Feed.tripsOf ids cs) context ∧
      Feed.tripsOf ids cs ≠ [] ∧ PageContext.ofTrips (Feed.tripsOf ids cs) q = some context := by
  have hne : Feed.tripsOf ids cs ≠ [] := by
    intro hnil
    obtain ⟨c, hc, husable⟩ := h
    exact Feed.tripsOf_eq_nil_iff.mp hnil c hc husable
  obtain ⟨context, hcontext⟩ := PageContext.exists_ofTrips hne q
  refine ⟨context, ?_, hne, hcontext⟩
  rw [TripsResult.ofConnections]
  simp only [hcontext]

/-- A response is read for what it says. -/
theorem readTrips_of_parse (h : Feed.Response.reader.parse body = some r) :
    readTrips ids q (.ok body) =
      (r.outcome.map (TripsResult.ofOutcome ids q)).mapError .decode := by
  rw [readTrips, Feed.decodeRoute, h]

/-- Connections are read for their trips, if no error text stands beside them. -/
theorem readTrips_of_connections (h : Feed.Response.reader.parse body = some r)
    (herror : r.error = none) (hcs : r.connections = some cs) :
    readTrips ids q (.ok body) = .ok (.ofConnections ids q cs) := by
  rw [readTrips_of_parse h, Feed.Response.outcome, herror, hcs]
  rfl

/-- **The body of a reply is read as it is said.** -/
theorem reads_readTrips (ids : IdSupply) (q : TripQuery) (body : String) :
    Reads ids q body (readTrips ids q (.ok body)) where
  -- a fault of decoding is handed on and nothing else makes one
  decode e := by
    rw [readTrips, mapError_eq_error_iff]
    cases Feed.decodeRoute body with
    | ok outcome => constructor <;> (rintro ⟨_, h, -⟩; cases h)
    | error fault => constructor <;> (rintro ⟨_, h, rfl⟩; cases h; exact ⟨fault, rfl, rfl⟩)
  error r reason hr herror := by
    rw [readTrips_of_parse hr, Feed.Response.outcome, herror]
    rfl
  messages r messages hr herror hcs hmessages := by
    rw [readTrips_of_parse hr, Feed.Response.outcome, herror, hcs, hmessages]
    rfl
  unusable r cs hr herror hcs := by
    rw [readTrips_of_connections hr herror hcs]
    constructor
    · rintro ⟨reason, hreason⟩ c hc husable
      -- a connection that makes a trip would have been shown
      obtain ⟨context, htrips, -⟩ :=
        TripsResult.ofConnections_of_exists ids q ⟨c, hc, husable⟩
      rw [htrips] at hreason
      cases hreason
    · intro hall
      exact ⟨_, congrArg _ (TripsResult.ofConnections_of_forall hall)⟩
  -- the page is made of the trips that are found, and of the query itself
  trips r cs hr herror hcs husable := by
    obtain ⟨context, htrips, hne, hcontext⟩ :=
      TripsResult.ofConnections_of_exists ids q husable
    obtain ⟨hquery, -⟩ := PageContext.ofTrips_eq_some hcontext
    refine ⟨_, context, ?_, rfl, hne, hquery, PageContext.isOf_of_ofTrips hcontext⟩
    rw [readTrips_of_connections hr herror hcs, htrips]

end

/-! ### Queries that are asked -/

/-- Whether the endpoint for trips has an address below the base of a client. -/
def HasRoute (c : Client) : Prop :=
  ∃ u, Url.parse (c.baseUrl ++ "/" ++ Endpoint.route.segment) = .ok u

theorem hasRoute_of_isBaseOf {config : ClientConfig} {base : Url}
    (h : base.IsBaseOf config.baseUrl) : (ofConfig config).HasRoute := by
  obtain ⟨root, -, -, -, -, -, hchild⟩ := h.exists_root
  exact ⟨_, hchild _ Endpoint.route.isName Endpoint.route.isPathText⟩

/-- **What a query comes to.** A client whose endpoint has an address asks it exactly once for a
query of which every place has a term, and whatever body it is given, that is read as `Reads` has
it. No context that is made of trips lacks a bound. -/
theorem queryTrips_reads {c : Client} {q : TripQuery} (hc : c.HasRoute) (hq : ¬ q.IsUnresolvable)
    (ids : IdSupply) :
    (∃ u, ∀ (σ : Type) (p : Provider σ) (s : σ),
      ((c.queryTrips ids q).run p s).requests = [u] ∧
      ∀ body, (p u s).1 = .ok body →
        ∃ result, ((c.queryTrips ids q).run p s).answer = some result ∧
          Reads ids q body result) ∧
    ∀ trips query context, PageContext.ofTrips trips query = some context →
      context.latestDeparture ≠ none ∧ context.earliestArrival ≠ none := by
  refine ⟨?asked, ?bounds⟩
  case asked =>
    obtain ⟨base, hbase⟩ := hc
    obtain ⟨ps, hps⟩ := TripQuery.exists_parameters hq
    have hu : c.address .route ps = .ok (base.withParameters ps) :=
      address_eq_ok_iff.mpr ⟨base, hbase, rfl⟩
    -- the address does not depend on the reply, and the reply is read once
    refine ⟨base.withParameters ps, fun σ p s => ?_⟩
    rw [queryTrips_eq_ask hps hu, Call.run_askOnce]
    refine ⟨rfl, fun body hbody => ⟨_, rfl, ?_⟩⟩
    rw [hbody]
    exact reads_readTrips ids q body
  case bounds =>
    intro trips query context h
    obtain ⟨first, last, -, -, rfl⟩ := PageContext.ofTrips_eq_some_iff.mp h
    exact ⟨Option.some_ne_none _, Option.some_ne_none _⟩

/-- A body with an error text beside a connection. -/
def errorBody : String :=
  "\x7b\"error\":\"Stop not found\",\"connections\":[\x7b\"legs\":[\x7b\"stopid\":\"1\"," ++
    "\"departure\":\"2024-03-01 08:05:00\"," ++
    "\"exit\":\x7b\"stopid\":\"2\",\"arrival\":\"2024-03-01 08:45:00\"\x7d\x7d]\x7d]\x7d"

/-- A body with a train and one that leaves and arrives behind it. -/
def twoTrainsBody : String :=
  "\x7b\"connections\":[\x7b\"legs\":[\x7b\"type\":\"strain\",\"stopid\":\"1\"," ++
    "\"departure\":\"2024-03-01 08:05:00\"," ++
    "\"exit\":\x7b\"stopid\":\"2\",\"arrival\":\"2024-03-01 08:45:00\"\x7d\x7d]\x7d," ++
    "\x7b\"legs\":[\x7b\"type\":\"strain\",\"stopid\":\"1\"," ++
    "\"departure\":\"2024-03-01 08:20:00\"," ++
    "\"exit\":\x7b\"stopid\":\"2\",\"arrival\":\"2024-03-01 09:00:00\"\x7d\x7d]\x7d]\x7d"

/-- The provider that always replies with a body. -/
def saying (body : String) : Provider Unit := fun _ _ => (.ok body, ())

/-- What a query comes to with that body. -/
def queryWith (body : String) : Call.Outcome (Result TripsResult) Unit :=
  ((ofConfig localConfig).queryTrips (sequentialIds "trip") jointedQuery).run (saying body) ()

theorem queryTrips_reads_twoBodies :
    (∃ u, (queryWith errorBody).requests = [u] ∧
      (queryWith errorBody).answer = some (.ok (.noResult "Stop not found"))) ∧
    ∃ u trips context, (queryWith twoTrainsBody).requests = [u] ∧
      (queryWith twoTrainsBody).answer = some (.ok (.trips trips context)) ∧
      trips ≠ [] ∧ context.IsOf trips ∧
      context.latestDeparture ≠ none ∧ context.earliestArrival ≠ none := by
  have hq : ¬ jointedQuery.IsUnresolvable := by
    rintro (h | h | ⟨via, hvia, -⟩)
    · exact absurd h (by decide)
    · exact absurd h (by decide)
    · cases hvia
  obtain ⟨⟨u, hasked⟩, -⟩ :=
    queryTrips_reads (hasRoute_of_isBaseOf isBaseOf_localConfig) hq (sequentialIds "trip")
  refine ⟨?error, ?trains⟩
  case error =>
    obtain ⟨hrequests, hreads⟩ := hasked Unit (saying errorBody) ()
    obtain ⟨result, hanswer, hresult⟩ := hreads errorBody rfl
    -- of the body itself only its error is computed
    have hbody : (Feed.Response.reader.parse errorBody).map (·.error) =
        some (some "Stop not found") := by
      decide +kernel
    obtain ⟨r, hr, herror⟩ := Option.map_eq_some_iff.mp hbody
    exact ⟨u, hrequests, hanswer.trans (congrArg some (hresult.error r _ hr herror))⟩
  case trains =>
    obtain ⟨hrequests, hreads⟩ := hasked Unit (saying twoTrainsBody) ()
    obtain ⟨result, hanswer, hresult⟩ := hreads twoTrainsBody rfl
    have hbody : (Feed.Response.reader.parse twoTrainsBody).map (fun r => (r.error,
        r.connections.map (·.any fun c => (c.interpret ⟨"trip-0"⟩).toOption.isSome))) =
        some (none, some true) := by
      decide +kernel
    obtain ⟨r, hr, hshape⟩ := Option.map_eq_some_iff.mp hbody
    obtain ⟨herror, hconnections⟩ := Prod.mk.inj hshape
    obtain ⟨cs, hcs, hany⟩ := Option.map_eq_some_iff.mp hconnections
    obtain ⟨c, hc, hsome⟩ := List.any_eq_true.mp hany
    -- a connection that makes a trip under one identifier is usable
    have husable : c.IsUsable := by
      refine ⟨⟨"trip-0"⟩, ?_⟩
      cases h : c.interpret ⟨"trip-0"⟩ with
      | ok t => exact ⟨t, rfl⟩
      | error e =>
        rw [h] at hsome
        cases hsome
    obtain ⟨trips, context, htrips, -, hne, -, hof⟩ :=
      hresult.trips r cs hr herror hcs ⟨c, hc, husable⟩
    -- the bounds come with the trips, so they need not be computed
    obtain ⟨_, first, -, -, hlatest⟩ := hof.latest
    obtain ⟨_, last, -, -, hearliest⟩ := hof.earliest
    refine ⟨u, trips, context, hrequests, hanswer.trans (congrArg some htrips), hne, hof, ?_, ?_⟩
    · rw [hlatest]
      exact Option.some_ne_none _
    · rw [hearliest]
      exact Option.some_ne_none _

end Client

end Itinerary
