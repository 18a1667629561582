import Itinerary.Client
import Itinerary.Proofs.Page
import Itinerary.Proofs.Provider

/-!
# What a client asks and says

A result of a client is either known without the provider or read off one reply, and it shows
which (`request_says`). Where an endpoint has an address, what it replies is read
(`request_answersTo`), and nothing else is told well (`exists_read_of_answer_request`). A query for
trips is refused or asked (`queryTrips_cases`), and what it comes to is read off the trips in the
reply (`readTrips_eq_trips_iff`).
-/

namespace Itinerary

namespace Client

/-! ### What is said -/

/-- Whether a result is one that a client has without the provider. -/
def IsUnasked {α : Type} (result : Result α) : Prop := ∃ e, result = .error e ∧ e.IsRefusal

/-- Whether a result is one that a client has of a reply. -/
inductive IsTold {α : Type} : Reply → Result α → Prop where
  | read {body : String} {a : α} : IsTold (.ok body) (.ok a)
  | unreadable {body : String} {e : Feed.DecodeError} : IsTold (.ok body) (.error (.decode e))
  /-- an error is handed on as it is -/
  | failed {e : ClientError} : IsTold (.error e) (.error e)

/-- Only the address of an endpoint can be wrong before it is asked. -/
theorem request_says {α : Type} (c : Client) (endpoint : Endpoint) (ps : List Parameter)
    (read : String → Except Feed.DecodeError α) :
    (c.request endpoint ps read).Says IsUnasked IsTold := by
  rw [request]
  cases c.address endpoint ps with
  | error fault => exact .answer ⟨_, rfl, trivial⟩
  | ok u =>
    refine .ask fun reply => ?_
    cases reply with
    | error e => exact .failed
    | ok body =>
      -- the body of a reply may be no response, which is said of the reply as well
      show IsTold (.ok body) ((read body).mapError ClientError.decode)
      cases read body with
      | ok a => exact .read
      | error e => exact .unreadable

/-- A query is sent or has a place without a term. -/
theorem queryTrips_says (c : Client) (ids : IdSupply) (q : TripQuery) :
    (c.queryTrips ids q).Says IsUnasked IsTold := by
  rw [queryTrips]
  cases q.parameters with
  | error e => exact .answer ⟨_, rfl, trivial⟩
  | ok ps => exact c.request_says _ _ _

/-- A step from a page is a query, has no bound to start from or gets no answer. -/
theorem queryMoreTrips_says (c : Client) (ids : IdSupply) (context : PageContext) (later : Bool) :
    (c.queryMoreTrips ids context later).Says IsUnasked IsTold := by
  rw [queryMoreTrips]
  cases context.nextQuery later with
  | ok q => exact c.queryTrips_says ids q
  | error e =>
    cases e with
    | noBound => exact .answer ⟨_, rfl, trivial⟩
    | offCalendar => exact .drop

/-! ### What is asked -/

/-- The address of an endpoint is that of the endpoint without parameters, and then those. -/
theorem address_eq_ok_iff {c : Client} {endpoint : Endpoint} {ps : List Parameter} {u : Url} :
    c.address endpoint ps = .ok u ↔
      ∃ base, Url.parse (c.baseUrl ++ "/" ++ endpoint.segment) = .ok base ∧
        base.withParameters ps = u := by
  rw [address]
  exact map_eq_ok_iff

/-- **What an endpoint replies is read**, if the endpoint has an address. -/
theorem request_answersTo {α : Type} {c : Client} {endpoint : Endpoint} {base : Url}
    (hbase : Url.parse (c.baseUrl ++ "/" ++ endpoint.segment) = .ok base) (ps : List Parameter)
    {read : String → Except Feed.DecodeError α} {body : String} {a : α} (ha : read body = .ok a) :
    (c.request endpoint ps read).AnswersTo (.ok body) (.ok a) := by
  have hanswer : (Except.ok a : Result α) = (read body).mapError .decode := by
    rw [ha]
    rfl
  rw [request, address_eq_ok_iff.mpr ⟨base, hbase, rfl⟩, hanswer]
  exact Call.answersTo_askOnce _ _ _

/-- Nothing is told well that is not read. -/
theorem exists_read_of_answer_request {α σ : Type} {c : Client} {endpoint : Endpoint}
    {ps : List Parameter} {read : String → Except Feed.DecodeError α} {p : Provider σ} {s : σ}
    {a : α}
    (h : ((c.request endpoint ps read).run p s).answer = some (.ok a)) :
    ∃ body, read body = .ok a := by
  rw [request] at h
  cases hu : c.address endpoint ps with
  | error fault =>
    rw [hu] at h
    cases h
  | ok u =>
    rw [hu] at h
    -- what was told was made of the one reply
    dsimp only [Call.run_askOnce] at h
    cases hreply : (p u s).1 with
    | error fault =>
      rw [hreply] at h
      cases h
    | ok body =>
      rw [hreply] at h
      exact ⟨body, mapError_eq_ok_iff.mp (Option.some.inj h)⟩

/-- The trips that are found in a reply. -/
def tripsIn (ids : IdSupply) : Reply → List Trip
  | .ok body =>
    match Feed.decodeRoute body with
    | .ok (.connections cs) => Feed.tripsOf ids cs
    | _ => []
  | .error _ => []

/-- What a query comes to by a reply. -/
def readTrips (ids : IdSupply) (q : TripQuery) : Reply → Result TripsResult
  | .ok body => ((Feed.decodeRoute body).map (TripsResult.ofOutcome ids q)).mapError .decode
  | .error e => .error e

/-- Where the address of a query is known, it is asked. -/
theorem queryTrips_eq_ask {c : Client} {q : TripQuery} {ps : List Parameter} {u : Url}
    (hps : q.parameters = .ok ps) (hu : c.address .route ps = .ok u) (ids : IdSupply) :
    c.queryTrips ids q = .askOnce u (readTrips ids q) := by
  rw [queryTrips, hps]
  dsimp only
  rw [request, hu]
  dsimp only
  congr 1
  funext reply
  cases reply <;> rfl

/-- A query is refused or asked. -/
theorem queryTrips_cases (c : Client) (ids : IdSupply) (q : TripQuery) :
    (∃ e, c.queryTrips ids q = .answer (.error e)) ∨
      ∃ ps u, q.parameters = .ok ps ∧ c.address .route ps = .ok u ∧
        c.queryTrips ids q = .askOnce u (readTrips ids q) := by
  cases hps : q.parameters with
  | error e =>
    rw [queryTrips, hps]
    exact .inl ⟨_, rfl⟩
  | ok ps =>
    cases hu : c.address .route ps with
    | error fault =>
      rw [queryTrips, hps]
      dsimp only
      rw [request, hu]
      exact .inl ⟨_, rfl⟩
    | ok u => exact .inr ⟨ps, u, rfl, hu, queryTrips_eq_ask hps hu ids⟩

/-- **A query comes to the trips in the reply**, if they make the context of a page. -/
theorem readTrips_eq_trips_iff {ids : IdSupply} {q : TripQuery} {reply : Reply} {trips : List Trip}
    {context : PageContext} :
    readTrips ids q reply = .ok (.trips trips context) ↔
      trips = tripsIn ids reply ∧ PageContext.ofTrips trips q = some context := by
  -- where the reply has no connections, neither side has trips
  have hnone : ∀ result : Result TripsResult,
      (∀ trips context, result ≠ .ok (.trips trips context)) →
      (result = .ok (.trips trips context) ↔
        trips = [] ∧ PageContext.ofTrips trips q = some context) := by
    refine fun result hresult => ⟨fun h => absurd h (hresult _ _), ?_⟩
    rintro ⟨rfl, h⟩
    cases h
  cases reply with
  | error fault => exact hnone _ fun _ _ h => nomatch h
  | ok body =>
    rw [readTrips, tripsIn]
    cases Feed.decodeRoute body with
    | error e => exact hnone _ fun _ _ h => nomatch h
    | ok outcome =>
      cases outcome with
      | noResult reason => exact hnone _ fun _ _ h => nomatch h
      | connections cs =>
        rw [Except.map, Except.mapError, TripsResult.ofOutcome, TripsResult.ofConnections]
        dsimp only
        -- where it has some, both sides ask whether the trips make a page
        cases hfound : PageContext.ofTrips (Feed.tripsOf ids cs) q with
        | none =>
          refine ⟨fun h => (nomatch h), ?_⟩
          rintro ⟨rfl, h⟩
          rw [hfound] at h
          cases h
        | some context' =>
          constructor
          · intro h
            cases h
            exact ⟨rfl, hfound⟩
          · rintro ⟨rfl, h⟩
            rw [hfound] at h
            cases h
            rfl

end Client

end Itinerary
