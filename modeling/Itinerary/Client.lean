import Itinerary.Feed.Interpretation
import Itinerary.Page
import Itinerary.Provider

/-!
# The client

A client turns queries into requests and replies into trips and places. Each of its functions is
a `Call`: parameters and address are put together first, so what cannot be sent is refused before
the provider is asked, and what comes back is only looked at in the reply. An error that the
provider replies is handed on as it is.

Connections that make no trip are left out of the answer. If none is left there is no result,
which is not an error, so every answer with trips also has the context of its page.

How many requests may be under way and how long one may take are parts of the configuration that
only the network looks at, so a client does not keep them.

Main definitions:

* `Client.queryTrips`: the trips of a query, with the context of their page.
* `Client.queryMoreTrips`: the page before or after another.
* `Client.suggestPlaces`, `Client.nearbyPlaces`: places by a text or near a coordinate.
-/

namespace Itinerary

/-! ### Configuration -/

/-- How a client is set up. -/
structure ClientConfig where
  /-- the address in front of the endpoints -/
  baseUrl : String
  /-- how many requests may be under way at a time -/
  maxConcurrent : Nat
  /-- how many seconds a request may take -/
  timeoutSeconds : Nat
  /-- how many trips a query asks for -/
  maxTrips : UInt32
deriving DecidableEq, Repr

/-- The public service, four requests at a time of thirty seconds each, and eight trips. -/
def ClientConfig.standard : ClientConfig := ⟨"https://timetable.search.ch/api", 4, 30, 8⟩

/-- A client. -/
structure Client where
  /-- the address in front of the endpoints, without slashes at its end -/
  baseUrl : String
  maxTrips : UInt32
deriving DecidableEq, Repr

/-- A text without the slashes it ends with. -/
def trimSlashes (s : String) : String :=
  String.ofList (s.toList.reverse.dropWhile (· = '/')).reverse

/-- What a client has for a caller. -/
abbrev Client.Result (α : Type) := Except ClientError α

namespace Client

/-- The client of a configuration. -/
def ofConfig (config : ClientConfig) : Client := ⟨trimSlashes config.baseUrl, config.maxTrips⟩

/-- The options that a query starts from. -/
def tripOptions (c : Client) : TripOptions := { TripOptions.standard with maxTrips := c.maxTrips }

/-! ### Requests -/

/-- The endpoints of the provider. -/
inductive Endpoint where
  | route
  | completion
deriving DecidableEq, Repr

/-- The last segment of the address of an endpoint. -/
def Endpoint.segment : Endpoint → String
  | .route => "route.json"
  | .completion => "completion.json"

/-- The address of an endpoint with parameters. -/
def address (c : Client) (endpoint : Endpoint) (ps : List Parameter) : Except Url.Fault Url :=
  (Url.parse (c.baseUrl ++ "/" ++ endpoint.segment)).map (·.withParameters ps)

/-- Asks an endpoint and reads the body of the reply. -/
def request {α : Type} (c : Client) (endpoint : Endpoint) (ps : List Parameter)
    (read : String → Except Feed.DecodeError α) : Call (Result α) :=
  match c.address endpoint ps with
  | .error fault => .answer (.error (.address fault))
  | .ok u => .askOnce u fun reply =>
    -- a failed request has no body to be read
    match reply with
    | .error e => .error e
    | .ok body => (read body).mapError .decode

/-! ### Trips -/

/-- What a query for trips comes to. -/
inductive TripsResult where
  | trips (trips : List Trip) (context : PageContext)
  /-- nothing, for a reason -/
  | noResult (reason : String)

/-- The reason given if no trip is left of so many connections. -/
def reasonFor (connections : Nat) : String :=
  if connections = 0 then "no connections"
  else "none of the " ++ toString connections ++ " connections could be decoded"

/-- What some connections come to. -/
def TripsResult.ofConnections (ids : IdSupply) (q : TripQuery) (cs : List Feed.Connection) :
    TripsResult :=
  let found := Feed.tripsOf ids cs
  match PageContext.ofTrips found q with
  | some context => .trips found context
  | none => .noResult (reasonFor cs.length)

/-- What a response comes to. -/
def TripsResult.ofOutcome (ids : IdSupply) (q : TripQuery) : Feed.RouteOutcome → TripsResult
  | .connections cs => .ofConnections ids q cs
  | .noResult reason => .noResult reason

/-- Asks for the trips of a query. -/
def queryTrips (c : Client) (ids : IdSupply) (q : TripQuery) : Call (Result TripsResult) :=
  match q.parameters with
  | .error e => .answer (.error (.query e))
  | .ok ps =>
    c.request .route ps fun body => (Feed.decodeRoute body).map (TripsResult.ofOutcome ids q)

/-- Asks for the page before or after another. A page whose neighbour lies outside the calendar
gets no answer. -/
def queryMoreTrips (c : Client) (ids : IdSupply) (context : PageContext) (later : Bool) :
    Call (Result TripsResult) :=
  match context.nextQuery later with
  | .ok q => c.queryTrips ids q
  | .error .noBound => .answer (.error .noMoreResults)
  | .error .offCalendar => .drop

/-! ### Places -/

/-- The first usable places of a body. -/
def readPlaces (limit : Nat) (body : String) : Except Feed.DecodeError (List Location) :=
  (Feed.decodeSuggestions body).map fun suggestions =>
    (suggestions.filterMap Feed.Suggestion.location?).take limit

/-- Ids and coordinates are wanted with the places. -/
def placeDetails : List Parameter := [("show_ids", "1"), ("show_coordinates", "1")]

/-- Asks for places by a text. -/
def suggestPlaces (c : Client) (term : String) (limit : Nat) : Call (Result (List Location)) :=
  c.request .completion (("term", term) :: placeDetails) (readPlaces limit)

/-- Asks for places near a coordinate, perhaps within so many metres. -/
def nearbyPlaces (c : Client) (p : Point) (accuracy : Option Nat) (limit : Nat) :
    Call (Result (List Location)) :=
  let radius := (accuracy.map fun metres => ("accuracy", toString metres)).toList
  c.request .completion (("latlon", p.display) :: placeDetails ++ radius) (readPlaces limit)

end Client

end Itinerary
