import Itinerary.Service.Response
import Itinerary.Service.Target

/-!
# The service

Callers ask the service for places and trips. A request goes through three gates before the
provider is asked: the route has to exist and be asked for with the right method, its parameters
have to be read from the query, and what they say has to make sense. Only then is there a call
of the client, whose result becomes the response. `Service.handle` is the whole of it, as a
`Call`.

Main definitions:

* `Service.Request`, `Service.Route`: what is asked, and what can be asked for.
* `Service.queryOf`: the query that a search for trips stands for.
* `Service.handle`: the response to a request.
-/

namespace Itinerary

open Calendar

/-- The service: a client, and identifiers for its trips. -/
structure Service where
  client : Client
  /-- the identifiers of the trips of a response -/
  ids : IdSupply

namespace Service

/-! ### Requests -/

/-- What is done with a target. -/
inductive Method where
  /-- its content is wanted -/
  | get
  /-- its content is wanted without the body -/
  | head
  /-- anything else -/
  | other
deriving DecidableEq, Repr

/-- The method of a name. -/
def Method.ofName : String → Method
  | "GET" => .get
  | "HEAD" => .head
  | _ => .other

/-- A request of a caller. -/
structure Request where
  method : Method
  target : Target
deriving DecidableEq, Repr

/-- What can be asked for. -/
inductive Route where
  | health
  | places
  | nearby
  | trips
  /-- the page before or after another -/
  | more
deriving DecidableEq, Repr

/-- The route of a path. -/
def Route.ofPath? : String → Option Route
  | "/health" => some .health
  | "/api/locations" => some .places
  | "/api/locations/nearby" => some .nearby
  | "/api/trips" => some .trips
  | "/api/trips/more" => some .more
  | _ => none

/-! ### Places -/

/-- How many places are shown if the caller does not say. -/
def defaultLimit : Nat := 10

/-- How many places are shown at most. -/
def maxLimit : Nat := 50

/-- How many places are shown. -/
def limitOf (wanted : Option Nat) : Nat := min (wanted.getD defaultLimit) maxLimit

/-- Answers a search for places by a text, blanks around it aside. -/
def answerPlaces (s : Service) (r : PlaceRequest) : Call Response :=
  let term := Text.trim r.term
  if term.isEmpty then
    .answer (ServiceError.badRequest "Query must not be empty").response
  else (s.client.suggestPlaces term (limitOf r.limit)).map (.ofResult placesBody)

/-- Answers a search for places near a coordinate. -/
def answerNearby (s : Service) (r : NearbyRequest) : Call Response :=
  let p : Point := ⟨r.lat, r.lon⟩
  if Point.inRange r.lat r.lon then
    (s.client.nearbyPlaces p r.accuracy (limitOf r.limit)).map (.ofResult placesBody)
  else
    .answer (ServiceError.badRequest ("Coordinate out of range: " ++ p.display)).response

/-! ### Trips -/

/-- The date that a caller gives, or today. -/
def dateOf (today : Date) (date : Option String) : Except ServiceError Date :=
  match date with
  | none => .ok today
  | some d =>
    match (dashedDate.readFields d).bind Fields.date? with
    | some date => .ok date
    | none => .error (.badRequest ("Invalid date (expected YYYY-MM-DD): " ++ d))

/-- The time of day that a caller gives, or now. -/
def clockOf (now : Clock) (time : Option String) : Except ServiceError Clock :=
  match time with
  | none => .ok now
  | some t =>
    match (hourMinute.readFields t).bind Fields.clock? with
    | some clock => .ok clock
    | none => .error (.badRequest ("Invalid time (expected HH:MM): " ++ t))

/-- The moment that a caller asks about; what is not given is that of now. -/
def momentOf (now : DateTime) (date time : Option String) : Except ServiceError DateTime := do
  return ⟨← dateOf now.date date, ← clockOf now.clock time⟩

/-- The query of a search for trips. A blank place in between is none. -/
def queryOf (s : Service) (moment : DateTime) (r : TripRequest) : TripQuery where
  origin := .ofTerm r.origin
  destination := .ofTerm r.destination
  via := (r.via.filter fun v => !Text.isBlankText v).map .ofTerm
  moment := moment
  timeType := if r.arrival then .arrival else .depart
  options := s.client.tripOptions

/-- Answers a search for trips. -/
def answerTrips (s : Service) (now : DateTime) (r : TripRequest) : Call Response :=
  match momentOf now r.date r.time with
  | .error e => .answer e.response
  | .ok moment => (s.client.queryTrips s.ids (s.queryOf moment r)).map .ofTrips

/-- Answers a step from a page. -/
def answerMore (s : Service) (r : MoreRequest) : Call Response :=
  match PageContext.ofToken r.token with
  | .error fault => .answer (ServiceError.badRequest fault.message).response
  | .ok context =>
    (s.client.queryMoreTrips s.ids context r.later).map .ofTrips

/-! ### All requests -/

/-- Goes on with a request, unless the query does not make one. -/
def withRequest {α : Type} (r : Except ParameterFault α) (next : α → Call Response) :
    Call Response :=
  match r with
  | .ok a => next a
  | .error fault => .answer (.ofParameterFault fault)

/-- Answers what is asked for with a query. -/
def answer (s : Service) (now : DateTime) (route : Route) (query : String) : Call Response :=
  match route with
  | .health => .answer (.text .ok "ok")
  | .places => withRequest (PlaceRequest.ofQuery query) s.answerPlaces
  | .nearby => withRequest (NearbyRequest.ofQuery query) s.answerNearby
  | .trips => withRequest (TripRequest.ofQuery query) (s.answerTrips now)
  | .more => withRequest (MoreRequest.ofQuery query) s.answerMore

/-- Handles a request. -/
def handle (s : Service) (now : DateTime) (r : Request) : Call Response :=
  match Route.ofPath? r.target.path, r.method with
  -- an unknown path is not found whatever the method is
  | none, _ => .answer (.bare .notFound)
  | some route, .get => s.answer now route r.target.query
  | some route, .head => (s.answer now route r.target.query).map Response.withoutBody
  | some _, .other => .answer (.bare .methodNotAllowed)

end Service

end Itinerary
