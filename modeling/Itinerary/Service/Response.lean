import Itinerary.Client
import Itinerary.Service.Entry
import Itinerary.Service.Parameters
import Itinerary.Token

/-!
# Responses of the service

A response is a status, perhaps a type of content, and a body. What went well is shown as a
record; what did not is an error with one of four statuses and a message. An error of the client
is the caller's own where the query cannot be sent, says that nothing is found where the page has
no bound, and is the provider's in every other case. An error of the service itself is that a token
cannot be written.
-/

namespace Itinerary.Service

open Json

/-- How a request went. -/
inductive Status where
  | ok
  /-- it cannot be answered as it is -/
  | badRequest
  /-- there is nothing of that kind -/
  | notFound
  /-- it can only be read, not written -/
  | methodNotAllowed
  | internal
  | badGateway
deriving DecidableEq, Repr

/-- The number of a status. -/
def Status.code : Status → Nat
  | .ok => 200
  | .badRequest => 400
  | .notFound => 404
  | .methodNotAllowed => 405
  | .internal => 500
  | .badGateway => 502

/-- What a body is. -/
inductive ContentType where
  | text
  | json
deriving DecidableEq, Repr

/-- The name of a type of content. -/
def ContentType.name : ContentType → String
  | .text => "text/plain; charset=utf-8"
  | .json => "application/json"

/-- A response. -/
structure Response where
  status : Status
  /-- what the body is, if there is one -/
  contentType : Option ContentType
  body : String
deriving DecidableEq, Repr

namespace Response

/-- A response without a body. -/
def bare (status : Status) : Response := ⟨status, none, ""⟩

/-- A response in plain text. -/
def text (status : Status) (body : String) : Response := ⟨status, some .text, body⟩

/-- A response in JSON. -/
def json (status : Status) (v : Value) : Response := ⟨status, some .json, v.write⟩

/-- The response with its body left out. -/
def withoutBody (r : Response) : Response := { r with body := "" }

/-- The response to a query that makes no request. -/
def ofParameterFault (f : ParameterFault) : Response := text .badRequest f.message

end Response

/-! ### Errors -/

/-- Why a request is not answered as it was meant. -/
inductive ServiceError where
  | badRequest (message : String)
  | notFound (message : String)
  | provider (message : String)
  | internal (message : String)
deriving DecidableEq, Repr

namespace ServiceError

/-- The status of an error. -/
def status : ServiceError → Status
  | .badRequest _ => .badRequest
  | .notFound _ => .notFound
  | .provider _ => .badGateway
  | .internal _ => .internal

/-- The wording of an error. -/
def message : ServiceError → String
  | .badRequest m => m
  | .notFound m => m
  | .provider m => m
  | .internal m => m

/-- The response that tells of an error. -/
def response (e : ServiceError) : Response :=
  .json e.status (.record [("error", .string e.message)])

/-- The error that an error of the client is for the caller. -/
def ofClient (e : ClientError) : ServiceError :=
  match e with
  | .query _ => .badRequest e.message
  | .address _ => .badRequest e.message
  | .noMoreResults => .notFound e.message
  | .provider _ => .provider e.message
  | .decode _ => .provider e.message

end ServiceError

/-! ### Answers -/

/-- The body of an answer with trips: the trips, the token of their page, and which neighbours of
it can be asked for. -/
def tripsBody (trips : List Trip) (context : PageContext) (token : String) : Value :=
  .record [
    ("status", .string "ok"),
    ("trips", .listOf (fun t => (TripEntry.of t).toJson) trips),
    ("context", .string token),
    ("can_query_earlier", .bool context.canStepEarlier),
    ("can_query_later", .bool context.canStepLater)]

/-- The body of an answer without trips. -/
def noResultBody (reason : String) : Value :=
  .record [("status", .string "no_result"), ("reason", .string reason)]

/-- The body of an answer with places. -/
def placesBody (places : List Location) : Value :=
  .record [("locations", .listOf (fun l => (PlaceEntry.of l).toJson) places)]

/-- The body of an answer about trips, if the token of the page can be written. -/
def writeResult : Client.TripsResult → Except ServiceError Value
  | .trips trips context =>
    match context.encode with
    | .ok token => .ok (tripsBody trips context token)
    | .error fault => .error (.internal ("Failed to encode context: " ++ fault.reason))
  | .noResult reason => .ok (noResultBody reason)

/-- The response to what a client came to. -/
def Response.ofResult {α : Type} (write : α → Value) : Client.Result α → Response
  | .ok a => .json .ok (write a)
  | .error e => (ServiceError.ofClient e).response

/-- The response to what a query for trips came to. -/
def Response.ofTrips : Client.Result Client.TripsResult → Response
  | .ok result =>
    match writeResult result with
    | .ok body => .json .ok body
    | .error e => e.response
  | .error e => (ServiceError.ofClient e).response

end Itinerary.Service
