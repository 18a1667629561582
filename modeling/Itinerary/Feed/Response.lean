import Itinerary.Feed.Record

/-!
# Responses of the timetable feed

A response to a query for trips is a record with an error text, connections, or messages. It is
kept apart whether the provider found nothing (`RouteOutcome.noResult`) or the body is not what a
response looks like (`DecodeError`). An error wins over connections, connections over messages.
-/

namespace Itinerary.Feed

open Json

/-- The members of a response. -/
structure Response where
  error : Option String
  /-- how many connections there are said to be -/
  count : Option Int
  connections : Option (List Connection)
  /-- texts that are sent instead of connections -/
  messages : Option (List String)

/-- The members of a response, as fields. -/
def Response.shape : Shape := .all ["error", "count", "connections", "messages"]

/-- Reads a response. -/
def Response.reader : Reader Response :=
  Reader.record Response.shape fun f => do
    return {
      error := ← f.optional "error" Reader.string
      count := ← f.optional "count" Reader.int64
      connections := ← f.optional "connections" (Reader.list Connection.reader)
      messages := ← f.optional "messages" (Reader.list Reader.string) }

/-- Why a body is no response. -/
inductive DecodeError where
  /-- the body is no JSON of the expected form; it begins with the excerpt -/
  | malformed (excerpt : String)
  /-- the body has none of the members of a response -/
  | unrecognised
deriving DecidableEq, Repr

/-- The wording of a decode error. -/
def DecodeError.message : DecodeError → String
  | .malformed excerpt => "invalid JSON: " ++ jsonReason ++ " (body: " ++ excerpt ++ ")"
  | .unrecognised => "unrecognised response shape: expected error, connections or messages"

/-- The error for a body that is refused: it quotes the first 500 characters. -/
def DecodeError.ofBody (body : String) : DecodeError :=
  .malformed (String.ofList (body.toList.take 500))

/-- What a response says. -/
inductive RouteOutcome where
  /-- there are connections to interpret -/
  | connections (cs : List Connection)
  /-- the provider found nothing -/
  | noResult (reason : String)

/-- What the members of a response say. -/
def Response.outcome (r : Response) : Except DecodeError RouteOutcome :=
  match r.error, r.connections, r.messages with
  | some reason, _, _ => .ok (.noResult reason)
  | none, some connections, _ => .ok (.connections connections)
  | none, none, some messages => .ok (.noResult (String.intercalate "; " messages))
  | none, none, none => .error .unrecognised

/-- What the body of a response to a query for trips says. -/
def decodeRoute (body : String) : Except DecodeError RouteOutcome :=
  match Response.reader.parse body with
  | some r => r.outcome
  | none => .error (.ofBody body)

/-- The suggestions in the body of a response to a search for places. -/
def decodeSuggestions (body : String) : Except DecodeError (List Suggestion) :=
  match (Reader.list Suggestion.reader).parse body with
  | some suggestions => .ok suggestions
  | none => .error (.ofBody body)

end Itinerary.Feed
