import Itinerary.Json.Sink
import Itinerary.Stored.Query
import Itinerary.Text.Base64
import Itinerary.Text.Utf8

/-!
# Page tokens

A caller gets the context of a page as a token and hands it back for the page before or after.
The token is the stored form of the context in UTF-8 and base64, so it can stand in an address as
it is. The stored form is written to a sink, which may fail, and so may `PageContext.encode`.
`PageContext.ofToken` reads a token, blanks around it aside, and keeps apart one that is no base64
from one that holds something other than a context.
-/

namespace Itinerary

/-- Why a token is refused. -/
inductive TokenFault where
  /-- it is no base64 -/
  | base64 (fault : Text.Base64.Fault)
  /-- what it holds is no context -/
  | context
deriving DecidableEq, Repr

/-- The wording of a fault. -/
def TokenFault.message : TokenFault → String
  | .base64 fault => "context token is not valid base64: " ++ fault.message
  | .context => "context token is not a valid context: " ++ Json.jsonReason

namespace PageContext

/-- Writes the token of a context. -/
def encode (c : PageContext) : Except Json.WriteFault String := do
  let written ← c.toJson.writeTo Json.Sink.memory []
  return Text.Base64.encode (Text.Utf8.encode (String.ofList written))

/-- The token of a context. -/
def token (c : PageContext) : String := Text.Base64.encode (Text.Utf8.encode c.toJson.write)

/-- **A token can always be written.** -/
theorem encode_eq (c : PageContext) : c.encode = .ok c.token := by
  rw [encode, Json.Value.writeTo_memory, List.nil_append]
  rfl

/-- The context that bytes hold in stored form. -/
def ofBytes? (bytes : List UInt8) : Option PageContext :=
  reader.parseSource (Text.Utf8.scan bytes)

/-- The context of a token. -/
def ofToken (token : String) : Except TokenFault PageContext :=
  match Text.Base64.decode (Text.Utf8.encode (Text.trim token)) with
  | .error fault => .error (.base64 fault)
  | .ok bytes =>
    match ofBytes? bytes with
    | some c => .ok c
    | none => .error .context

end PageContext

end Itinerary
