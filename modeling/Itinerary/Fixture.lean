import Itinerary.Keyed
import Itinerary.Text.Quoted
import Itinerary.Url

/-!
# Fixtures

A fixture stands in for the provider: it holds one body per endpoint and answers each request
with the body of the endpoint that the address ends in. Copies of a fixture go their own ways
with their bodies and keep one common list of requests, so a copy that was handed away still
tells what was asked of it. `Fixture.Family` is such a group of copies, each with bodies of its own;
`Fixture.Memory` has the places that they share.
-/

namespace Itinerary

/-! ### Endpoints -/

/-- Reversed characters without the reversed endings `.json` they start with. -/
def dropJsonEndings : List Char → List Char
  | 'n' :: 'o' :: 's' :: 'j' :: '.' :: rest => dropJsonEndings rest
  | cs => cs

/-- A segment of a path without the endings `.json`. -/
def endpointOfSegment (segment : String) : String :=
  String.ofList (dropJsonEndings segment.toList.reverse).reverse

/-- The endpoint that an address asks for; an address without segments asks for the one without a
name. -/
def Url.endpoint (u : Url) : String := endpointOfSegment (u.lastSegment?.getD "")

/-! ### One fixture -/

/-- Why a fixture cannot be made or has no answer. -/
inductive FixtureFault where
  /-- there is no body for an endpoint -/
  | noBody (endpoint : String) (available : List String)
  /-- there is no such directory -/
  | noDirectory (path : String)
  /-- a file is not UTF-8 -/
  | notText (path : String)
  /-- a directory has no file with a body -/
  | noFiles (path : String)
  /-- there is no reply left -/
  | exhausted
deriving DecidableEq, Repr

/-- The wording of a fault. -/
def FixtureFault.message : FixtureFault → String
  | .noBody endpoint available =>
    "no fixture for endpoint " ++ Text.quote endpoint ++ ". Available: " ++
      Text.quoteList available
  | .noDirectory path =>
    "failed to read fixture directory " ++ Text.quote path ++
      ": No such file or directory (os error 2)"
  | .notText path =>
    "failed to read " ++ Text.quote path ++ ": stream did not contain valid UTF-8"
  | .noFiles path => "no fixture files found in " ++ Text.quote path
  | .exhausted => "script ended"

/-- Bodies by endpoint. -/
structure Fixture where
  bodies : Keyed String

namespace Fixture

/-- The fixture that answers nothing. -/
def empty : Fixture := ⟨.empty⟩

/-- The fixture with a body for an endpoint, whatever was there before. -/
def withBody (f : Fixture) (endpoint body : String) : Fixture := ⟨f.bodies.insert endpoint body⟩

/-- The endpoints that have a body, in ascending order. -/
def endpoints (f : Fixture) : List String := f.bodies.keys

/-- The body that answers a request. -/
def reply (f : Fixture) (u : Url) : Except FixtureFault String :=
  match f.bodies.find? u.endpoint with
  | some body => .ok body
  | none => .error (.noBody u.endpoint f.endpoints)

end Fixture

/-! ### Copies -/

/-- Copies of a fixture, by number, and what was asked of any of them. -/
structure Fixture.Family where
  /-- the copies, the oldest first -/
  members : List Fixture
  /-- the addresses asked for, the oldest first -/
  requests : List Url

namespace Fixture.Family

/-- The family of a single fixture that was asked nothing. -/
def found (f : Fixture) : Family := ⟨[f], []⟩

/-- The family with a body for an endpoint of one member. -/
def withBody (family : Family) (i : Nat) (endpoint body : String) : Family :=
  { family with members := family.members.modify i (·.withBody endpoint body) }

/-- The family with a copy of one member as its youngest. -/
def copy (family : Family) (i : Nat) : Family :=
  { family with members := family.members ++ family.members[i]?.toList }

/-- What a member answers to a request; a number without a member is that of an empty one. -/
def ask (family : Family) (i : Nat) (u : Url) : Except FixtureFault String × Family :=
  ((family.members.getD i .empty).reply u,
    { family with requests := family.requests ++ [u] })

end Fixture.Family

end Itinerary
