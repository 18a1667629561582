import Mathlib.Logic.Function.Basic
import Itinerary.Fixture

/-!
# What copies of a fixture hold

A fixture holds its bodies and its list of requests by reference. A copy holds the same two places
in memory. Requests are kept in the common place, but a body is put into a place that others hold as
well only after the bodies have been copied to a place of their own, for which each place has the
number of its holders. `Fixture.Family` is what this amounts to. A fixture that is not used any more
is not taken off that number, so the bodies may be copied once more than they have to.
-/

namespace Itinerary.Fixture

/-- The number of a place in memory. -/
abbrev Place := Nat

/-- What a fixture holds. -/
structure Held where
  /-- where its bodies are -/
  bodies : Place
  /-- where its requests are kept -/
  requests : Place
deriving DecidableEq, Repr

/-- What stands at the places that fixtures hold. -/
structure Memory where
  bodies : Place → Keyed String
  /-- how many fixtures hold the bodies at a place -/
  holders : Place → Nat
  requests : Place → List Url
  /-- the first place that was never held -/
  next : Place

namespace Memory

/-- The memory that nothing was put into. -/
def unused : Memory := ⟨fun _ => .empty, fun _ => 0, fun _ => [], 0⟩

/-- The fixture with the bodies that are held. -/
def fixture (m : Memory) (held : Held) : Fixture := ⟨m.bodies held.bodies⟩

/-- A fixture that was asked nothing, at new places. -/
def create (m : Memory) (f : Fixture) : Held × Memory :=
  (⟨m.next, m.next⟩,
    { bodies := Function.update m.bodies m.next f.bodies
      holders := Function.update m.holders m.next 1
      requests := Function.update m.requests m.next []
      next := m.next + 1 })

/-- A copy, which holds the same. -/
def copy (m : Memory) (held : Held) : Held × Memory :=
  (held, { m with
    holders := Function.update m.holders held.bodies (m.holders held.bodies + 1) })

/-- A body is put in for an endpoint. -/
def withBody (m : Memory) (held : Held) (endpoint body : String) : Held × Memory :=
  let bodies := (m.bodies held.bodies).insert endpoint body
  -- bodies that no other fixture holds are changed where they are
  if m.holders held.bodies = 1 then
    (held, { m with bodies := Function.update m.bodies held.bodies bodies })
  else
    ({ held with bodies := m.next },
      { m with
        bodies := Function.update m.bodies m.next bodies
        holders := Function.update
          (Function.update m.holders held.bodies (m.holders held.bodies - 1)) m.next 1
        next := m.next + 1 })

/-- The answer to a request, which is kept whatever the answer is. -/
def ask (m : Memory) (held : Held) (u : Url) : Except FixtureFault String × Memory :=
  ((m.fixture held).reply u,
    { m with
      requests := Function.update m.requests held.requests (m.requests held.requests ++ [u]) })

end Memory

end Itinerary.Fixture
