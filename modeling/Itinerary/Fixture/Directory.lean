import Itinerary.Fixture
import Itinerary.Text.Utf8

/-!
# Fixtures from directories

A directory holds a body per file: `route.json` has the body of the endpoint `route`. Other
files and directories are passed over. A fixture without any body is of no use, so a directory
without such files is refused, and so is a body that is no text.
-/

namespace Itinerary.Fixture

/-- What stands under a name in a directory. -/
inductive Entry where
  | file (bytes : List UInt8)
  | directory
deriving DecidableEq, Repr

/-- The endpoint of a file by its name: what stands in front of the ending `.json`, if anything
does. -/
def stem? (name : String) : Option String :=
  match name.toList.reverse with
  | 'n' :: 'o' :: 's' :: 'j' :: '.' :: rest =>
    if rest.isEmpty then none else some (String.ofList rest.reverse)
  | _ => none

/-- The endpoint and the bytes of a file that has a body. -/
def bodyFile? (name : String) (entry : Entry) : Option (String × List UInt8) :=
  match entry with
  | .file bytes => (stem? name).map (·, bytes)
  | .directory => none

/-- The fixture with the bodies of some entries. -/
def addEntries (path : String) (f : Fixture) :
    List (String × Entry) → Except FixtureFault Fixture
  | [] => .ok f
  | (name, entry) :: rest =>
    match bodyFile? name entry with
    | none => addEntries path f rest
    | some (endpoint, bytes) =>
      match Text.Utf8.decode? bytes with
      | some body => addEntries path (f.withBody endpoint body) rest
      | none => .error (.notText (path ++ "/" ++ name))

/-- The fixture of a directory, which may not exist. -/
def ofDirectory (path : String) (entries : Option (List (String × Entry))) :
    Except FixtureFault Fixture :=
  match entries with
  | none => .error (.noDirectory path)
  | some entries => do
    let f ← addEntries path .empty entries
    if f.bodies.isEmpty then .error (.noFiles path) else .ok f

end Itinerary.Fixture
