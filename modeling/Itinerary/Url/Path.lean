import Itinerary.Text.Split
import Itinerary.Url.Percent
import Itinerary.Url.Scheme

/-!
# Paths of addresses

A path from the root is a list of segments between slashes. Reading one resolves `.` and `..`, so
that a path names each place in one way only, and keeps the name of a drive: no `..` leads out of
a drive.

Main definitions:

* `Path`, `Path.write`: paths, and how they stand in an address.
* `resolve`: the segments of a path without `.` and `..`.
* `readPath`: the path behind an authority.
-/

namespace Itinerary.Url

open Text

/-- The path of an address. -/
inductive Path where
  /-- a path from the root; without segments it is empty -/
  | rooted (segments : List String)
  /-- a text without a root -/
  | rootless (text : String)
deriving DecidableEq, Repr

/-- Whether a character stands for itself in a path. -/
def isPathChar : Char → Bool :=
  Percent.isVisibleBut ['"', '<', '>', '`', '#', '?', '\x7b', '\x7d']

/-! ### Drives -/

/-- Whether two characters name a drive. -/
def isDrive (letter mark : Char) : Bool := letter.isAlpha && (mark == ':' || mark == '|')

/-- Whether a segment starts with the name of a drive, behind which it ends or has a `\`. -/
def startsWithDrive (segment : String) : Bool :=
  match segment.toList with
  | [letter, mark] => isDrive letter mark
  | letter :: mark :: '\\' :: _ => isDrive letter mark
  | _ => false

/-- The drive that a text names, with a colon. -/
def drive? (text : List Char) : Option String :=
  match text with
  | [letter, mark] => if isDrive letter mark then some (String.ofList [letter, ':']) else none
  | _ => none

/-! ### Reading -/

/-- Whether a segment means the one it stands in. -/
def isHere (segment : String) : Bool := [".", "%2e"].contains (segment.map Char.toLower)

/-- Whether a segment means the one before. -/
def isParent (segment : String) : Bool :=
  ["..", ".%2e", "%2e.", "%2e%2e"].contains (segment.map Char.toLower)

/-- The segments that are left of those done when the last one is given up, the last of which
comes first. A drive is never given up. -/
def leaveSegment (done : List String) : List String :=
  match done with
  | [] => []
  | last :: before => if startsWithDrive last then done else before

/-- Resolves the segments behind those that are done, the last of which comes first. A path that
ends in `.` or `..` ends in an empty segment. -/
def resolve (kind : SchemeKind) : List String → List String → List String
  | done, [] => done.reverse
  | done, s :: rest =>
    -- what is resolved away at the end leaves the slash before it
    let close (done : List String) := if rest.isEmpty then "" :: done else done
    if isParent s then resolve kind (close (leaveSegment done)) rest
    else if isHere s then resolve kind (close done) rest
    else
      -- the path of a file may start with a drive
      let first := if kind = .file && done.isEmpty then drive? s.toList else none
      resolve kind (first.getD s :: done) rest

/-- The segments of the characters behind the root. -/
def readSegments (kind : SchemeKind) (cs : List Char) : List String :=
  let parts := splitOn '/' (cs.map fun c => if kind.isSlash c then '/' else c)
  resolve kind [] (parts.map (Percent.escape isPathChar))

/-- The path behind an authority. A special one has a root even if nothing is there. -/
def readPath (kind : SchemeKind) (cs : List Char) : Path :=
  match cs with
  | [] => .rooted (if kind.isSpecial then [""] else [])
  | c :: rest => .rooted (readSegments kind (if kind.isSlash c then rest else c :: rest))

/-! ### Writing -/

/-- A path as it stands in an address. -/
def Path.write : Path → String
  | .rooted segments => String.join (segments.map ("/" ++ ·))
  | .rootless text => text

end Itinerary.Url
