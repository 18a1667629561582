import Itinerary.Url.Authority
import Itinerary.Url.Form

/-!
# Addresses

An address has a scheme, perhaps an authority, a path, and perhaps a query and a fragment. Some
schemes are *special*: their addresses name a host of the internet and a path from its root, with
`\` as good as `/`. Reading an address puts it into a normal form: scheme and domain in lower
case, the default port left out, `.` and `..` resolved, and what may not stand in a place
escaped. `Url.write` gives that form.

Main definitions:

* `Url.parse`, `Url.write`: addresses as text.
* `Url.withParameters`: parameters added behind the query that is there.
* `Url.lastSegment?`: the last piece of the path, by which a provider tells its endpoints apart.
-/

namespace Itinerary

/-- An address. -/
structure Url where
  /-- the scheme in lower case -/
  scheme : String
  authority : Option Url.Authority
  path : Url.Path
  /-- what stands behind `?` -/
  query : Option String
  /-- what stands behind `#` -/
  fragment : Option String
deriving DecidableEq, Repr

namespace Url

/-- Whether a character stands for itself in a query. -/
def isQueryChar (special : Bool) (c : Char) : Bool :=
  Percent.isVisibleBut ['"', '#', '<', '>'] c && !(special && c == '\'')

/-- Whether a character stands for itself in a fragment. -/
def isFragmentChar : Char → Bool := Percent.isVisibleBut ['"', '<', '>', '`']

/-! ### Reading an address -/

/-- The characters before the first occurrence of a mark, and those behind it. -/
def cut (mark : Char) (cs : List Char) : List Char × Option (List Char) :=
  match cs.dropWhile (· ≠ mark) with
  | [] => (cs, none)
  | _ :: rest => (cs.takeWhile (· ≠ mark), some rest)

/-- The authority and path of a special address with a host. -/
def readNetwork (kind : SchemeKind) (more : Bool) (cs : List Char) :
    Except Fault (Option Authority × Path) := do
  -- any number of slashes may stand before the authority, none included
  let inner := cs.dropWhile kind.isSlash
  let path := inner.dropWhile fun c => !kind.isSlash c
  let (authority, _) ← readAuthority kind (more || !path.isEmpty)
    (inner.takeWhile fun c => !kind.isSlash c)
  return (some authority, readPath kind path)

/-- The host of a file; this machine needs none. -/
def readFileHost (cs : List Char) : Except Fault (Option Host) :=
  if cs.isEmpty then .ok none
  else (Host.parse cs).map fun h => if h = .domain "localhost" then none else some h

/-- The authority and path of a file with these segments. A file on a drive is on this machine,
and empty segments at the front of the path are left out. -/
def fileOf (host : Option Host) (segments : List String) : Authority × Path :=
  let onDrive := segments.head?.any fun s => (drive? s.toList).isSome
  let inner := segments.dropWhile String.isEmpty
  (⟨"", "", if onDrive then none else host, none⟩,
    .rooted (if inner.isEmpty then [""] else inner))

/-- The authority and path of a file behind two slashes. -/
def readFileBehindSlashes (cs : List Char) : Except Fault (Authority × Path) :=
  let isSlash := SchemeKind.isSlash .file
  let text := cs.takeWhile fun c => !isSlash c
  let path := cs.dropWhile fun c => !isSlash c
  -- a drive is no host
  if (drive? text).isSome then .ok (fileOf none (readSegments .file cs))
  else do
    match ← readFileHost text with
    -- without a host the slash before the path is one of its own
    | none => return fileOf none (readSegments .file path)
    | some host => return fileOf (some host) (readSegments .file (path.drop 1))

/-- The authority and path of a file. -/
def readFile (cs : List Char) : Except Fault (Authority × Path) :=
  let isSlash := SchemeKind.isSlash .file
  match cs with
  | a :: b :: rest =>
    if isSlash a && isSlash b then readFileBehindSlashes rest
    else .ok (fileOf none (readSegments .file (if isSlash a then b :: rest else cs)))
  -- a slash alone is the root
  | _ => .ok (fileOf none (readSegments .file (cs.filter fun c => !isSlash c)))

/-- The authority and path of an address that is not special. -/
def readOther (more : Bool) (cs : List Char) : Except Fault (Option Authority × Path) :=
  match cs with
  | '/' :: '/' :: rest => do
    let path := rest.dropWhile (· ≠ '/')
    let (authority, before) ← readAuthority .other (more || !path.isEmpty)
      (rest.takeWhile (· ≠ '/'))
    return (some authority, readPath .other (before ++ path))
  | '/' :: rest => .ok (none, .rooted (readSegments .other rest))
  | cs => .ok (none, .rootless (Percent.escape (fun c => c = ' ' || Percent.isVisible c) cs))

/-- The authority and path of an address, behind which more may follow. -/
def readHierarchy (kind : SchemeKind) (more : Bool) (cs : List Char) :
    Except Fault (Option Authority × Path) :=
  match kind with
  | .network _ => readNetwork kind more cs
  | .file => (readFile cs).map fun (authority, path) => (some authority, path)
  | .other => readOther more cs

/-- Whether a character is dropped at the ends of an address. -/
def isEdge (c : Char) : Bool := c.toNat ≤ 0x20

/-- The characters of an address without controls and spaces around them and line breaks or tabs
among them. -/
def clean (cs : List Char) : List Char :=
  let inner := ((cs.dropWhile isEdge).reverse.dropWhile isEdge).reverse
  inner.filter fun c => c ≠ '\t' && c ≠ '\n' && c ≠ '\r'

/-- Reads an address. -/
def parse (s : String) : Except Fault Url := do
  let (scheme, rest) ← readScheme (clean s.toList)
  let kind := SchemeKind.of scheme
  -- a `?` behind `#` belongs to the fragment, so the fragment is cut off first
  let (rest, fragment) := cut '#' rest
  let (rest, query) := cut '?' rest
  let (authority, path) ← readHierarchy kind (query.isSome || fragment.isSome) rest
  return {
    scheme, authority, path
    query := query.map (Percent.escape (isQueryChar kind.isSpecial))
    fragment := fragment.map (Percent.escape isFragmentChar) }

/-! ### Writing an address -/

/-- What stands between the scheme and the path. Without an authority, a path that starts with an
empty segment is set off by a dot, or that segment would be read as the mark of one. -/
def writeAuthority (authority : Option Authority) (path : Path) : String :=
  match authority, path with
  | some a, _ => "//" ++ a.write
  | none, .rooted ("" :: _ :: _) => "/."
  | none, _ => ""

/-- An address as text. -/
def write (u : Url) : String :=
  let query := (u.query.map ("?" ++ ·)).getD ""
  let fragment := (u.fragment.map ("#" ++ ·)).getD ""
  u.scheme ++ ":" ++ writeAuthority u.authority u.path ++ u.path.write ++ query ++ fragment

/-! ### Parameters and endpoints -/

/-- The address with parameters behind its query. -/
def withParameters (u : Url) (ps : List (String × String)) : Url :=
  let added := String.ofList (Form.encode ps)
  let query :=
    match u.query with
    | some q => if q.isEmpty then added else q ++ "&" ++ added
    | none => added
  { u with query := some query }

/-- The last segment of a path from the root. -/
def lastSegment? (u : Url) : Option String :=
  match u.path with
  | .rooted segments => segments.getLast?
  | .rootless _ => none

end Url

end Itinerary
