import Itinerary.Text.Utf8

/-!
# Request targets

A request names what it wants by a target: a path with an optional query, the same behind a
scheme and an authority, or an authority alone. A target is taken as it is: nothing in it is
unescaped, a fragment is cut off, and a byte that may not stand in its place makes the whole
target invalid.
-/

namespace Itinerary.Service

/-- What a request is about. -/
structure Target where
  path : String
  /-- the query without its `?` -/
  query : String
deriving DecidableEq, Repr

namespace Target

/-! ### Characters -/

/-- Whether a character may stand in a path. -/
def isPathChar (c : Char) : Bool :=
  let n := c.toNat
  n == 0x21 || n == 0x22 || (0x24 ≤ n && n ≤ 0x3B) || n == 0x3D || (0x40 ≤ n && n ≤ 0x5F) ||
    (0x61 ≤ n && n ≤ 0x7E) || 0x80 ≤ n

/-- Whether a character may stand in a query. -/
def isQueryChar (c : Char) : Bool :=
  let n := c.toNat
  n == 0x21 || (0x24 ≤ n && n ≤ 0x3B) || n == 0x3D || (0x3F ≤ n && n ≤ 0x7E) || 0x80 ≤ n

/-- Whether a character may stand in a scheme. -/
def isSchemeChar (c : Char) : Bool := c.isAlphanum || ['+', '-', '.', '~'].contains c

/-- Whether a character may stand in an authority. -/
def isAuthorityChar (c : Char) : Bool :=
  c.isAlphanum || ['!', '$', '&', '\'', '(', ')', '*', '+', ',', '-', '.', ':', ';', '=', '@', '[',
    ']', '_', '~', '%'].contains c

/-- Whether a character ends an authority. -/
def endsAuthority (c : Char) : Bool := c == '/' || c == '?' || c == '#'

/-! ### Authorities -/

/-- Where the reading of an authority is as to its one pair of brackets. -/
inductive Bracket where
  /-- before the pair -/
  | before
  /-- within it -/
  | inside
  /-- behind it -/
  | behind
deriving DecidableEq, Repr

/-- What the reading of an authority has come to. -/
structure AuthorityScan where
  /-- the pair of brackets -/
  bracket : Bracket
  /-- the colons since the last `@` or the end of the brackets -/
  colons : Nat
  /-- whether there was a `%` since then -/
  escaped : Bool
  /-- whether the last character was an `@` -/
  afterUser : Bool
deriving DecidableEq, Repr

namespace AuthorityScan

/-- The scan before the first character. -/
def start : AuthorityScan := ⟨.before, 0, false, false⟩

/-- The most colons that are read, those between the pieces of an address in brackets and one
more. -/
def maxColons : Nat := 8

/-- Reads a character. Colons and escapes count anew behind a user and behind brackets, where
they mean something else. -/
def step (s : AuthorityScan) (c : Char) : Option AuthorityScan :=
  let s := { s with afterUser := c == '@' }
  match c with
  | ':' => if s.colons < maxColons then some { s with colons := s.colons + 1 } else none
  | '[' => if s.bracket = .before ∧ !s.escaped then some { s with bracket := .inside } else none
  | ']' =>
    if s.bracket = .inside then some { s with bracket := .behind, colons := 0, escaped := false }
    else none
  | '@' => some { s with colons := 0, escaped := false }
  | '%' => some { s with escaped := true }
  | c => if isAuthorityChar c then some s else none

/-- Whether an authority may end here: the host has at most one colon, before its port, and no
escapes, and there is a host if there is a user. -/
def isComplete (s : AuthorityScan) : Bool :=
  s.bracket ≠ .inside && s.colons ≤ 1 && !s.escaped && !s.afterUser

end AuthorityScan

/-- Whether an authority is well-formed. -/
def isAuthority (cs : List Char) : Bool :=
  (cs.foldlM AuthorityScan.step AuthorityScan.start).any AuthorityScan.isComplete

/-! ### Targets -/

/-- A path with its query. -/
def parsePath? (cs : List Char) : Option Target :=
  let cs := cs.takeWhile (· ≠ '#')
  let path := cs.takeWhile (· ≠ '?')
  let query := (cs.dropWhile (· ≠ '?')).drop 1
  if path.all isPathChar && query.all isQueryChar then
    some ⟨if path.isEmpty then "/" else String.ofList path, String.ofList query⟩
  else none

/-- The most characters of a scheme. -/
def maxScheme : Nat := 64

/-- What follows the scheme of a target that has one. -/
def afterScheme? (cs : List Char) : Option (List Char) :=
  match cs.dropWhile isSchemeChar with
  | ':' :: '/' :: '/' :: rest =>
    if (cs.takeWhile isSchemeChar).length ≤ maxScheme then some rest else none
  | _ => none

/-- A target that does not start with its path. -/
def parseFull? (cs : List Char) : Option Target :=
  match afterScheme? cs with
  | some rest =>
    let authority := rest.takeWhile fun c => !endsAuthority c
    if authority.isEmpty || !isAuthority authority then none
    else parsePath? (rest.dropWhile fun c => !endsAuthority c)
  | none => if isAuthority cs then some ⟨"", ""⟩ else none

/-- The greatest number of bytes in a target. -/
def maxBytes : Nat := 65534

/-- Reads a target. -/
def parse? (s : String) : Option Target :=
  if s.isEmpty || maxBytes < s.utf8ByteSize then none
  else if s = "*" then some ⟨"*", ""⟩
  else
    match s.toList with
    | '/' :: rest => parsePath? ('/' :: rest)
    | cs => parseFull? cs

end Target

end Itinerary.Service
