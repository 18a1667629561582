import Itinerary.Url.Host

/-!
# Schemes of addresses

The scheme in front of the first colon says how the rest of an address is read. Those of the
internet name a host and have a default port, files are on this machine unless a host is named,
and of any other scheme nothing is known.

Main definitions:

* `SchemeKind`: how addresses of a scheme are read.
* `readScheme`: the scheme of an address and what follows it.
-/

namespace Itinerary.Url

/-- How addresses of a scheme are read. -/
inductive SchemeKind where
  /-- hosts of the internet, with the default port -/
  | network (port : Nat)
  /-- files, of this machine unless a host is named -/
  | file
  /-- anything else -/
  | other
deriving DecidableEq, Repr

/-- The kind of a scheme. -/
def SchemeKind.of (scheme : String) : SchemeKind :=
  match scheme with
  | "http" => .network 80
  | "ws" => .network 80
  | "https" => .network 443
  | "wss" => .network 443
  | "ftp" => .network 21
  | "file" => .file
  | _ => .other

/-- Whether a scheme is special. -/
def SchemeKind.isSpecial : SchemeKind → Bool
  | .other => false
  | _ => true

/-- Whether a character ends a segment. -/
def SchemeKind.isSlash (k : SchemeKind) (c : Char) : Bool := c == '/' || (k.isSpecial && c == '\\')

/-- Whether a character may stand in a scheme behind its first letter. -/
def isSchemeChar (c : Char) : Bool := c.isAlphanum || c == '+' || c == '-' || c == '.'

/-- The scheme in front of the first colon, and what follows it. -/
def readScheme (cs : List Char) : Except Fault (String × List Char) :=
  let name := cs.takeWhile isSchemeChar
  match name, cs.dropWhile isSchemeChar with
  | first :: _, ':' :: rest =>
    if first.isAlpha then .ok (String.ofList (name.map Char.toLower), rest) else .error .relative
  | _, _ => .error .relative

end Itinerary.Url
