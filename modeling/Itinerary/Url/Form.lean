import Itinerary.Text.Split
import Itinerary.Url.Percent

/-!
# Parameters in addresses

A list of parameters is written into the query of an address as names and values joined by `=`
and `&`. Letters, digits and `*-._` stand for themselves, a space is written `+` and every other
character escaped, so neither joint can occur inside a part and the parts can be told apart
again.

Reading takes any text. Parts without anything in them are skipped, a part without `=` has an
empty value, and bytes that are no UTF-8 are shown as U+FFFD.
-/

namespace Itinerary.Url.Form

open Text

/-! ### Writing -/

/-- Whether a character stands for itself. -/
def isPlain (c : Char) : Bool :=
  c.isAlphanum || c == '*' || c == '-' || c == '.' || c == '_'

/-- A character of a part. -/
def encodeChar (c : Char) : List Char := if c = ' ' then ['+'] else Percent.encodeChar isPlain c

/-- A name or value. -/
def encodePart (s : String) : List Char := s.toList.flatMap encodeChar

/-- A parameter. -/
def encodePair (p : String × String) : List Char := encodePart p.1 ++ '=' :: encodePart p.2

/-- A list of parameters. -/
def encode : List (String × String) → List Char
  | [] => []
  | [p] => encodePair p
  | p :: q :: rest => encodePair p ++ '&' :: encode (q :: rest)

/-! ### Reading -/

/-- The byte of `&`. -/
def pairMark : UInt8 := 38

/-- The byte of `=`. -/
def valueMark : UInt8 := 61

/-- A `+` stands for a space. -/
def spaced (b : UInt8) : UInt8 := if b = 43 then 32 else b

/-- The text of a part. -/
def decodePart (bytes : List UInt8) : String :=
  Utf8.decodeLossy (Percent.decode (bytes.map spaced))

/-- The parameter in the bytes between two `&`: the first `=` ends its name. -/
def decodePair (bytes : List UInt8) : String × String :=
  (decodePart (bytes.takeWhile (· ≠ valueMark)),
    decodePart ((bytes.dropWhile (· ≠ valueMark)).drop 1))

/-- The parameters of a query. -/
def decode (query : List UInt8) : List (String × String) :=
  ((splitOn pairMark query).filter fun part => !part.isEmpty).map decodePair

end Itinerary.Url.Form
