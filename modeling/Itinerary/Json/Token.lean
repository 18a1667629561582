import Itinerary.Json.Literal
import Itinerary.Json.Numeral

/-!
# The tokens of a JSON text

A JSON text is a sequence of tokens with blanks between them: the six marks of structure, the
three words, text literals and numbers. Blanks are space, tab, line feed and carriage return
only. `Token.read` takes one token off the front, `Token.all` reads a text to its end.
-/

namespace Itinerary.Json

/-- A token. -/
inductive Token where
  /-- `[` -/
  | openList
  /-- `]` -/
  | closeList
  /-- an opening brace -/
  | openObject
  /-- a closing brace -/
  | closeObject
  /-- `,` -/
  | comma
  /-- `:` -/
  | colon
  | null
  | bool (b : Bool)
  | number (n : Numeral)
  | text (l : Literal)
deriving DecidableEq, Repr

namespace Token

/-- A blank between tokens. -/
def isBlank (c : Char) : Bool := c == ' ' || c == '\t' || c == '\n' || c == '\r'

/-! ### Numbers -/

/-- The digits at the front of a text, and the rest. -/
def digits : Source → List Char × Source
  | some c :: rest =>
    if c.isDigit then
      let (ds, r) := digits rest
      (c :: ds, r)
    else ([], some c :: rest)
  | rest => ([], rest)

/-- The digits in front of the point: no zero in front of other digits. -/
def readWhole (cs : Source) : Option (List Char × Source) :=
  match digits cs with
  | ([], _) => none
  | (d :: ds, rest) => if d = '0' && !ds.isEmpty then none else some (d :: ds, rest)

/-- The point and at least one digit, or nothing. -/
def readDecimals (cs : Source) : Option (List Char × Source) :=
  match cs with
  | some '.' :: rest =>
    match digits rest with
    | ([], _) => none
    | (ds, r) => some (ds, r)
  | rest => some ([], rest)

/-- The sign of a power of ten. -/
def readSign (cs : Source) : PowerSign × Source :=
  match cs with
  | some '+' :: rest => (.plus, rest)
  | some '-' :: rest => (.minus, rest)
  | rest => (.bare, rest)

/-- The power of ten with its mark, or nothing. -/
def readPower (cs : Source) : Option (Option (PowerSign × List Char) × Source) :=
  match cs with
  | some c :: rest =>
    if c = 'e' || c = 'E' then
      let (sign, rest) := readSign rest
      match digits rest with
      | ([], _) => none
      | (ds, r) => some (some (sign, ds), r)
    else some (none, some c :: rest)
  | rest => some (none, rest)

/-- A number after its sign. -/
def readMagnitude (negative : Bool) (cs : Source) : Option (Token × Source) := do
  let (whole, cs) ← readWhole cs
  let (decimals, cs) ← readDecimals cs
  let (power, cs) ← readPower cs
  return (.number ⟨negative, whole, decimals, power⟩, cs)

/-! ### Tokens -/

/-- The token at the front of a text, which starts with no blank, and the rest. -/
def read (cs : Source) : Option (Token × Source) :=
  match cs with
  | some '[' :: rest => some (.openList, rest)
  | some ']' :: rest => some (.closeList, rest)
  | some '\x7b' :: rest => some (.openObject, rest)
  | some '\x7d' :: rest => some (.closeObject, rest)
  | some ',' :: rest => some (.comma, rest)
  | some ':' :: rest => some (.colon, rest)
  | some '"' :: rest => (Literal.read rest).map fun (l, r) => (.text l, r)
  | some 'n' :: some 'u' :: some 'l' :: some 'l' :: rest => some (.null, rest)
  | some 't' :: some 'r' :: some 'u' :: some 'e' :: rest => some (.bool true, rest)
  | some 'f' :: some 'a' :: some 'l' :: some 's' :: some 'e' :: rest => some (.bool false, rest)
  | some '-' :: rest => readMagnitude true rest
  | rest => readMagnitude false rest

/-- Tokens to the end of a text, at most as many steps as `fuel`: every step takes a blank or a
token, so the length of the text is enough. -/
def readAll : Nat → Source → Option (List Token)
  | _, [] => some []
  | 0, _ => none
  | fuel + 1, c :: rest =>
    if c.any isBlank then readAll fuel rest
    else
      match read (c :: rest) with
      | some (t, r) => (readAll fuel r).map (t :: ·)
      | none => none

/-- The tokens of a text. -/
def all (cs : Source) : Option (List Token) := readAll cs.length cs

/-- The characters of a token. -/
def write : Token → List Char
  | openList => ['[']
  | closeList => [']']
  | openObject => ['\x7b']
  | closeObject => ['\x7d']
  | comma => [',']
  | colon => [':']
  | null => "null".toList
  | bool true => "true".toList
  | bool false => "false".toList
  | number n => n.write
  | text l => l.write

end Token

end Itinerary.Json
