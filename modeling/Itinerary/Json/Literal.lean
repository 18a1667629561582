import Itinerary.Text.Hex

/-!
# Text literals in JSON

The text of a literal is a list of characters in which `none` marks a place that is no character:
half of a surrogate pair escaped alone, or bytes that are not UTF-8. Such places are no fault of
the grammar. They matter only to a reader who wants the text, so the literal keeps them and
`plain?` refuses them.

Reading runs in two passes. The first takes the literal apart into characters and escaped 16-bit
units and finds its end, the second joins surrogate pairs.
-/

namespace Itinerary.Json

/-- The text of a JSON document, with `none` for bytes that are not UTF-8. -/
abbrev Source := List (Option Char)

/-- The text of a literal, with `none` for places that are no character. -/
abbrev Literal := List (Option Char)

namespace Literal

/-- The literal of a text. -/
def ofString (s : String) : Literal := s.toList.map some

/-- The characters of a literal, if all its places are characters. -/
def plainChars? : Literal → Option (List Char)
  | [] => some []
  | some c :: rest => (plainChars? rest).map (c :: ·)
  | none :: _ => none

/-- The text of a literal, if all its places are characters. -/
def plain? (l : Literal) : Option String := (plainChars? l).map String.ofList

/-- The literal of a text is that text. -/
@[simp] theorem plainChars?_map_some (cs : List Char) : plainChars? (cs.map some) = some cs := by
  induction cs with
  | nil => rfl
  | cons c r ih => simp [plainChars?, ih]

@[simp] theorem plain?_ofString (s : String) : plain? (ofString s) = some s := by
  simp [plain?, ofString]

/-! ### Writing -/

/-- A character of the last resort: four hexadecimal digits after a backslash and `u`. -/
def unitEscape (n : Nat) : List Char := '\\' :: 'u' :: Text.Hex.padded 4 n

/-- A character as it is written in a literal. Quotes, backslashes and controls are escaped,
everything else stands for itself. -/
def writeChar (c : Char) : List Char :=
  if c = '"' then ['\\', '"']
  else if c = '\\' then ['\\', '\\']
  else if c = '\x08' then ['\\', 'b']
  else if c = '\x0c' then ['\\', 'f']
  else if c = '\n' then ['\\', 'n']
  else if c = '\r' then ['\\', 'r']
  else if c = '\t' then ['\\', 't']
  else if c.toNat < 0x20 then unitEscape c.toNat
  else [c]

/-- A place of a literal as it is written; a place that is no character is written as the first
half of a surrogate pair. -/
def writePlace : Option Char → List Char
  | some c => writeChar c
  | none => unitEscape 0xD800

/-- A literal with its quotes. -/
def write (l : Literal) : List Char := '"' :: (l.flatMap writePlace ++ ['"'])

/-! ### Reading -/

/-- What a literal is made of before surrogate pairs are joined. -/
inductive Part where
  /-- a place that stands for itself -/
  | place (p : Option Char)
  /-- an escaped 16-bit unit -/
  | unit (n : Nat)
deriving DecidableEq, Repr

/-- The value of four hexadecimal digits. -/
def unit? (a b c d : Char) : Option Nat := do
  return Text.Hex.number [← Text.Hex.value? a, ← Text.Hex.value? b, ← Text.Hex.value? c,
    ← Text.Hex.value? d]

/-- The character of a short escape. -/
def shortEscape? (c : Char) : Option Char :=
  match c with
  | '"' => some '"'
  | '\\' => some '\\'
  | '/' => some '/'
  | 'b' => some '\x08'
  | 'f' => some '\x0c'
  | 'n' => some '\n'
  | 'r' => some '\r'
  | 't' => some '\t'
  | _ => none

/-- The parts of a literal up to its closing quote, and what follows the quote. A control
character has no place in a literal. -/
def parts : Source → Option (List Part × Source)
  | [] => none
  | none :: rest => (parts rest).map fun (ps, r) => (.place none :: ps, r)
  | some '"' :: rest => some ([], rest)
  | some '\\' :: some 'u' :: some a :: some b :: some c :: some d :: rest =>
    match unit? a b c d, parts rest with
    | some n, some (ps, r) => some (.unit n :: ps, r)
    | _, _ => none
  | some '\\' :: some e :: rest =>
    match shortEscape? e, parts rest with
    | some c, some (ps, r) => some (.place (some c) :: ps, r)
    | _, _ => none
  | some c :: rest =>
    -- a backslash comes here only at the end of the text or before bytes that are not UTF-8
    if c = '\\' || c.toNat < 0x20 then none
    else (parts rest).map fun (ps, r) => (.place (some c) :: ps, r)

/-- Whether a unit is the first half of a surrogate pair. -/
def isHigh (n : Nat) : Bool := 0xD800 ≤ n && n ≤ 0xDBFF

/-- Whether a unit is the second half of a surrogate pair. -/
def isLow (n : Nat) : Bool := 0xDC00 ≤ n && n ≤ 0xDFFF

/-- Joins surrogate pairs; a half that stands alone is no character. -/
def join : List Part → Literal
  | [] => []
  | .place p :: rest => p :: join rest
  | .unit n :: .unit m :: rest =>
    if isHigh n && isLow m then
      some (Char.ofNat (0x10000 + (n - 0xD800) * 0x400 + (m - 0xDC00))) :: join rest
    -- the second unit may be the first half of another pair
    else (if isHigh n || isLow n then none else some (Char.ofNat n)) :: join (.unit m :: rest)
  | .unit n :: rest => (if isHigh n || isLow n then none else some (Char.ofNat n)) :: join rest

/-- The literal whose opening quote has just been read, and what follows it. -/
def read (cs : Source) : Option (Literal × Source) :=
  (parts cs).map fun (ps, rest) => (join ps, rest)

end Literal

end Itinerary.Json
