import Itinerary.Json.Token

/-!
# JSON values

A value is a tree. Objects keep their members in the order of the text, repeated keys included,
because what a repeated key means differs from record to record. Both directions go through
tokens: `Value.tokens` and `Value.ofTokens?` are about structure alone, blanks and spelling are
settled by `Token`.
-/

namespace Itinerary.Json

/-- A JSON value. -/
inductive Value where
  | null
  | bool (b : Bool)
  /-- a number, as it is written -/
  | number (n : Numeral)
  | text (l : Literal)
  | list (items : List Value)
  /-- an object: its keys and values in order -/
  | object (members : List (Literal × Value))
deriving Inhabited

namespace Value

/-- A text. -/
def string (s : String) : Value := .text (Literal.ofString s)

/-- An integer. -/
def int (n : Int) : Value := .number (Numeral.ofInt n)

/-- A double in stored form. What is not finite is written as null. -/
def float (x : Float) : Value :=
  if x.isFinite then .number (Numeral.ofFloat x) else .null

/-- A value that may be absent; absence is written as null. -/
def optional {α : Type} (write : α → Value) : Option α → Value
  | some a => write a
  | none => .null

/-- A list of values of one kind. -/
def listOf {α : Type} (write : α → Value) (items : List α) : Value := .list (items.map write)

/-- An object with the given members. -/
def record (members : List (String × Value)) : Value :=
  .object (members.map fun (k, v) => (Literal.ofString k, v))

/-! ### Writing -/

mutual

/-- The tokens of a value. -/
def tokens : Value → List Token
  | .null => [.null]
  | .bool b => [.bool b]
  | .number n => [.number n]
  | .text l => [.text l]
  | .list items => .openList :: (itemTokens items ++ [.closeList])
  | .object members => .openObject :: (memberTokens members ++ [.closeObject])

/-- The tokens of the items of a list, with commas between them. -/
def itemTokens : List Value → List Token
  | [] => []
  | [v] => tokens v
  | v :: w :: rest => tokens v ++ .comma :: itemTokens (w :: rest)

/-- The tokens of the members of an object, with commas between them. -/
def memberTokens : List (Literal × Value) → List Token
  | [] => []
  | [(k, v)] => .text k :: .colon :: tokens v
  | (k, v) :: m :: rest =>
    .text k :: .colon :: (tokens v ++ .comma :: memberTokens (m :: rest))

end

/-- The characters of a value, without blanks. -/
def writeChars (v : Value) : List Char := (tokens v).flatMap Token.write

/-- The compact text of a value. -/
def write (v : Value) : String := String.ofList (writeChars v)

/-! ### Reading -/

mutual

/-- The value at the front of some tokens, and the tokens after it. A list and its first item take
one step each, so twice the number of tokens is fuel enough. -/
def takeValue : Nat → List Token → Option (Value × List Token)
  | 0, _ => none
  | _ + 1, .null :: rest => some (.null, rest)
  | _ + 1, .bool b :: rest => some (.bool b, rest)
  | _ + 1, .number n :: rest => some (.number n, rest)
  | _ + 1, .text l :: rest => some (.text l, rest)
  | _ + 1, .openList :: .closeList :: rest => some (.list [], rest)
  | fuel + 1, .openList :: rest =>
    (takeItems fuel rest).map fun (items, r) => (.list items, r)
  | _ + 1, .openObject :: .closeObject :: rest => some (.object [], rest)
  | fuel + 1, .openObject :: rest =>
    (takeMembers fuel rest).map fun (members, r) => (.object members, r)
  | _ + 1, _ => none

/-- One or more items up to the end of their list. -/
def takeItems : Nat → List Token → Option (List Value × List Token)
  | 0, _ => none
  | fuel + 1, ts =>
    match takeValue fuel ts with
    | some (v, .closeList :: rest) => some ([v], rest)
    | some (v, .comma :: rest) =>
      (takeItems fuel rest).map fun (items, r) => (v :: items, r)
    | _ => none

/-- One or more members up to the end of their object. -/
def takeMembers : Nat → List Token → Option (List (Literal × Value) × List Token)
  | 0, _ => none
  | fuel + 1, .text k :: .colon :: ts =>
    match takeValue fuel ts with
    | some (v, .closeObject :: rest) => some ([(k, v)], rest)
    | some (v, .comma :: rest) =>
      (takeMembers fuel rest).map fun (members, r) => ((k, v) :: members, r)
    | _ => none
  | _ + 1, _ => none

end

/-- The value of some tokens, with none left over. -/
def ofTokens? (ts : List Token) : Option Value :=
  match takeValue (2 * ts.length) ts with
  | some (v, []) => some v
  | _ => none

/-- The value of a text in which some bytes may not be UTF-8. -/
def ofSource? (cs : Source) : Option Value := (Token.all cs).bind ofTokens?

/-- The value of a text. -/
def ofString? (s : String) : Option Value := ofSource? (s.toList.map some)

end Value

end Itinerary.Json
