import Itinerary.Json.Tree

/-!
# Reading records from JSON

A reader turns a value into a thing of the domain or refuses it; why it refuses is not told. It
is given the *room* that is left: how many levels of lists and objects may still open. A text may
nest 127 levels deep where it is read. What is not read — the values of unknown keys — may nest
to any depth and hold any numbers and texts, as long as the grammar is kept.

A record is an object or a list. As an object its known keys stand in any order, none of them
twice, among any unknown ones. As a list it has the fields in their declared order; only fields
that may be missing can be left off at the end (`Shape`).

Some places are first taken in whole before it is decided what they are: a value that may be a
text or a number, a map that may be an empty list. There every part of the value has to be
readable, even parts that are thrown away afterwards (`settled`, `whole`).
-/

namespace Itinerary.Json

/-- The levels of nesting that a text may have. -/
def maxRoom : Nat := 127

/-- A reader of one kind of thing, given the levels that may still open. -/
abbrev Reader (α : Type) := (room : Nat) → Value → Option α

namespace Reader

/-! ### Single values -/

/-- A text. -/
def string : Reader String := fun _ v =>
  match v with
  | .text l => l.plain?
  | _ => none

/-- A truth value. -/
def bool : Reader Bool := fun _ v =>
  match v with
  | .bool b => some b
  | _ => none

/-- A double. -/
def float : Reader Float := fun _ v =>
  match v with
  | .number n => n.float?
  | _ => none

/-- An integer of 64 bits. -/
def int64 : Reader Int := fun _ v =>
  match v with
  | .number n => n.integer?.bind Decimal.fit64
  | _ => none

/-- A number from 0 to a bound. -/
def count (bound : Nat) : Reader Nat := fun _ v =>
  match v with
  | .number n =>
    match n.integer? with
    | some (.ofNat k) => if k ≤ bound then some k else none
    | _ => none
  | _ => none

/-- A thing, or null for none. -/
def nullable {α : Type} (r : Reader α) : Reader (Option α) := fun room v =>
  match v with
  | .null => some none
  | v => (r room v).map some

/-- A list of things of one kind. -/
def list {α : Type} (r : Reader α) : Reader (List α) := fun room v =>
  match room, v with
  | room + 1, .list items => items.mapM (r room)
  | _, _ => none

/-- A thing given by a text that says which, or by an object with that text as its one key and
null as its value. -/
def named {α : Type} (choose : String → Option α) : Reader α := fun room v =>
  match room, v with
  | _, .text l => l.plain?.bind choose
  | _ + 1, .object [(k, .null)] => k.plain?.bind choose
  | _, _ => none

/-! ### Values taken in whole -/

mutual

/-- Whether every part of a value is readable: all texts are texts, all numbers have a double,
and no more levels open than there is room for. -/
def settled (room : Nat) : Value → Bool
  | .null => true
  | .bool _ => true
  | .number n => n.integer?.isSome || n.float?.isSome
  | .text l => l.plain?.isSome
  | .list items => room != 0 && settledItems (room - 1) items
  | .object members => room != 0 && settledMembers (room - 1) members

/-- Whether every item of a list is readable. -/
def settledItems (room : Nat) : List Value → Bool
  | [] => true
  | v :: rest => settled room v && settledItems room rest

/-- Whether every key and value of an object is readable. -/
def settledMembers (room : Nat) : List (Literal × Value) → Bool
  | [] => true
  | (k, v) :: rest => k.plain?.isSome && settled room v && settledMembers room rest

end

/-- Reads a value that is first taken in whole. -/
def whole {α : Type} (r : Reader α) : Reader α := fun room v =>
  if settled room v then r room v else none

/-! ### Records -/

/-- The members of an object with their keys as texts. -/
def keyed (members : List (Literal × Value)) : Option (List (String × Value)) :=
  members.mapM fun (k, v) => k.plain?.map (·, v)

end Reader

/-- The fields of a record: their names in declared order, and how many of them a list has at
least. -/
structure Shape where
  names : List String
  /-- the least length as a list -/
  least : Nat

/-- A shape whose fields are all present in a list. -/
def Shape.all (names : List String) : Shape := ⟨names, names.length⟩

/-- The fields found in a record, and the levels that may open inside them. -/
structure Found where
  /-- the levels left -/
  room : Nat
  /-- the known fields that are present -/
  entries : List (String × Value)

namespace Found

/-- The value of a field, if it is present. -/
def value? (f : Found) (name : String) : Option Value := f.entries.lookup name

/-- A field that has to be present. -/
def required {α : Type} (f : Found) (name : String) (r : Reader α) : Option α :=
  (f.value? name).bind (r f.room)

/-- A field that may be absent or null. -/
def optional {α : Type} (f : Found) (name : String) (r : Reader α) : Option (Option α) :=
  match f.value? name with
  | some v => Reader.nullable r f.room v
  | none => some none

/-- A field that has a value of its own when it is absent or null. -/
def orElse {α : Type} (f : Found) (name : String) (r : Reader α) (default : α) : Option α :=
  (f.optional name r).map (·.getD default)

end Found

/-- The fields of an object: every key is a text, and no known key stands twice. -/
def Shape.ofMembers (s : Shape) (room : Nat) (members : List (Literal × Value)) : Option Found :=
  match Reader.keyed members with
  | some entries =>
    let known := entries.filter fun e => s.names.contains e.1
    if (known.map Prod.fst).Nodup then some ⟨room, known⟩ else none
  | none => none

/-- The fields of a list, by position. -/
def Shape.ofItems (s : Shape) (room : Nat) (items : List Value) : Option Found :=
  if s.least ≤ items.length ∧ items.length ≤ s.names.length then
    some ⟨room, s.names.zip items⟩
  else none

/-- A record of a shape, made from its fields. -/
def Reader.record {α : Type} (s : Shape) (make : Found → Option α) : Reader α := fun room v =>
  match room, v with
  | room + 1, .object members => (s.ofMembers room members).bind make
  | room + 1, .list items => (s.ofItems room items).bind make
  | _, _ => none

/-- What stands in a message for the reason why JSON is refused. The reader gives no reason, so
messages have this placeholder. -/
def jsonReason : String := "<json>"

/-- Reads a thing from a text that is nothing but its value. -/
def Reader.parse {α : Type} (r : Reader α) (s : String) : Option α :=
  (Value.ofString? s).bind (r maxRoom)

/-- Reads a thing from bytes that may not be UTF-8 where nobody reads them. -/
def Reader.parseSource {α : Type} (r : Reader α) (cs : Source) : Option α :=
  (Value.ofSource? cs).bind (r maxRoom)

end Itinerary.Json
