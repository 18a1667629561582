import Itinerary.Calendar.DateTime
import Itinerary.Decimal.Whole
import Itinerary.Text.Blank

/-!
# Date and time patterns

A pattern is a list of pieces, and the same pattern both writes and reads. Reading is lenient
where timetables are: blanks may stand before any number, a gap matches any blanks or none, and a
number may have fewer digits than it is written with. A plain year has at most four digits, a
signed one any number. Literals match exactly, and nothing may be left over.

What a pattern reads is collected in `Fields`; whether the fields make a date or a time of day
is decided afterwards, so `30.02.` is read and then refused.
-/

namespace Itinerary.Calendar

-- powers are those of the core library, whatever else is imported
attribute [local instance (high)] instPowNat

/-- A number in a pattern. -/
inductive Field where
  | year
  /-- the month, from 1 -/
  | month
  /-- the day of the month, from 1 -/
  | day
  | hour
  | minute
  /-- the second of the minute, 60 in a leap second -/
  | second
deriving DecidableEq, Repr

/-- A piece of a pattern. -/
inductive Piece where
  | field (f : Field)
  /-- a character that stands for itself -/
  | literal (c : Char)
  /-- blanks: so many when written, any number when read -/
  | gap (width : Nat)
  /-- the fraction of the second with its point, or nothing -/
  | fraction
deriving DecidableEq, Repr

/-- A pattern: its pieces from left to right. -/
abbrev Pattern := List Piece

/-- The numbers that a pattern has read. Fields that the pattern lacks keep their first values. -/
structure Fields where
  year : Int := 0
  month : Nat := 1
  day : Nat := 1
  hour : Nat := 0
  minute : Nat := 0
  second : Nat := 0
  /-- the fraction in nanoseconds -/
  nano : Nat := 0
deriving DecidableEq, Repr

namespace Fields

/-- The fields of a date and time. -/
def ofDateTime (t : DateTime) : Fields where
  year := t.date.year
  month := t.date.month
  day := t.date.day
  hour := t.clock.hour
  minute := t.clock.minuteOfHour
  second := t.clock.second
  nano := t.clock.nano

/-- The date that the fields name, if there is one. -/
def date? (f : Fields) : Option Date := Date.of? f.year f.month f.day

/-- The time of day that the fields name, if there is one. -/
def clock? (f : Fields) : Option Clock := Clock.of? f.hour f.minute f.second f.nano

/-- The date and time that the fields name, if both exist. -/
def dateTime? (f : Fields) : Option DateTime := do
  return ⟨← f.date?, ← f.clock?⟩

/-- The fields with one number replaced. -/
def set (f : Fields) : Field → Nat → Fields
  | .year, n => { f with year := n }
  | .month, n => { f with month := n }
  | .day, n => { f with day := n }
  | .hour, n => { f with hour := n }
  | .minute, n => { f with minute := n }
  | .second, n => { f with second := n }

end Fields

/-! ### Writing -/

/-- A year: four digits from 0 to 9999, otherwise a sign and at least four digits. -/
def yearText (y : Int) : List Char :=
  if 0 ≤ y && y ≤ 9999 then Decimal.padded 4 y.toNat
  else (if y < 0 then '-' else '+') :: Decimal.padded 4 y.natAbs

/-- The fraction of a second by the shortest of three, six and nine digits; nothing for none. -/
def fractionText (nano : Nat) : List Char :=
  if nano = 0 then []
  else if nano % 1000000 = 0 then '.' :: Decimal.padded 3 (nano / 1000000)
  else if nano % 1000 = 0 then '.' :: Decimal.padded 6 (nano / 1000)
  else '.' :: Decimal.padded 9 nano

/-- A number as it is written. -/
def Field.write (f : Fields) : Field → List Char
  | .year => yearText f.year
  | .month => Decimal.padded 2 f.month
  | .day => Decimal.padded 2 f.day
  | .hour => Decimal.padded 2 f.hour
  | .minute => Decimal.padded 2 f.minute
  | .second => Decimal.padded 2 f.second

/-- A piece as it is written. -/
def Piece.write (f : Fields) : Piece → List Char
  | .field k => k.write f
  | .literal c => [c]
  | .gap width => List.replicate width ' '
  | .fraction => fractionText f.nano

/-- The fields written by a pattern. -/
def Pattern.writeFields (p : Pattern) (f : Fields) : List Char := p.flatMap (Piece.write f)

/-- A date and time written by a pattern. -/
def Pattern.write (p : Pattern) (t : DateTime) : String :=
  String.ofList (p.writeFields (Fields.ofDateTime t))

/-! ### Reading -/

/-- The digits at the front, at most `width` of them, and the rest. -/
def takeDigits (width : Nat) (cs : List Char) : List Char × List Char :=
  let digits := (cs.take width).takeWhile Char.isDigit
  (digits, cs.drop digits.length)

/-- One to `width` digits as a number. -/
def readNumber (width : Nat) (cs : List Char) : Option (Nat × List Char) :=
  let (digits, rest) := takeDigits width cs
  if digits.isEmpty then none else some (Decimal.value digits, rest)

/-- A signed year of any length, or a plain one of at most four digits. -/
def readYear (cs : List Char) : Option (Int × List Char) :=
  match cs with
  | '-' :: r => (readNumber r.length r).map fun (n, rest) => (-(n : Int), rest)
  | '+' :: r => (readNumber r.length r).map fun (n, rest) => ((n : Int), rest)
  | r => (readNumber 4 r).map fun (n, rest) => ((n : Int), rest)

/-- The fraction of a second, if a point follows: digits past the ninth are dropped. -/
def readFraction (f : Fields) (cs : List Char) : Option (Fields × List Char) :=
  match cs with
  | '.' :: r =>
    let (digits, rest) := takeDigits 9 r
    if digits.isEmpty then none
    else some ({ f with nano := Decimal.value digits * 10 ^ (9 - digits.length) },
      rest.dropWhile Char.isDigit)
  | r => some (f, r)

/-- Reads one piece into the fields. -/
def Piece.read (f : Fields) (cs : List Char) : Piece → Option (Fields × List Char)
  | .field .year => (readYear (Text.trimStart cs)).map fun (y, rest) => ({ f with year := y }, rest)
  | .field k => (readNumber 2 (Text.trimStart cs)).map fun (n, rest) => (f.set k n, rest)
  | .literal c =>
    match cs with
    | d :: rest => if d = c then some (f, rest) else none
    | [] => none
  | .gap _ => some (f, Text.trimStart cs)
  | .fraction => readFraction f cs

/-- Reads the pieces from left to right; nothing may be left over. -/
def Pattern.readFrom : Pattern → Fields → List Char → Option Fields
  | [], f, cs => if cs.isEmpty then some f else none
  | p :: ps, f, cs =>
    match p.read f cs with
    | some (f', rest) => Pattern.readFrom ps f' rest
    | none => none

/-- The fields that a text has by a pattern. -/
def Pattern.readFields (p : Pattern) (s : String) : Option Fields := p.readFrom {} s.toList

/-- The date and time that a text names by a pattern. -/
def Pattern.read (p : Pattern) (s : String) : Option DateTime :=
  (p.readFields s).bind Fields.dateTime?

end Itinerary.Calendar
