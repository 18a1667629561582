/-!
# Reading doubles from text

A coordinate typed by a caller may have a sign, a point with digits on at least one side of it,
and an exponent; the names `inf`, `infinity` and `nan` are taken in any case. The value is the
double nearest to the decimal, infinite if it is too large.
-/

namespace Itinerary.Decimal

/-- Why a text is no number. -/
inductive NumberFault where
  | empty
  | malformed
deriving DecidableEq, Repr

/-- The wording of a fault. -/
def NumberFault.message : NumberFault → String
  | .empty => "cannot parse float from empty string"
  | .malformed => "invalid float literal"

/-! ### The nearest double -/

/-- The double nearest to `n * 10 ^ e`. A decimal of more than 310 digits in front of the point
is beyond every double, and one that starts more than 330 places behind it rounds to zero, so
the power is only computed where it matters. -/
def nearest (n : Nat) (e : Int) : Float :=
  let point := ((Nat.toDigits 10 n).length : Int) + e
  if n = 0 || point < -330 then 0
  else if 310 < point then Float.ofBits 0x7FF0000000000000
  else if e < 0 then Float.ofScientific n true e.natAbs
  else Float.ofScientific n false e.natAbs

/-! ### The grammar -/

/-- The exponent after its mark: an optional sign and digits, with nothing after them. -/
def readPower (cs : List Char) : Option Int :=
  let signed (negative : Bool) (ds : List Char) : Option Int :=
    if !ds.isEmpty && ds.all Char.isDigit then
      let n : Int := Nat.ofDigitChars 10 ds 0
      some (if negative then -n else n)
    else none
  match cs with
  | '-' :: ds => signed true ds
  | '+' :: ds => signed false ds
  | ds => signed false ds

/-- The exponent at the end of a number: nothing, or a mark and a power. -/
def readExponent (cs : List Char) : Option Int :=
  match cs with
  | [] => some 0
  | c :: ds => if c = 'e' || c = 'E' then readPower ds else none

/-- Digits with an optional point among them and an optional exponent. -/
def readMagnitude (cs : List Char) : Option Float := do
  let whole := cs.takeWhile Char.isDigit
  let rest := cs.dropWhile Char.isDigit
  let (decimals, rest) :=
    match rest with
    | '.' :: r => (r.takeWhile Char.isDigit, r.dropWhile Char.isDigit)
    | r => ([], r)
  if whole.isEmpty && decimals.isEmpty then none
  else
    let e ← readExponent rest
    some (nearest (Nat.ofDigitChars 10 (whole ++ decimals) 0) (e - decimals.length))

/-- A magnitude given by digits or by name. -/
def readUnsigned (cs : List Char) : Option Float :=
  let name := String.ofList (cs.map Char.toLower)
  if name = "inf" || name = "infinity" then some (Float.ofBits 0x7FF0000000000000)
  else if name = "nan" then some (Float.ofBits 0x7FF8000000000000)
  else readMagnitude cs

/-- A double with an optional sign. -/
def readFloat (s : String) : Except NumberFault Float :=
  let found (x : Option Float) : Except NumberFault Float :=
    match x with
    | some x => .ok x
    | none => .error .malformed
  match s.toList with
  | [] => .error .empty
  | '-' :: cs => found ((readUnsigned cs).map Float.neg)
  | '+' :: cs => found (readUnsigned cs)
  | cs => found (readUnsigned cs)

end Itinerary.Decimal
