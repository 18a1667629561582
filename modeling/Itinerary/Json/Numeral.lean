import Itinerary.Decimal.Layout
import Itinerary.Decimal.Whole

/-!
# Numbers in JSON

A number is kept as it is written: sign, digits, decimals and power of ten, since the same text
may be asked for as an integer, as a double, or not at all. An integer is a number without point
and power that fits in 64 bits; minus zero is none. Any number is a double unless it is too
large.

Doubles are read fast rather than exactly. The digits are gathered into a 64-bit number as long
as they fit, digits that no longer fit only count towards the power of ten, and that number, as
a double, is multiplied or divided by the power. Up to fifteen digits and moderate powers the
result is the nearest double; beyond, it may be off by a unit in the last place.
-/

namespace Itinerary.Json

-- powers are those of the core library, whatever else is imported
attribute [local instance (high)] instPowNat

/-- The sign in front of a power of ten. -/
inductive PowerSign where
  /-- no sign is written -/
  | bare
  /-- `+` -/
  | plus
  /-- `-` -/
  | minus
deriving DecidableEq, Repr

/-- A number as it is written. -/
structure Numeral where
  /-- whether it starts with `-` -/
  negative : Bool
  /-- the digits in front of the point -/
  whole : List Char
  /-- the digits after the point; no point is written when there are none -/
  decimals : List Char
  /-- the power of ten, with its sign and digits -/
  power : Option (PowerSign × List Char)
deriving DecidableEq, Repr

namespace Numeral

/-! ### Writing -/

/-- An integer. -/
def ofInt (n : Int) : Numeral := ⟨n < 0, Nat.toDigits 10 n.natAbs, [], none⟩

/-- A finite double in stored form. -/
def ofFloat (x : Float) : Numeral :=
  let laid := Decimal.layStored x
  { negative := Decimal.isNegative x
    whole := laid.whole
    decimals := laid.decimals
    power := laid.power.map fun p =>
      (if p < 0 then .minus else .plus, Nat.toDigits 10 p.natAbs) }

/-- The characters of a sign. -/
def signText : PowerSign → List Char
  | .bare => []
  | .plus => ['+']
  | .minus => ['-']

/-- The characters of a number. -/
def write (n : Numeral) : List Char :=
  (if n.negative then ['-'] else []) ++ n.whole ++
    (if n.decimals.isEmpty then [] else '.' :: n.decimals) ++
    match n.power with
    | none => []
    | some (sign, digits) => 'e' :: (signText sign ++ digits)

/-! ### As an integer -/

/-- The integer, if the number is written as one and fits in 64 bits, signed if it is negative
and unsigned if it is not. -/
def integer? (n : Numeral) : Option Int :=
  if n.decimals.isEmpty && n.power.isNone then
    let v := Decimal.value n.whole
    if n.negative then
      if 0 < v && v ≤ 2 ^ (63 : Nat) then some (-(v : Int)) else none
    else if v ≤ Decimal.maxCount64 then some v else none
  else none

/-! ### As a double -/

/-- Takes digits onto a number while it fits in 64 bits; the rest is left. -/
def gather : Nat → List Char → Nat × List Char
  | n, [] => (n, [])
  | n, d :: ds =>
    let n' := n * 10 + (d.toNat - '0'.toNat)
    if n' ≤ Decimal.maxCount64 then gather n' ds else (n, d :: ds)

/-- A power of ten as a double. -/
def powerOfTen (e : Nat) : Float := Float.ofScientific 1 false e

/-- The double `n * 10 ^ e`, computed in doubles; `none` if it is too large. Below `10 ^ -308`
the division is done in two steps, and below `10 ^ -616` nothing is left of a 64-bit number. -/
def scale (n : Nat) (e : Int) : Option Float :=
  let x := Float.ofNat n
  if 308 < e then (if n = 0 then some 0 else none)
  else if 0 ≤ e then
    let y := x * powerOfTen e.natAbs
    if y.isInf then none else some y
  else if -308 ≤ e then some (x / powerOfTen e.natAbs)
  else if -616 ≤ e then some (x / powerOfTen 308 / powerOfTen (e + 308).natAbs)
  else some 0

/-- The greatest power of ten that is read as a number; a greater one counts as infinite. -/
def maxPower : Nat := 2147483647

/-- The magnitude as a double; `none` if it is too large. -/
def magnitude? (n : Numeral) : Option Float :=
  let (v, unreadWhole) := gather 0 n.whole
  let (v, unreadDecimals) := gather v n.decimals
  -- a digit before the point counts ten if it is left, one behind it a tenth if it is taken
  let e : Int := unreadWhole.length - (n.decimals.length - unreadDecimals.length : Nat)
  match n.power with
  | none => scale v e
  | some (sign, digits) =>
    let p := Decimal.value digits
    if maxPower < p then (if v ≠ 0 && sign ≠ .minus then none else some 0)
    else scale v (if sign = .minus then e - p else e + p)

/-- The number as a double; `none` if it is too large. -/
def float? (n : Numeral) : Option Float :=
  n.magnitude?.map fun x => if n.negative then -x else x

end Numeral

end Itinerary.Json
