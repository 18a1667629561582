import Itinerary.Decimal.Shortest

/-!
# How a double is laid out

Two texts of a double are in use. In display form — coordinates in query terms, numbers taken as
texts — digits are always positional and a whole value has no point: `47`, `0.0000001`. In
stored form — everything that is written as JSON — a whole value keeps one decimal, and outside
`1e-5 ≤ |x| < 1e16` an exponent with its sign is written: `47.0`, `1e-6`, `1e+16`. Both forms use
the fewest digits that read back, and zero keeps its sign.
-/

namespace Itinerary.Decimal

/-- The parts of a written number: whole digits, digits after the point, and an exponent. -/
structure Laid where
  /-- digits in front of the point, never empty -/
  whole : List Char
  /-- digits after the point; no point is written when there are none -/
  decimals : List Char
  /-- the power of ten that is written out, if any -/
  power : Option Int
deriving DecidableEq, Repr

/-- The digits with a point after the first `point` of them, filled up with zeros. -/
def positional (digits : List Char) (point : Int) : Laid :=
  if point ≤ 0 then ⟨['0'], List.replicate (-point).toNat '0' ++ digits, none⟩
  else if (digits.length : Int) ≤ point then
    ⟨digits ++ List.replicate (point.toNat - digits.length) '0', [], none⟩
  else ⟨digits.take point.toNat, digits.drop point.toNat, none⟩

/-- The digits with a point after the first one and the power of ten that makes up for it. -/
def scientific (digits : List Char) (point : Int) : Laid :=
  ⟨digits.take 1, digits.drop 1, some (point - 1)⟩

/-- The magnitude of a finite double in display form. -/
def layDisplay (x : Float) : Laid :=
  let d := shortest .up x
  let digits := Nat.toDigits 10 d.digits
  positional digits (digits.length + d.exponent)

/-- The magnitude of a finite double in stored form. -/
def layStored (x : Float) : Laid :=
  let d := shortest .even x
  let digits := Nat.toDigits 10 d.digits
  let point := digits.length + d.exponent
  if -5 < point && point ≤ 16 then
    let laid := positional digits point
    if laid.decimals.isEmpty then { laid with decimals := ['0'] } else laid
  else scientific digits point

/-- A double in display form. The values that are no numbers have names. -/
def display (x : Float) : String :=
  if x.isNaN then "NaN"
  else
    let laid := layDisplay x
    let magnitude :=
      if x.isInf then "inf".toList
      else if laid.decimals.isEmpty then laid.whole
      else laid.whole ++ '.' :: laid.decimals
    String.ofList (if isNegative x then '-' :: magnitude else magnitude)

end Itinerary.Decimal
