/-!
# The fewest digits that read back

A double is written with the fewest decimal digits that a correctly rounding reader turns back
into it, and of those digits the ones nearest to its value.

A positive finite double is `m * 2 ^ q`. The reals that round to it reach half way to the
doubles beside it, both ends included exactly when `m` is even. The search tries one digit, two
digits, and so on: on each grid of powers of ten it looks at the two neighbours of the value,
and the first grid with a neighbour inside the interval is taken. Everything is exact
arithmetic on naturals. Where both neighbours are equally near, the format decides (`Tie`).
-/

namespace Itinerary.Decimal

-- powers are those of the core library, whatever else is imported
attribute [local instance (high)] instPowNat

/-- A positive binary number, `mantissa * 2 ^ exponent`. -/
structure Binary where
  /-- the significant bits -/
  mantissa : Nat
  /-- the power of two they are counted in -/
  exponent : Int
  /-- whether the double below is only half as far away as the one above -/
  narrowBelow : Bool

/-- A decimal number, `digits * 10 ^ exponent`. -/
structure Scaled where
  /-- the significant digits, as one number -/
  digits : Nat
  /-- the power of ten they are counted in -/
  exponent : Int
deriving DecidableEq, Repr

/-- Which of two equally near decimals is taken. -/
inductive Tie where
  /-- the greater one -/
  | up
  /-- the one whose last digit is even -/
  | even
deriving DecidableEq

/-! ### A double taken apart -/

/-- The sign bit. -/
def isNegative (x : Float) : Bool := x.toBits >>> 63 == 1

/-- The biased exponent, eleven bits. -/
def biasedExponent (x : Float) : Nat := (x.toBits >>> 52 &&& 0x7FF).toNat

/-- The fraction, fifty-two bits. -/
def fraction (x : Float) : Nat := (x.toBits &&& 0xFFFFFFFFFFFFF).toNat

/-- The magnitude of a finite double. -/
def Binary.ofFloat (x : Float) : Binary :=
  if biasedExponent x = 0 then ⟨fraction x, -1074, false⟩
  else ⟨2 ^ (52 : Nat) + fraction x, biasedExponent x - 1075, fraction x == 0 && 1 < biasedExponent x⟩

/-! ### The interval that reads back -/

/-- Compares `a * 10 ^ i` with `b * 2 ^ j`. -/
def compareScaled (a : Nat) (i : Int) (b : Nat) (j : Int) : Ordering :=
  compare (a * 10 ^ i.toNat * 2 ^ (-j).toNat) (b * 2 ^ j.toNat * 10 ^ (-i).toNat)

/-- Whether a decimal lies among the reals that round to the binary number. -/
def Binary.readsBack (x : Binary) (d : Scaled) : Bool :=
  -- in quarters of the last bit: a double is four wide, and half way to its neighbours is two
  let low := if x.narrowBelow then 4 * x.mantissa - 1 else 4 * x.mantissa - 2
  let high := 4 * x.mantissa + 2
  let closed := x.mantissa % 2 == 0
  let fromLow := compareScaled d.digits d.exponent low (x.exponent - 2)
  let toHigh := compareScaled d.digits d.exponent high (x.exponent - 2)
  (fromLow == .gt || (closed && fromLow == .eq)) && (toHigh == .lt || (closed && toHigh == .eq))

/-! ### The search -/

/-- The least `k` with `x < 10 ^ k`. Scaled by `10 ^ 400` even the least double is a whole
number of many digits, so counting digits is exact. -/
def Binary.magnitude (x : Binary) : Int :=
  let scaled := x.mantissa * 2 ^ x.exponent.toNat * 10 ^ (400 : Nat) / 2 ^ (-x.exponent).toNat
  ((Nat.toDigits 10 scaled).length : Int) - 400

/-- The nearest decimal on the grid of `10 ^ exponent` that reads back, if there is one. -/
def Binary.onGrid? (x : Binary) (tie : Tie) (exponent : Int) : Option Scaled :=
  let num := x.mantissa * 2 ^ x.exponent.toNat * 10 ^ (-exponent).toNat
  let den := 2 ^ (-x.exponent).toNat * 10 ^ exponent.toNat
  let below : Scaled := ⟨num / den, exponent⟩
  let above : Scaled := ⟨num / den + 1, exponent⟩
  match x.readsBack below, x.readsBack above with
  | true, true =>
    -- the value against the middle of its two neighbours
    match compare (2 * num) ((2 * below.digits + 1) * den) with
    | .lt => some below
    | .gt => some above
    | .eq =>
      match tie with
      | .up => some above
      | .even => some (if below.digits % 2 = 0 then below else above)
  | true, false => some below
  | false, true => some above
  | false, false => none

/-- Moves the zeros at the end of the digits into the exponent. The bound is a count of
steps that cannot run out: a number has fewer trailing zeros than its value. -/
def Scaled.strip (d : Scaled) : Scaled :=
  go d.digits d
where
  /-- Moves at most so many zeros. -/
  go : Nat → Scaled → Scaled
    | 0, d => d
    | steps + 1, d =>
      if d.digits % 10 = 0 && d.digits != 0 then go steps ⟨d.digits / 10, d.exponent + 1⟩ else d

/-- The exact value of a binary number, which reads back whatever else happens. -/
def Binary.exact (x : Binary) : Scaled :=
  if 0 ≤ x.exponent then ⟨x.mantissa * 2 ^ x.exponent.toNat, 0⟩
  else ⟨x.mantissa * 5 ^ (-x.exponent).toNat, x.exponent⟩

/-- The shortest decimal that reads back as the double, of the nearest. Seventeen digits always
suffice for a double. -/
def shortest (tie : Tie) (x : Float) : Scaled :=
  let b := Binary.ofFloat x
  if b.mantissa = 0 then ⟨0, 0⟩
  else
    let k := b.magnitude
    -- `n + 1` digits of a value below `10 ^ k` are counted in `10 ^ (k - (n + 1))`
    let found := (List.range 17).findSome? fun n => b.onGrid? tie (k - (n + 1 : Nat))
    (found.getD b.exact).strip

end Itinerary.Decimal
