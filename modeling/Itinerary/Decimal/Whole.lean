/-!
# Whole numbers as decimal text

Writing is core's `Nat.toDigits`, with a sign for negative numbers and a least width where a
format asks for one. Reading comes in two forms. `readInt` takes an optional sign and ASCII
digits, leading zeros included, and refuses a value beyond 64 bits. `readCount` reads an
unsigned number below a bound and says which fault came first: it meets the characters one by
one, so a number that has already grown too large is reported as such even if a stray
character follows.
-/

namespace Itinerary.Decimal

/-! ### Writing -/

/-- An integer in decimal, with `-` in front of a negative one. -/
def intText : Int → List Char
  | .ofNat n => Nat.toDigits 10 n
  | .negSucc n => '-' :: Nat.toDigits 10 (n + 1)

/-- A number in decimal with zeros in front up to the given width. -/
def padded (width n : Nat) : List Char :=
  let digits := Nat.toDigits 10 n
  List.replicate (width - digits.length) '0' ++ digits

/-! ### Reading integers -/

/-- The number a run of digits stands for. -/
def value (digits : List Char) : Nat := Nat.ofDigitChars 10 digits 0

/-- Whether the characters are one or more ASCII digits. -/
def isDigits (cs : List Char) : Bool := !cs.isEmpty && cs.all Char.isDigit

/-- The least integer of 64 bits. -/
def minInt64 : Int := -9223372036854775808

/-- The greatest integer of 64 bits. -/
def maxInt64 : Int := 9223372036854775807

/-- The integer, if it fits in 64 bits. -/
def fit64 (n : Int) : Option Int :=
  if minInt64 ≤ n ∧ n ≤ maxInt64 then some n else none

/-- An optional sign and one or more digits, as an integer of 64 bits. -/
def readInt (cs : List Char) : Option Int :=
  match cs with
  | '-' :: ds => if isDigits ds then fit64 (-(value ds : Int)) else none
  | '+' :: ds => if isDigits ds then fit64 (value ds) else none
  | ds => if isDigits ds then fit64 (value ds) else none

/-! ### Reading counts -/

/-- Why a text is no count. -/
inductive CountFault where
  | empty
  | invalidDigit
  | tooLarge
deriving DecidableEq, Repr

/-- The wording of a fault. -/
def CountFault.message : CountFault → String
  | .empty => "cannot parse integer from empty string"
  | .invalidDigit => "invalid digit found in string"
  | .tooLarge => "number too large to fit in target type"

/-- Reads further digits onto a number, up to the bound. -/
def countFrom (bound : Nat) : Nat → List Char → Except CountFault Nat
  | acc, [] => .ok acc
  | acc, c :: cs =>
    if c.isDigit then
      let acc' := acc * 10 + (c.toNat - '0'.toNat)
      if acc' ≤ bound then countFrom bound acc' cs else .error .tooLarge
    else .error .invalidDigit

/-- An optional `+` and digits, as a number of at most `bound`. -/
def readCount (bound : Nat) (cs : List Char) : Except CountFault Nat :=
  match cs with
  | [] => .error .empty
  | ['+'] => .error .invalidDigit
  | '+' :: ds => countFrom bound 0 ds
  | ds => countFrom bound 0 ds

/-- The greatest number of 32 bits. -/
def maxCount32 : Nat := 4294967295

/-- The greatest number of 64 bits. -/
def maxCount64 : Nat := 18446744073709551615

end Itinerary.Decimal
