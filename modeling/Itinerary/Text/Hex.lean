/-!
# Hexadecimal digits

Digits are read in either case. Numbers are written in lower case, padded to a width where the
place has one; the escapes of addresses are written in upper case.
-/

namespace Itinerary.Text.Hex

/-- The value of a digit. -/
def value? (c : Char) : Option Nat :=
  if '0' ≤ c && c ≤ '9' then some (c.toNat - '0'.toNat)
  else if 'a' ≤ c && c ≤ 'f' then some (c.toNat - 'a'.toNat + 10)
  else if 'A' ≤ c && c ≤ 'F' then some (c.toNat - 'A'.toNat + 10)
  else none

/-- The number that some digit values make up. -/
def number (values : List Nat) : Nat := values.foldl (fun n d => n * 16 + d) 0

/-- A number in lower case, with zeros in front up to the given width. -/
def padded (width n : Nat) : List Char :=
  let digits := Nat.toDigits 16 n
  List.replicate (width - digits.length) '0' ++ digits

/-- The upper-case digit of a value below 16. -/
def upper (n : Nat) : Char :=
  if n < 10 then Char.ofNat ('0'.toNat + n) else Char.ofNat ('A'.toNat + (n - 10))

end Itinerary.Text.Hex
