import Itinerary.Text.Hex
import Itinerary.Text.Utf8

/-!
# Percent escapes

An address is written in ASCII. A character that may not stand in a place of it is written as
its UTF-8 bytes, each as `%` and two upper-case hexadecimal digits. What may stand where differs
from place to place, so `encodeChars` takes the characters to keep as a parameter.

Reading is on bytes and never fails: a `%` without two digits behind it stands for itself.
-/

namespace Itinerary.Url.Percent

open Text

/-! ### Writing -/

/-- A byte as an escape. -/
def encodeByte (b : UInt8) : List Char :=
  ['%', Hex.upper (b.toNat / 16), Hex.upper (b.toNat % 16)]

/-- A character: kept, or its bytes as escapes. -/
def encodeChar (keep : Char → Bool) (c : Char) : List Char :=
  if keep c then [c] else (Utf8.encodeChar c).flatMap encodeByte

/-- Characters with those escaped that are not kept. -/
def encodeChars (keep : Char → Bool) (cs : List Char) : List Char := cs.flatMap (encodeChar keep)

/-- A text with escapes for the characters that are not kept. -/
def escape (keep : Char → Bool) (cs : List Char) : String := String.ofList (encodeChars keep cs)

/-- Whether a character is printable ASCII other than a space. -/
def isVisible (c : Char) : Bool := 0x21 ≤ c.toNat && c.toNat ≤ 0x7E

/-- Whether a character is printable ASCII other than a space and none of some others. -/
def isVisibleBut (others : List Char) (c : Char) : Bool := isVisible c && !others.contains c

/-! ### Reading -/

/-- The value of a hexadecimal digit given as its byte. -/
def digit? (b : UInt8) : Option Nat := Hex.value? (Char.ofNat b.toNat)

/-- The byte of `%`. -/
def mark : UInt8 := 37

/-- The bytes behind escapes. -/
def decode : List UInt8 → List UInt8
  | m :: a :: b :: rest =>
    if m = mark then
      match digit? a, digit? b with
      | some x, some y => (x * 16 + y).toUInt8 :: decode rest
      | _, _ => m :: decode (a :: b :: rest)
    else m :: decode (a :: b :: rest)
  | bytes => bytes

/-- A byte that is no mark stands for itself. -/
theorem decode_cons_of_ne {b : UInt8} (h : b ≠ mark) (rest : List UInt8) :
    decode (b :: rest) = b :: decode rest := by
  match rest with
  | [] => rfl
  | [_] => rfl
  | _ :: _ :: _ => rw [decode, if_neg h]

end Itinerary.Url.Percent
