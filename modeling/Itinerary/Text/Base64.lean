/-!
# Base64 for addresses

Bytes as text that needs no escaping in an address: three bytes become four symbols of six bits,
from the alphabet that ends in `-` and `_`, and nothing pads the last group. The written form is
canonical, so `decode` refuses whatever `encode` does not produce: foreign symbols, padding, a
symbol that stands alone in its group, and bits of the last symbol that belong to no byte.

`decode` names the first fault it meets. A symbol that would stand alone at the end is looked at
first, then all groups but the last from left to right, then the last.
-/

namespace Itinerary.Text.Base64

/-! ### The alphabet -/

/-- The symbol for a value below 64. -/
def symbol (n : Nat) : Char :=
  if n < 26 then Char.ofNat ('A'.toNat + n)
  else if n < 52 then Char.ofNat ('a'.toNat + (n - 26))
  else if n < 62 then Char.ofNat ('0'.toNat + (n - 52))
  else if n = 62 then '-'
  else '_'

/-- The value of a symbol, given as its byte. -/
def value? (b : UInt8) : Option Nat :=
  let n := b.toNat
  if 'A'.toNat ≤ n && n ≤ 'Z'.toNat then some (n - 'A'.toNat)
  else if 'a'.toNat ≤ n && n ≤ 'z'.toNat then some (n - 'a'.toNat + 26)
  else if '0'.toNat ≤ n && n ≤ '9'.toNat then some (n - '0'.toNat + 52)
  else if n = '-'.toNat then some 62
  else if n = '_'.toNat then some 63
  else none

/-- Reading a symbol gives the value it was written for. -/
theorem value?_symbol {n : Nat} (h : n < 64) : value? (symbol n).toNat.toUInt8 = some n := by
  have all : ∀ k : Fin 64, value? (symbol k.val).toNat.toUInt8 = some k.val := by decide
  exact all ⟨n, h⟩

/-- The byte that other dialects fill the last group with. -/
def pad : UInt8 := 61

/-! ### Writing -/

/-- The symbols of some bytes. -/
def encodeChars : List UInt8 → List Char
  | [] => []
  | [a] => [symbol (a.toNat / 4), symbol (a.toNat % 4 * 16)]
  | [a, b] =>
    [symbol (a.toNat / 4), symbol (a.toNat % 4 * 16 + b.toNat / 16), symbol (b.toNat % 16 * 4)]
  | a :: b :: c :: rest =>
    symbol (a.toNat / 4) :: symbol (a.toNat % 4 * 16 + b.toNat / 16) ::
      symbol (b.toNat % 16 * 4 + c.toNat / 64) :: symbol (c.toNat % 64) :: encodeChars rest

/-- Some bytes as text. -/
def encode (bytes : List UInt8) : String := String.ofList (encodeChars bytes)

/-! ### Reading -/

/-- Why bytes are no written form; offsets count from the start of the text. -/
inductive Fault where
  /-- a byte outside the alphabet -/
  | foreign (byte : UInt8) (offset : Nat)
  /-- the last group holds a single symbol -/
  | lone (length : Nat)
  /-- the last group is padded -/
  | padded
  /-- the last symbol has bits that belong to no byte -/
  | trailingBits (byte : UInt8) (offset : Nat)
deriving DecidableEq, Repr

/-- What a fault is reported as. -/
def Fault.message : Fault → String
  | .foreign b i => "Invalid symbol " ++ toString b.toNat ++ ", offset " ++ toString i ++ "."
  | .lone n => "Invalid input length: " ++ toString n
  | .padded => "Invalid padding"
  | .trailingBits b i =>
    "Invalid last symbol " ++ toString b.toNat ++ ", offset " ++ toString i ++ "."

/-- The value of the byte that stands at an offset. -/
def valueAt (offset : Nat) (b : UInt8) : Except Fault Nat :=
  match value? b with
  | some v => .ok v
  | none => .error (.foreign b offset)

/-- The first byte of two values. -/
def firstByte (x y : Nat) : UInt8 := (x * 4 + y / 16).toUInt8

/-- The second byte, from the second and third value. -/
def secondByte (y z : Nat) : UInt8 := (y % 16 * 16 + z / 4).toUInt8

/-- The third byte, from the third and fourth value. -/
def thirdByte (z w : Nat) : UInt8 := (z % 4 * 64 + w).toUInt8

/-- The values of the last group up to its padding. Padding may not start before the third place
and nothing but padding may follow it; of padding that is out of place the first is reported. -/
def lastValues (start : Nat) : Nat → List UInt8 → Except Fault (List Nat)
  | _, [] => .ok []
  | i, b :: rest =>
    if b = pad then
      -- a byte needs two symbols, so padding has the third place at the earliest
      if i < 2 || rest.any (· ≠ pad) then .error (.foreign pad (start + i)) else .ok []
    else do
      let v ← valueAt (start + i) b
      let vs ← lastValues start (i + 1) rest
      return v :: vs

/-- The bytes of the last group, which starts at an offset. -/
def decodeLast (start : Nat) (group : List UInt8) : Except Fault (List UInt8) :=
  if group.isEmpty then .ok []
  else do
    let values ← lastValues start 0 group
    if values.length < 2 then .error (.lone (start + values.length))
    else if values.length < group.length then .error .padded
    else
      match values with
      | [x, y] =>
        -- one byte takes eight of the twelve bits
        if y % 16 = 0 then .ok [firstByte x y]
        else .error (.trailingBits (group.getD 1 0) (start + 1))
      | [x, y, z] =>
        -- two bytes take sixteen of the eighteen bits
        if z % 4 = 0 then .ok [firstByte x y, secondByte y z]
        else .error (.trailingBits (group.getD 2 0) (start + 2))
      | x :: y :: z :: w :: _ => .ok [firstByte x y, secondByte y z, thirdByte z w]
      | _ => .ok []

/-- The bytes of the groups from an offset on; a group with bytes behind it is whole. -/
def decodeGroups (start : Nat) : List UInt8 → Except Fault (List UInt8)
  | a :: b :: c :: d :: e :: rest => do
    let x ← valueAt start a
    let y ← valueAt (start + 1) b
    let z ← valueAt (start + 2) c
    let w ← valueAt (start + 3) d
    let bytes ← decodeGroups (start + 4) (e :: rest)
    return firstByte x y :: secondByte y z :: thirdByte z w :: bytes
  | group => decodeLast start group

/-- The last byte, with its offset, if it would stand alone in its group. -/
def loneLast? (bytes : List UInt8) : Option (UInt8 × Nat) :=
  if bytes.length % 4 = 1 then bytes.getLast?.map (·, bytes.length - 1) else none

/-- The bytes behind a text that is given as its own bytes. -/
def decode (bytes : List UInt8) : Except Fault (List UInt8) :=
  match loneLast? bytes with
  | some (b, i) =>
    -- a symbol or padding is no fault in itself, so the groups before it are read first
    if (value? b).isNone && b ≠ pad then .error (.foreign b i) else decodeGroups 0 bytes
  | none => decodeGroups 0 bytes

end Itinerary.Text.Base64
