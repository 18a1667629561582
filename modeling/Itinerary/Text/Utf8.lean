/-!
# Texts as bytes

`encode` writes a text in UTF-8; `scan` reads bytes that may or may not be UTF-8. The scanner
does not give up at a fault: it yields `none` for each maximal run of bytes that starts a
character and does not finish it, and goes on after that run. Three readings are derived from
it: `decode?` refuses any fault, `decodeLossy` shows each fault as U+FFFD, and the JSON reader
keeps the faults, since inside a value nobody reads they do no harm.

The second byte of a three- or four-byte character has a narrower range after some first
bytes; `secondRange` states it, and with it overlong forms, surrogates and code points past
U+10FFFF are excluded.
-/

namespace Itinerary.Text.Utf8

/-! ### Writing -/

/-- The bytes of one character. -/
def encodeChar (c : Char) : List UInt8 :=
  let n := c.toNat
  if n < 0x80 then [n.toUInt8]
  else if n < 0x800 then [(0xC0 + n / 0x40).toUInt8, (0x80 + n % 0x40).toUInt8]
  else if n < 0x10000 then
    [(0xE0 + n / 0x1000).toUInt8, (0x80 + n / 0x40 % 0x40).toUInt8, (0x80 + n % 0x40).toUInt8]
  else
    [(0xF0 + n / 0x40000).toUInt8, (0x80 + n / 0x1000 % 0x40).toUInt8,
      (0x80 + n / 0x40 % 0x40).toUInt8, (0x80 + n % 0x40).toUInt8]

/-- The bytes of a list of characters. -/
def encodeChars (cs : List Char) : List UInt8 := cs.flatMap encodeChar

/-- The bytes of a text. -/
def encode (s : String) : List UInt8 := encodeChars s.toList

/-! ### Reading -/

/-- How many bytes follow a first byte, and the payload bits of that byte; `none` if the byte
starts no character of several bytes. -/
def lead (n : Nat) : Option (Nat × Nat) :=
  if 0xC2 ≤ n && n ≤ 0xDF then some (1, n % 0x20)
  else if 0xE0 ≤ n && n ≤ 0xEF then some (2, n % 0x10)
  else if 0xF0 ≤ n && n ≤ 0xF4 then some (3, n % 0x08)
  else none

/-- The least and greatest second byte that may follow a first byte. -/
def secondRange (first : Nat) : Nat × Nat :=
  if first = 0xE0 then (0xA0, 0xBF)
  else if first = 0xED then (0x80, 0x9F)
  else if first = 0xF0 then (0x90, 0xBF)
  else if first = 0xF4 then (0x80, 0x8F)
  else (0x80, 0xBF)

/-- Whether a byte lies in a range. -/
def inRange (range : Nat × Nat) (b : UInt8) : Bool :=
  range.1 ≤ b.toNat && b.toNat ≤ range.2

/-- The six payload bits of a byte that continues a character. -/
def payload (b : UInt8) : Nat := b.toNat % 0x40

/-- Reads the bytes still due to a character whose payload so far is `acc`. The next byte has to
lie in `range`, the ones after it only have to continue a character. -/
def finish : Nat → Nat → Nat × Nat → List UInt8 → Option Char × List UInt8
  | 0, acc, _, rest => (some (Char.ofNat acc), rest)
  | _ + 1, _, _, [] => (none, [])
  | due + 1, acc, range, b :: rest =>
    if inRange range b then finish due (acc * 0x40 + payload b) (0x80, 0xBF) rest
    else (none, b :: rest)

/-- The first character of some bytes, or `none` for a fault, with the bytes after it. -/
def next (b : UInt8) (rest : List UInt8) : Option Char × List UInt8 :=
  if b.toNat < 0x80 then (some (Char.ofNat b.toNat), rest)
  else
    match lead b.toNat with
    | some (due, bits) => finish due bits (secondRange b.toNat) rest
    | none => (none, rest)

theorem length_finish_le (due acc : Nat) (range : Nat × Nat) (rest : List UInt8) :
    (finish due acc range rest).2.length ≤ rest.length := by
  fun_induction finish due acc range rest with
  | case1 => exact Nat.le_refl _
  | case2 => exact Nat.le_refl _
  | case3 _ _ _ _ _ _ ih => simp only [List.length_cons]; omega
  | case4 => exact Nat.le_refl _

/-- Reading one character uses up at least its first byte. -/
theorem length_next_le (b : UInt8) (rest : List UInt8) :
    (next b rest).2.length ≤ rest.length := by
  unfold next
  split
  · exact Nat.le_refl _
  · split
    · exact length_finish_le ..
    · exact Nat.le_refl _

/-- The characters of some bytes, each fault as `none`. -/
def scan : List UInt8 → List (Option Char)
  | [] => []
  | b :: rest => (next b rest).1 :: scan (next b rest).2
termination_by bytes => bytes.length
decreasing_by
  have := length_next_le b rest
  simp only [List.length_cons]
  omega

/-- The text of some bytes, if they are UTF-8. -/
def decode? (bytes : List UInt8) : Option String := ((scan bytes).mapM id).map String.ofList

/-- The text of some bytes, with U+FFFD for each fault. -/
def decodeLossy (bytes : List UInt8) : String :=
  String.ofList ((scan bytes).map (·.getD '\uFFFD'))

end Itinerary.Text.Utf8
