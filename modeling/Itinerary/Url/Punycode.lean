/-!
# Labels in ASCII

A text in any characters can be written in ASCII letters, digits and hyphens: first its ASCII
characters, a hyphen if there are any, and then a series of numbers in base 36 that say which
other characters stand where. The others are put in place in the order of their code points, and
each number counts how many steps it is from one to the next: a step goes to the next place in
the text so far, and from behind its end to the start with the next code point.

The digits of a number need no mark at its end: a digit below the threshold of its position is
the last one. The thresholds follow a *bias*, which is adapted after every number.

Main definitions:

* `encode`: a text in ASCII.
* `decode?`: the text that was written in ASCII.
-/

namespace Itinerary.Url.Punycode

/-! ### Digits and thresholds -/

/-- The digit of a value below 36. -/
def digit (n : Nat) : Char :=
  if n < 26 then Char.ofNat ('a'.toNat + n) else Char.ofNat ('0'.toNat + (n - 26))

/-- The value of a digit in lower case. -/
def digit? (c : Char) : Option Nat :=
  if 'a' ≤ c ∧ c ≤ 'z' then some (c.toNat - 'a'.toNat)
  else if '0' ≤ c ∧ c ≤ '9' then some (c.toNat - '0'.toNat + 26)
  else none

/-- The threshold of a position; positions count in steps of 36. -/
def threshold (bias position : Nat) : Nat := min (max (position - bias) 1) 26

theorem one_le_threshold (bias position : Nat) : 1 ≤ threshold bias position := by
  unfold threshold; omega

/-- The bias for a number that was scaled down, with what the steps of that have added. -/
def settle (steps n : Nat) : Nat :=
  if 455 < n then settle (steps + 36) (n / 35) else steps + 36 * n / (n + 38)
termination_by n
decreasing_by omega

/-- The bias after a number, the first or not, with so many characters in place. -/
def adapt (isFirst : Bool) (n count : Nat) : Nat :=
  let scaled := if isFirst then n / 700 else n / 2
  settle 0 (scaled + scaled / count)

/-! ### Writing -/

/-- A number in digits from a position on. -/
def writeNumber (bias position n : Nat) : List Char :=
  let t := threshold bias position
  if n < t then [digit n]
  else digit (t + (n - t) % (36 - t)) :: writeNumber bias (position + 36) ((n - t) / (36 - t))
termination_by n
decreasing_by
  have := one_le_threshold bias position
  exact Nat.lt_of_le_of_lt (Nat.div_le_self ..) (by omega)

/-- What the writing of a text has come to. -/
structure Progress where
  /-- the digits so far, the last one first -/
  digits : List Char
  /-- the steps that are due -/
  due : Nat
  bias : Nat
  /-- how many characters are in place -/
  placed : Nat

/-- Passes one character of the text while those of one code point are put in place. Characters
that are in place already add to the steps, and one of the code point ends them. -/
def Progress.pass (ascii codePoint : Nat) (p : Progress) (c : Char) : Progress :=
  if c.toNat < codePoint then { p with due := p.due + 1 }
  else if c.toNat = codePoint then
    { digits := (writeNumber p.bias 36 p.due).reverse ++ p.digits
      due := 0
      -- nothing but the ASCII characters is in place when the first number is written
      bias := adapt (p.placed == ascii) p.due (p.placed + 1)
      placed := p.placed + 1 }
  else p

/-- Puts the characters of one code point in place; those of smaller ones are. The second part
of the state is the least code point that has not been passed. -/
def Progress.place (text : List Char) (ascii : Nat) (p : Progress × Nat) (codePoint : Nat) :
    Progress × Nat :=
  -- each code point passed over costs a round through the characters in place and the end
  let start := { p.1 with due := p.1.due + (codePoint - p.2) * (p.1.placed + 1) }
  let done := text.foldl (Progress.pass ascii codePoint) start
  ({ done with due := done.due + 1 }, codePoint + 1)

/-- The code points outside ASCII, in ascending order and each once. -/
def foreign (text : List Char) : List Nat :=
  ((text.map Char.toNat).filter (0x80 ≤ ·)).mergeSort.eraseDups

/-- A text in ASCII. -/
def encode (text : List Char) : List Char :=
  let plain := text.filter fun c => c.toNat < 0x80
  let start : Progress := ⟨[], 0, 72, plain.length⟩
  let done := (foreign text).foldl (Progress.place text plain.length) (start, 0x80)
  plain ++ (if plain.isEmpty then [] else ['-']) ++ done.1.digits.reverse

/-! ### Reading -/

/-- The greatest number that is read, and the greatest weight of a digit. -/
def greatest : Nat := 0xFFFFFFFF

/-- Adds the digits of a number to what there is, up to and with its last one. Gives the sum and
what follows the number. -/
def readNumber? (bias : Nat) : Nat → Nat → Nat → List Char → Option (Nat × List Char)
  | _, _, _, [] => none
  | position, weight, sum, c :: rest =>
    match digit? c with
    | none => none
    | some d =>
      let t := threshold bias position
      if greatest < sum + d * weight then none
      else if d < t then some (sum + d * weight, rest)
      else if greatest < weight * (36 - t) then none
      else readNumber? bias (position + 36) (weight * (36 - t)) (sum + d * weight) rest

/-- A number has at least one digit. -/
theorem length_lt_of_readNumber? {bias position weight sum : Nat} {cs : List Char}
    {r : Nat × List Char} (h : readNumber? bias position weight sum cs = some r) :
    r.2.length < cs.length := by
  induction cs generalizing position weight sum with
  | nil => simp [readNumber?] at h
  | cons c rest ih =>
    unfold readNumber? at h
    split at h
    · simp at h
    · simp only at h
      split at h
      · simp at h
      · split at h
        · cases h
          simp
        · split at h
          · simp at h
          · have := ih h
            simp only [List.length_cons]
            omega

/-- The character of a code point. -/
def character? (n : Nat) : Option Char := if n.isValidChar then some (Char.ofNat n) else none

/-- Puts characters in place as the numbers say: into a text so far, from a place on, with the
code point of the last character that was put. -/
def insertAll? (text : List Char) (bias codePoint place : Nat) (cs : List Char) :
    Option (List Char) :=
  if cs.isEmpty then some text
  else
    match _read : readNumber? bias 36 1 place cs with
    | none => none
    | some (sum, rest) =>
      let places := text.length + 1
      match character? (codePoint + sum / places) with
      | none => none
      | some c =>
        insertAll? (text.insertIdx (sum % places) c)
          -- only the first number starts from the first place
          (adapt (place == 0) (sum - place) places)
          (codePoint + sum / places) (sum % places + 1) rest
termination_by cs.length
decreasing_by exact length_lt_of_readNumber? _read

/-- The text that was written in ASCII, in lower case: the last hyphen ends its ASCII
characters. -/
def decode? (cs : List Char) : Option (List Char) :=
  let numbers := (cs.reverse.takeWhile (· ≠ '-')).reverse
  let plain := cs.take (cs.length - numbers.length - 1)
  -- without ASCII characters there is no hyphen
  if cs.head? = some '-' ∧ plain.isEmpty then none else insertAll? plain 72 0x80 0 numbers

end Itinerary.Url.Punycode
