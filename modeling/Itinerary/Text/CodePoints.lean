/-!
# Sets of code points

A property of characters is given by the ranges of code points that have it. The ranges of a
large set come in blocks, so that a look-up passes over those of other scripts at once.

Main definitions:

* `inRanges`: whether a code point lies in one of a few ranges.
* `CodePoints`, `CodePoints.contains`: a set of many ranges and whether a character is in it.
-/

namespace Itinerary.Text

/-- Whether a code point lies in one of some ranges, both ends of which are included. -/
def inRanges (ranges : List (Nat × Nat)) (n : Nat) : Bool :=
  ranges.any fun (lo, hi) => lo ≤ n && n ≤ hi

/-- A set of code points. -/
structure CodePoints where
  /-- blocks in ascending order, each with the last code point that it decides about and the
  ranges of the set up to there -/
  blocks : List (Nat × List (Nat × Nat))

namespace CodePoints

/-- Whether a character is in a set; the first block that reaches it decides. -/
def contains (s : CodePoints) (c : Char) : Bool :=
  match s.blocks.find? (c.toNat ≤ ·.1) with
  | some (_, ranges) => inRanges ranges c.toNat
  | none => false

end CodePoints

end Itinerary.Text
