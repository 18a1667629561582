import Itinerary.Decimal.Whole
import Itinerary.Text.Blank

/-!
# Delays

The provider reports a delay as a whole number of minutes, or as the mark `X` for a call that is
cancelled. A text that is neither is kept as it came and counts as no delay, so a bad delay never
costs a trip.
-/

namespace Itinerary

/-- A reported delay. -/
inductive Delay where
  /-- so many minutes late, early if negative -/
  | minutes (n : Int)
  | cancelled
  /-- a text that is no delay -/
  | unreadable (raw : String)
  | absent
deriving DecidableEq, Repr

namespace Delay

/-- The minutes by which a delay moves a time. -/
def offset : Delay → Int
  | minutes n => n
  | _ => 0

/-- Whether the call is cancelled. -/
def isCancelled : Delay → Bool
  | cancelled => true
  | _ => false

/-- The mark of a cancelled call. -/
def cancelMark : List Char := ['X']

/-- The delay that a text reports, blanks around it aside. -/
def ofText (raw : String) : Delay :=
  let cs := Text.trimChars raw.toList
  if cs = cancelMark then cancelled
  else if cs.isEmpty then absent
  else
    match Decimal.readInt cs with
    | some n => minutes n
    | none => unreadable raw

end Delay

end Itinerary
