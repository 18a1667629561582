import Itinerary.Calendar.Formats

/-!
# Disruptions

A disruption is an alert about the service, known by a key, with texts and perhaps the time for
which it holds. In the info of a ride it appears as one line, its `summary?`.
-/

namespace Itinerary

open Calendar

/-- The time for which a disruption holds, ends included. -/
structure TimeRange where
  start : DateTime
  finish : DateTime
deriving DecidableEq, Repr

namespace TimeRange

/-- Reads two ends with the first hyphen between them. -/
def ofString? (s : String) : Option TimeRange :=
  match s.toList.span (· != '-') with
  | (start, '-' :: finish) =>
    match readRangeEnd (String.ofList start), readRangeEnd (String.ofList finish) with
    | some start, some finish => some ⟨start, finish⟩
    | _, _ => none
  | _ => none

/-- Whether a time lies in the range. -/
def contains (r : TimeRange) (t : DateTime) : Bool := r.start.le t && t.le r.finish

end TimeRange

/-- An alert about the service. -/
structure Disruption where
  /-- the key that the alert is known by -/
  key : String
  id : Option String
  header : Option String
  lead : Option String
  text : Option String
  timeRange : Option TimeRange
deriving DecidableEq, Repr

/-- A text without its outer blanks, if anything is left. -/
def nonBlank? (s : Option String) : Option String :=
  (s.map Text.trim).filter fun t => !t.isEmpty

/-- One line about a disruption: heading and lead, or the one of them that is not blank. -/
def Disruption.summary? (d : Disruption) : Option String :=
  match nonBlank? d.header, nonBlank? d.lead with
  | some h, some l => some (h ++ ": " ++ l)
  | some h, none => some h
  | none, l => l

end Itinerary
