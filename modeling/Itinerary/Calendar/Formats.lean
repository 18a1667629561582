import Itinerary.Calendar.Pattern
import Itinerary.Text.Quoted

/-!
# The date and time formats in use

The timetable provider stamps its times `2024-03-15 08:02:00` and asks for a query time as two
parameters, `03/15/2024` and `08:02`. Its alerts name their validity by the minute, in German or
English order. Callers give a date and a time of day, and are shown times by the minute. Stored
times are in ISO form with the fraction of the second.
-/

namespace Itinerary.Calendar

/-- Year, month and day with hyphens. -/
def dashedDate : Pattern :=
  [.field .year, .literal '-', .field .month, .literal '-', .field .day]

/-- Hour and minute with a colon. -/
def hourMinute : Pattern := [.field .hour, .literal ':', .field .minute]

/-- The provider's stamps: date, a gap, and the time to the second. -/
def stamp : Pattern :=
  dashedDate ++ [.gap 1] ++ hourMinute ++ [.literal ':', .field .second]

/-- Date and minute as shown to callers. -/
def shownMinute : Pattern := dashedDate ++ [.gap 1] ++ hourMinute

/-- The date of a query: month, day and year with slashes. -/
def slashedDate : Pattern :=
  [.field .month, .literal '/', .field .day, .literal '/', .field .year]

/-- An end of a validity range in German form. -/
def germanMinute : Pattern :=
  [.field .day, .literal '.', .field .month, .literal '.', .field .year, .gap 1] ++ hourMinute

/-- An end of a validity range in English form. -/
def englishMinute : Pattern := slashedDate ++ [.gap 1] ++ hourMinute

/-- The ISO form of stored times. Blanks are allowed where a gap stands. -/
def iso : Pattern :=
  [.field .year, .gap 0, .literal '-', .field .month, .gap 0, .literal '-', .field .day, .gap 0,
    .literal 'T', .field .hour, .gap 0, .literal ':', .field .minute, .gap 0, .literal ':',
    .field .second, .fraction, .gap 0]

/-- A stamp that is not of the form the provider uses. -/
structure StampError where
  /-- the text as it was given -/
  input : String
deriving DecidableEq, Repr

/-- The wording of a stamp error. -/
def StampError.message (e : StampError) : String :=
  "invalid timestamp " ++ Text.quote e.input ++ ": expected YYYY-MM-DD HH:MM:SS"

/-- Reads a stamp, blanks around it aside. -/
def readStamp (s : String) : Except StampError DateTime :=
  match stamp.read (Text.trim s) with
  | some t => .ok t
  | none => .error ⟨s⟩

/-- The forms that the end of a validity range may have, in the order they are tried. -/
def rangeForms : List Pattern := [germanMinute, englishMinute]

/-- Reads an end of a validity range, blanks around it aside. -/
def readRangeEnd (s : String) : Option DateTime :=
  rangeForms.findSome? fun form => form.read (Text.trim s)

end Itinerary.Calendar
