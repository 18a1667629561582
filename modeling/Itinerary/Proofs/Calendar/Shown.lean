import Itinerary.Proofs.Calendar.Stamp

/-!
# Times shown by the minute

A caller is shown times without their seconds. What is read back of such a text is the time cut off
behind its minute, whatever the year is: one beyond four digits has a sign, and one behind which no
hyphen came would not end (`shownMinute_read_write`).

Two times that are so many whole minutes apart are as far into their minutes, so cutting both off
takes the same from either, and the texts are as far apart as the times (`addMinutes?_truncated`).
With times in leap seconds this fails, since a leap second is left by an ordinary one.
-/

namespace Itinerary.Calendar

open Decimal Text

/-- A date and time cut off behind its minute. -/
def DateTime.truncated (t : DateTime) : DateTime := ⟨t.date, t.clock.truncated⟩

theorem shownMinute_fits (t : DateTime) : shownMinute.Fits (Fields.ofDateTime t) := by
  obtain ⟨hmonth, hday, hhour, hminute, -⟩ := two_digits t
  -- a hyphen ends the year, and the digits of the hour end the gap
  exact ⟨endsBefore_cons (by decide) _, trivial, hmonth, trivial, hday,
    endsBefore_append (padded_ne_nil _ _) (fun _ => isBlank_of_mem_padded) _, hhour,
    trivial, hminute, trivial⟩

/-- **What is shown is read back**, to the minute. -/
theorem shownMinute_read_write (t : DateTime) :
    shownMinute.read (shownMinute.write t) = some t.truncated := by
  have hput : shownMinute.put (Fields.ofDateTime t) {} = Fields.ofDateTime t.truncated := rfl
  rw [Pattern.read, Pattern.readFields_write (shownMinute_fits t), hput]
  exact dateTime?_ofDateTime t.truncated

namespace DateTime

variable {t t' : DateTime} {n : Int}

theorem isLeap_truncated (t : DateTime) : t.truncated.clock.isLeap = false := by
  show ((0 : Nat) == 60) = false
  decide

/-- **Cut off, two times are as far apart as they were.** -/
theorem addMinutes?_truncated (hleap : t.clock.isLeap = false) (h : t.addMinutes? n = some t') :
    t.truncated.addMinutes? n = some t'.truncated := by
  have hminutes : t'.truncated.minutes = t.truncated.minutes + n :=
    (isMoved_of_addMinutes? hleap h).minutes_eq
  -- there is one time with no seconds in a given minute
  calc t.truncated.addMinutes? n
      = ofMinutes? (t.truncated.minutes + n) 0 0 := addMinutes?_eq t.isLeap_truncated n
    _ = ofMinutes? t'.truncated.minutes 0 0 := by rw [hminutes]
    _ = some t'.truncated := t'.truncated.ofMinutes?_minutes

end DateTime

end Itinerary.Calendar
