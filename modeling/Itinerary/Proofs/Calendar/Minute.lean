import Itinerary.Proofs.Calendar.Figures
import Itinerary.Proofs.Calendar.Order

/-!
# From one minute to the next

A time is moved by a number of minutes through a count that starts with year 0, and what others see
of it are figures. Whether these go on as a calendar does is not to be seen from the count: behind
23:59 comes the next day, behind 28 February the 29th in some years, and behind 31 December the next
year.

`Minute.next` and `Minute.previous` say what the figures of the neighbours of a minute are. Figures
are counted as times are (`Minute.number_of`), a step moves the count by one
(`Minute.number_next`, `Minute.number_previous`), and a time has the figures with its count
(`Minute.of_eq_of_number`).
-/

namespace Itinerary.Calendar

-- sums are those of the core library, whatever else is imported
attribute [local instance (high)] Zero.ofOfNat0

open Decimal

/-! ### Days in figures -/

/-- A day of a year, in figures. -/
@[ext] structure Day where
  year : Int
  month : Nat
  day : Nat
  isDay : IsDay year month day

theorem one_le_daysInMonth (year : Int) (month : Nat) : 1 ≤ daysInMonth year month := by
  unfold daysInMonth
  split
  · split <;> decide
  · split <;> decide

namespace Day

/-- The next day: of this month, the first of the next month or that of the next year. -/
def next (d : Day) : Day :=
  if h : d.day < daysInMonth d.year d.month then
    ⟨d.year, d.month, d.day + 1, d.isDay.first_month, d.isDay.last_month, Nat.le_add_left 1 d.day,
      h⟩
  else if h' : d.month < 12 then
    ⟨d.year, d.month + 1, 1, Nat.le_add_left 1 d.month, h', Nat.le_refl 1, one_le_daysInMonth _ _⟩
  else ⟨d.year + 1, 1, 1, by decide, by decide, by decide, one_le_daysInMonth _ _⟩

/-- The day before: of this month, the last of the month before or that of the year before. -/
def previous (d : Day) : Day :=
  if h : 1 < d.day then
    ⟨d.year, d.month, d.day - 1, d.isDay.first_month, d.isDay.last_month, Nat.le_sub_one_of_lt h,
      Nat.le_trans (Nat.sub_le _ _) d.isDay.last_day⟩
  else if h' : 1 < d.month then
    ⟨d.year, d.month - 1, daysInMonth d.year (d.month - 1), Nat.le_sub_one_of_lt h',
      Nat.le_trans (Nat.sub_le _ _) d.isDay.last_month, one_le_daysInMonth _ _, Nat.le_refl _⟩
  else ⟨d.year - 1, 12, 31, by decide, by decide, by decide, Nat.le_refl 31⟩

/-- The count of a day. -/
def number (d : Day) : Int := Date.numberOf d.year d.month d.day

end Day

theorem sum_take_monthLengths {k : Nat} (hk : k < 12) (year : Int) :
    ((monthLengths year).take (k + 1)).sum =
      ((monthLengths year).take k).sum + daysInMonth year (k + 1) := by
  rw [List.take_add_one, getElem?_monthLengths hk, List.sum_append]
  rfl

namespace Date

/-- The parts of a date are those of a day. -/
theorem isDay (d : Date) : IsDay d.year d.month d.day := by
  by_cases h : IsDay d.year d.month d.day
  · exact h
  · have hparts := d.of?_parts
    rw [of?_of_not_isDay h] at hparts
    cases hparts

theorem numberOf_parts (d : Date) : numberOf d.year d.month d.day = d.number := by
  have hparts := d.of?_parts
  rw [of?_eq_ofNumber? d.isDay] at hparts
  exact (number_of_ofNumber? hparts).symm

/-- A month begins behind the last day of the one before. -/
theorem numberOf_newMonth {month : Nat} (hfirst : 1 ≤ month) (hlast : month < 12) (year : Int) :
    numberOf year (month + 1) 1 = numberOf year month (daysInMonth year month) + 1 := by
  have hsum := sum_take_monthLengths (k := month - 1) (by omega) year
  have hpos := one_le_daysInMonth year month
  rw [Nat.sub_add_cancel hfirst] at hsum
  unfold numberOf
  rw [Nat.add_sub_cancel, hsum]
  omega

/-- A year begins behind the last day of the one before. -/
theorem numberOf_newYear (year : Int) : numberOf (year + 1) 1 1 = numberOf year 12 31 + 1 := by
  have hyear := sum_monthLengths year
  have hsum : (monthLengths year).sum = ((monthLengths year).take 11).sum + 31 :=
    sum_take_monthLengths (k := 11) (by decide) year
  show yearStart (year + 1) + ((0 : Nat) : Int) + ((0 : Nat) : Int) =
    yearStart year + (((monthLengths year).take 11).sum : Nat) + ((30 : Nat) : Int) + 1
  omega

end Date

namespace Day

/-- The day of a date. -/
def of (date : Date) : Day := ⟨date.year, date.month, date.day, date.isDay⟩

theorem number_of (date : Date) : (of date).number = date.number := date.numberOf_parts

/-- A date is the day with its count. -/
theorem of_eq_of_number {date : Date} {d : Day} (h : date.number = d.number) : of date = d := by
  have hdate : Date.of? d.year d.month d.day = some date := by
    rw [Date.of?_eq_ofNumber? d.isDay, ← date.ofNumber?_number, h]
    rfl
  obtain ⟨hyear, hmonth, hday⟩ := Date.parts_of_of? hdate
  exact Day.ext hyear hmonth hday

theorem number_next (d : Day) : d.next.number = d.number + 1 := by
  obtain ⟨year, month, day, hfirstMonth, hlastMonth, hfirstDay, hlastDay⟩ := d
  unfold next
  -- the day is counted on within its month, and past the end of the month or the year it starts
  -- anew
  split
  · show Date.numberOf year month (day + 1) = Date.numberOf year month day + 1
    unfold Date.numberOf
    omega
  · next hmonthEnd =>
    obtain rfl : day = daysInMonth year month :=
      Nat.le_antisymm hlastDay (Nat.le_of_not_lt hmonthEnd)
    split
    · next hlt => exact Date.numberOf_newMonth hfirstMonth hlt year
    · next hyearEnd =>
      obtain rfl : month = 12 := Nat.le_antisymm hlastMonth (Nat.le_of_not_lt hyearEnd)
      exact Date.numberOf_newYear year

theorem number_previous (d : Day) : d.previous.number = d.number - 1 := by
  obtain ⟨year, month, day, hfirstMonth, hlastMonth, hfirstDay, hlastDay⟩ := d
  unfold previous
  -- within the month, from the first day of a month, or from the first day of the year
  split
  · next hlt =>
    show Date.numberOf year month (day - 1) = Date.numberOf year month day - 1
    have hlt : 1 < day := hlt
    unfold Date.numberOf
    omega
  · next hmonthStart =>
    obtain rfl : day = 1 := Nat.le_antisymm (Nat.le_of_not_lt hmonthStart) hfirstDay
    split
    · next hlt =>
      have hlt : 1 < month := hlt
      have hnumber := Date.numberOf_newMonth (Nat.le_sub_one_of_lt hlt) (by omega) year
      rw [Nat.sub_add_cancel hfirstMonth] at hnumber
      show Date.numberOf year (month - 1) (daysInMonth year (month - 1)) =
        Date.numberOf year month 1 - 1
      omega
    · next hyearStart =>
      obtain rfl : month = 1 := Nat.le_antisymm (Nat.le_of_not_lt hyearStart) hfirstMonth
      have hnumber := Date.numberOf_newYear (year - 1)
      rw [Int.sub_add_cancel] at hnumber
      show Date.numberOf (year - 1) 12 31 = Date.numberOf year 1 1 - 1
      omega

/-- The day in figures: the month first, then the day and the year. -/
def text (d : Day) : String :=
  String.ofList (padded 2 d.month ++ '/' :: (padded 2 d.day ++ '/' :: yearText d.year))

end Day

/-! ### Minutes in figures -/

/-- A minute of a day, in figures. -/
@[ext] structure Minute where
  day : Day
  hour : Nat
  minute : Nat
  hour_lt : hour < 24
  minute_lt : minute < 60

namespace Minute

/-- The next minute: of this hour, the first of the next hour or that of the next day. -/
def next (m : Minute) : Minute :=
  if h : m.minute < 59 then ⟨m.day, m.hour, m.minute + 1, m.hour_lt, Nat.succ_lt_succ h⟩
  else if h' : m.hour < 23 then ⟨m.day, m.hour + 1, 0, Nat.succ_lt_succ h', by decide⟩
  else ⟨m.day.next, 0, 0, by decide, by decide⟩

/-- The minute before: of this hour, the last of the hour before or that of the day before. -/
def previous (m : Minute) : Minute :=
  if 0 < m.minute then
    ⟨m.day, m.hour, m.minute - 1, m.hour_lt, Nat.lt_of_le_of_lt (Nat.sub_le _ _) m.minute_lt⟩
  else if 0 < m.hour then
    ⟨m.day, m.hour - 1, 59, Nat.lt_of_le_of_lt (Nat.sub_le _ _) m.hour_lt, by decide⟩
  else ⟨m.day.previous, 23, 59, by decide, by decide⟩

/-- The minute of a time. -/
def of (t : DateTime) : Minute where
  day := .of t.date
  hour := t.clock.hour
  minute := t.clock.minuteOfHour
  hour_lt := Nat.div_lt_of_lt_mul t.clock.minute.isLt
  minute_lt := Nat.mod_lt _ (by decide)

/-- The count of a minute. -/
def number (m : Minute) : Int := m.day.number * 1440 + (60 * m.hour + m.minute : Nat)

theorem number_of (t : DateTime) : (of t).number = t.minutes := by
  show (Day.of t.date).number * 1440 +
    ((60 * (t.clock.minute.val / 60) + t.clock.minute.val % 60 : Nat) : Int) = t.minutes
  rw [Day.number_of, Nat.div_add_mod]
  rfl

/-- A time is in the minute with its count. -/
theorem of_eq_of_number {t : DateTime} {m : Minute} (h : t.minutes = m.number) : of t = m := by
  have hhour := m.hour_lt
  have hminute := m.minute_lt
  have hclock := t.clock.minute.isLt
  unfold DateTime.minutes number at h
  have hday : t.date.number = m.day.number := by omega
  have hsame : t.clock.minute.val = 60 * m.hour + m.minute := by omega
  refine Minute.ext (Day.of_eq_of_number hday) ?_ ?_
  · show t.clock.minute.val / 60 = m.hour
    omega
  · show t.clock.minute.val % 60 = m.minute
    omega

theorem number_next (m : Minute) : m.next.number = m.number + 1 := by
  have hhour := m.hour_lt
  have hminute := m.minute_lt
  unfold next number
  split
  · dsimp only
    omega
  · split
    · -- minute 59 is the last one of its hour
      dsimp only
      omega
    · dsimp only
      rw [Day.number_next]
      omega

theorem number_previous (m : Minute) : m.previous.number = m.number - 1 := by
  unfold previous number
  split
  · dsimp only
    omega
  · split
    · dsimp only
      omega
    · dsimp only
      rw [Day.number_previous]
      omega

/-! ### Steps of a minute -/

/-- To move on by a minute is to move to the next one, from a leap second as well. -/
theorem of_addMinutes?_one {t t' : DateTime} (h : t.addMinutes? 1 = some t') :
    of t' = (of t).next := by
  have hminutes : t'.minutes = t.minutes + 1 := by
    rw [DateTime.addMinutes?, if_neg (by decide)] at h
    split at h
    · exact (DateTime.eq_of_ofMinutes? h).1
    · exact (DateTime.eq_of_ofMinutes? h).1
  apply of_eq_of_number
  rw [number_next, number_of, hminutes]

/-- To move back by a minute is to move to the one before, except from a leap second. -/
theorem of_addMinutes?_neg_one {t t' : DateTime} (hleap : t.clock.isLeap = false)
    (h : t.addMinutes? (-1) = some t') : of t' = (of t).previous := by
  have hminutes : t'.minutes = t.minutes - 1 := by
    rw [DateTime.addMinutes?, if_neg (by decide), hleap] at h
    exact (DateTime.eq_of_ofMinutes? h).1
  apply of_eq_of_number
  rw [number_previous, number_of, hminutes]

/-! ### Texts -/

theorem slashedDate_write (t : DateTime) : slashedDate.write t = (of t).day.text := by
  unfold Pattern.write Day.text
  simp [slashedDate, Pattern.writeFields, Piece.write, Field.write, Fields.ofDateTime, of, Day.of]

theorem hourMinute_write (t : DateTime) :
    hourMinute.write t = clockText (of t).hour (of t).minute := by
  unfold Pattern.write clockText
  simp [hourMinute, Pattern.writeFields, Piece.write, Field.write, Fields.ofDateTime, of]

end Minute

end Itinerary.Calendar
