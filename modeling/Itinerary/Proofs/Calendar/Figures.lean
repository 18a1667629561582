import Itinerary.Proofs.Calendar.Pattern

/-!
# Days and times in figures

Four figures, two and two with hyphens between them may be a day or not: there is no 30 February,
and a 29th only in leap years. `IsDay` says which days a year has, without the walk through the
lengths of the months by which dates are put together and taken apart. If that walk missed a month,
or a pattern swapped the month and the day, most texts would still be read as some date.

What excludes this is that parts make a date only if they are those of a day, and that they are then
the parts of the date (`Date.parts_of_of?`). So a day in figures is read as a date, which is written
with the same figures in another order (`exists_date_of_isDay`), and what is no day is read as none
(`date?_of_not_isDay`). The same is shown of times of day by the minute.
-/

namespace Itinerary.Calendar

-- sums are those of the core library, whatever else is imported
attribute [local instance (high)] Zero.ofOfNat0

open Decimal

/-! ### The days of a year -/

/-- How many days a month has: thirty or thirty-one, and less in February. -/
def daysInMonth (year : Int) (month : Nat) : Nat :=
  if month = 2 then if isLeap year then 29 else 28
  else if month = 4 ∨ month = 6 ∨ month = 9 ∨ month = 11 then 30
  else 31

/-- Whether a year has a day. -/
structure IsDay (year : Int) (month day : Nat) : Prop where
  first_month : 1 ≤ month
  last_month : month ≤ 12
  first_day : 1 ≤ day
  last_day : day ≤ daysInMonth year month

theorem getElem?_monthLengths {k : Nat} (hk : k < 12) (year : Int) :
    (monthLengths year)[k]? = some (daysInMonth year (k + 1)) := by
  match k, hk with
  | 0, _ | 1, _ | 2, _ | 3, _ | 4, _ | 5, _ | 6, _ | 7, _ | 8, _ | 9, _ | 10, _ | 11, _ => rfl

theorem isDay_iff {year : Int} {month day : Nat} :
    IsDay year month day ↔
      ∃ length, (monthLengths year)[month - 1]? = some length ∧ 1 ≤ month ∧ 1 ≤ day ∧
        day ≤ length := by
  constructor
  · rintro ⟨hfirst, hlast, hday, hle⟩
    refine ⟨daysInMonth year month, ?_, hfirst, hday, hle⟩
    rw [getElem?_monthLengths (by omega), Nat.sub_add_cancel hfirst]
  · rintro ⟨length, hlength, hfirst, hday, hle⟩
    obtain ⟨hlt, -⟩ := List.getElem?_eq_some_iff.mp hlength
    have hlt : month - 1 < 12 := hlt
    rw [getElem?_monthLengths hlt, Nat.sub_add_cancel hfirst] at hlength
    exact ⟨hfirst, by omega, hday, Option.some.inj hlength ▸ hle⟩

/-! ### The walk through the months -/

/-- Days of a month behind whole months are located in that month. -/
theorem locate_take_sum {lengths : List Nat} {k length days : Nat}
    (h : lengths[k]? = some length) (hdays : days < length) :
    locate lengths ((lengths.take k).sum + days) = (k, days) := by
  induction lengths generalizing k with
  | nil => cases h
  | cons first rest ih =>
    cases k with
    | zero =>
      cases h
      rw [List.take_zero, List.sum_nil, Nat.zero_add, locate, if_pos hdays]
    | succ k =>
      -- the first month is behind, whatever its length
      rw [List.take_succ_cons, List.sum_cons, Nat.add_assoc, locate, if_neg (by omega),
        Nat.add_sub_cancel_left, ih h]

theorem take_sum_lt {lengths : List Nat} {k length days : Nat}
    (h : lengths[k]? = some length) (hdays : days < length) :
    (lengths.take k).sum + days < lengths.sum := by
  obtain ⟨hk, rfl⟩ := List.getElem?_eq_some_iff.mp h
  -- the months are those in front, the one at `k` and those behind
  have hsum : lengths.sum = (lengths.take k).sum + (lengths[k] + (lengths.drop (k + 1)).sum) := by
    rw [← List.sum_cons, ← List.drop_eq_getElem_cons hk, ← List.sum_append,
      List.take_append_drop]
  omega

/-- There is one year only that a day number lies in. -/
theorem yearOf_eq {year n : Int} (hstart : yearStart year ≤ n) (hend : n < yearStart (year + 1)) :
    yearOf n = year := by
  obtain ⟨hstart', hend'⟩ := yearStart_yearOf n
  -- a year ends before the next one begins, so no other year reaches that day
  have hmono : ∀ a b : Int, a < b → yearStart (a + 1) ≤ yearStart b := by
    intro a b hab
    unfold yearStart
    omega
  rcases Int.lt_trichotomy (yearOf n) year with hlt | heq | hgt
  · have := hmono _ _ hlt
    omega
  · exact heq
  · have := hmono _ _ hgt
    omega

namespace Date

/-- The number of a day of a year. -/
def numberOf (year : Int) (month day : Nat) : Int :=
  yearStart year + (((monthLengths year).take (month - 1)).sum : Nat) + (day - 1 : Nat)

theorem numberOf_mem {year : Int} {month day : Nat} (h : IsDay year month day) :
    yearStart year ≤ numberOf year month day ∧ numberOf year month day < yearStart (year + 1) := by
  obtain ⟨length, hlength, hmonth, hday, hle⟩ := isDay_iff.mp h
  have hdays : day - 1 < length := by omega
  have hlt := take_sum_lt hlength hdays
  have hsum := sum_monthLengths year
  rw [numberOf]
  omega

theorem of?_eq_ofNumber? {year : Int} {month day : Nat} (h : IsDay year month day) :
    of? year month day = ofNumber? (numberOf year month day) := by
  obtain ⟨length, hlength, hbounds⟩ := isDay_iff.mp h
  rw [of?, hlength]
  exact if_pos hbounds

theorem of?_of_not_isDay {year : Int} {month day : Nat} (h : ¬ IsDay year month day) :
    of? year month day = none := by
  rw [of?]
  split
  · rename_i length hlength
    rw [if_neg]
    intro hbounds
    exact h (isDay_iff.mpr ⟨length, hlength, hbounds⟩)
  · rfl

/-- **Parts that make a date are its own.** -/
theorem parts_of_of? {year : Int} {month day : Nat} {date : Date}
    (h : of? year month day = some date) :
    date.year = year ∧ date.month = month ∧ date.day = day := by
  by_cases hday : IsDay year month day
  · rw [of?_eq_ofNumber? hday] at h
    have hnumber := number_of_ofNumber? h
    obtain ⟨hstart, hend⟩ := numberOf_mem hday
    have hyear : date.year = year := by rw [Date.year, hnumber, yearOf_eq hstart hend]
    obtain ⟨length, hlength, hmonth, hfirst, hle⟩ := isDay_iff.mp hday
    -- in its year, the day stands behind the months before its own
    have hdays : date.dayOfYear = ((monthLengths year).take (month - 1)).sum + (day - 1) := by
      rw [dayOfYear, hyear, hnumber, numberOf]
      omega
    have hlast : day - 1 < length := by omega
    have hlocate := locate_take_sum hlength hlast
    refine ⟨hyear, ?_, ?_⟩
    · rw [Date.month, hyear, hdays, hlocate]
      exact Nat.sub_add_cancel hmonth
    · rw [Date.day, hyear, hdays, hlocate]
      exact Nat.sub_add_cancel hfirst
  · rw [of?_of_not_isDay hday] at h
    cases h

/-- A day of a year from 0 to 9999 is a date. -/
theorem exists_of? {year : Int} {month day : Nat} (h : IsDay year month day)
    (hyear : 0 ≤ year ∧ year ≤ 9999) : ∃ date, of? year month day = some date := by
  obtain ⟨hstart, hend⟩ := numberOf_mem h
  -- the calendar reaches far beyond these years
  have hrange : yearStart firstYear ≤ numberOf year month day ∧
      numberOf year month day < yearStart (lastYear + 1) := by
    have hends := yearStart_ends
    unfold yearStart at hstart hend
    omega
  rw [of?_eq_ofNumber? h, ofNumber?, dif_pos hrange]
  exact ⟨_, rfl⟩

end Date

/-- **Parts that make a time of day are its own.** -/
theorem Clock.parts_of_of? {hour minute second nano : Nat} {c : Clock}
    (h : of? hour minute second nano = some c) :
    c.hour = hour ∧ c.minuteOfHour = minute ∧ c.second.val = second ∧ c.nano.val = nano := by
  unfold of? at h
  split at h
  · rename_i hbounds
    cases h
    refine ⟨?_, ?_, rfl, rfl⟩
    · show (60 * hour + minute) / 60 = hour
      omega
    · show (60 * hour + minute) % 60 = minute
      omega
  · cases h

theorem Clock.exists_of? {hour minute : Nat} (hhour : hour < 24) (hminute : minute < 60) :
    ∃ clock, of? hour minute 0 0 = some clock ∧ clock.hour = hour ∧
      clock.minuteOfHour = minute := by
  have hbounds : hour < 24 ∧ minute < 60 ∧ 0 < 61 ∧ 0 < 1000000000 :=
    ⟨hhour, hminute, by decide, by decide⟩
  obtain ⟨clock, hclock⟩ : ∃ clock, of? hour minute 0 0 = some clock := ⟨_, dif_pos hbounds⟩
  obtain ⟨hclockHour, hclockMinute, -, -⟩ := parts_of_of? hclock
  exact ⟨clock, hclock, hclockHour, hclockMinute⟩

/-! ### Figures -/

/-- Four figures, two and two, with hyphens. -/
def dashedText (year month day : Nat) : String :=
  String.ofList (padded 4 year ++ '-' :: (padded 2 month ++ '-' :: padded 2 day))

/-- Two figures, two and four, with slashes: the month is first. -/
def slashedText (year month day : Nat) : String :=
  String.ofList (padded 2 month ++ '/' :: (padded 2 day ++ '/' :: padded 4 year))

/-- Two figures and two, with a colon. -/
def clockText (hour minute : Nat) : String :=
  String.ofList (padded 2 hour ++ ':' :: padded 2 minute)

theorem yearText_of_lt {year : Nat} (h : year < 10000) : yearText year = padded 4 year := by
  have hplain : (0 ≤ (year : Int) && (year : Int) ≤ 9999) = true := by
    rw [Bool.and_eq_true, decide_eq_true_eq, decide_eq_true_eq]
    omega
  rw [yearText, if_pos hplain, Int.toNat_natCast]

/-- Figures with hyphens are read as the parts that they stand for, whether a year has them or
not. -/
theorem readFields_dashedText {year month day : Nat} (hyear : year < 10000) (hmonth : month < 100)
    (hday : day < 100) :
    dashedDate.readFields (dashedText year month day) = some { year, month, day } := by
  -- a hyphen is no digit, so it ends the year
  have hfits : dashedDate.Fits { year, month, day } :=
    ⟨Text.endsBefore_cons (by decide) _, trivial, hmonth, trivial, hday, trivial⟩
  have hwrite : (dashedText year month day).toList =
      dashedDate.writeFields { year, month, day } := by
    rw [dashedText, String.toList_ofList, ← yearText_of_lt hyear]
    simp [dashedDate, Pattern.writeFields, Piece.write, Field.write]
  rw [Pattern.readFields, hwrite, Pattern.readFrom_writeFields hfits]
  rfl

theorem readFields_clockText {hour minute : Nat} (hhour : hour < 100) (hminute : minute < 100) :
    hourMinute.readFields (clockText hour minute) = some { hour, minute } := by
  have hfits : hourMinute.Fits { hour, minute } := ⟨hhour, trivial, hminute, trivial⟩
  have hwrite : (clockText hour minute).toList = hourMinute.writeFields { hour, minute } := by
    rw [clockText, String.toList_ofList]
    simp [hourMinute, Pattern.writeFields, Piece.write, Field.write]
  rw [Pattern.readFields, hwrite, Pattern.readFrom_writeFields hfits]
  rfl

/-- **A day in figures is a date, and keeps its figures in the other order.** -/
theorem exists_date_of_isDay {year month day : Nat} (h : IsDay year month day)
    (hyear : year < 10000) :
    ∃ date, (dashedDate.readFields (dashedText year month day)).bind Fields.date? = some date ∧
      ∀ clock, slashedDate.write ⟨date, clock⟩ = slashedText year month day := by
  obtain ⟨date, hdate⟩ := Date.exists_of? h (by omega)
  obtain ⟨hdateYear, hdateMonth, hdateDay⟩ := Date.parts_of_of? hdate
  have hmonth := h.last_month
  have hday : day ≤ 31 := hdateDay ▸ date.day_le
  refine ⟨date, ?_, ?_⟩
  · rw [readFields_dashedText hyear (by omega) (by omega)]
    exact hdate
  · -- what is written is the parts of the date, and these are the figures
    intro clock
    rw [Pattern.write, slashedText, ← yearText_of_lt hyear, ← hdateYear, ← hdateMonth, ← hdateDay]
    simp [slashedDate, Pattern.writeFields, Piece.write, Field.write, Fields.ofDateTime]

theorem date?_of_not_isDay {year month day : Nat} (hyear : year < 10000) (hmonth : month < 100)
    (hday : day < 100) (h : ¬ IsDay year month day) :
    (dashedDate.readFields (dashedText year month day)).bind Fields.date? = none := by
  rw [readFields_dashedText hyear hmonth hday]
  exact Date.of?_of_not_isDay h

/-- **A time in figures is a time of day, and keeps its figures.** -/
theorem exists_clock_of_lt {hour minute : Nat} (hhour : hour < 24) (hminute : minute < 60) :
    ∃ clock, (hourMinute.readFields (clockText hour minute)).bind Fields.clock? = some clock ∧
      ∀ date, hourMinute.write ⟨date, clock⟩ = clockText hour minute := by
  obtain ⟨clock, hclock, hclockHour, hclockMinute⟩ := Clock.exists_of? hhour hminute
  refine ⟨clock, ?_, ?_⟩
  · rw [readFields_clockText (by omega) (by omega)]
    exact hclock
  · intro date
    rw [Pattern.write, clockText, ← hclockHour, ← hclockMinute]
    simp [hourMinute, Pattern.writeFields, Piece.write, Field.write, Fields.ofDateTime]

/-- What lies beyond the last minute of a day is read as no time. -/
theorem clock?_of_not_lt {hour minute : Nat} (hhour : hour < 100) (hminute : minute < 100)
    (h : ¬ (hour < 24 ∧ minute < 60)) :
    (hourMinute.readFields (clockText hour minute)).bind Fields.clock? = none := by
  rw [readFields_clockText hhour hminute]
  show Clock.of? hour minute 0 0 = none
  rw [Clock.of?, dif_neg]
  rintro ⟨hhour', hminute', -⟩
  exact h ⟨hhour', hminute'⟩

end Itinerary.Calendar
