import Itinerary.Calendar.DateTime

/-!
# Dates and times by their parts

The year, the month and the day of a date name that date and no other, and the hour, the minute,
the second and the nanoseconds of a time of day name that time. For a date this is a fact about the
walk through the lengths of the months (`locate_spec`): a day of the year lies in one of its months,
since the months together are as long as the year (`sum_monthLengths`).
-/

namespace Itinerary.Calendar

-- sums are those of the core library, whatever else is imported
attribute [local instance (high)] Zero.ofOfNat0

/-! ### Days and months -/

/-- The months of a year are as long as the year. -/
theorem sum_monthLengths (year : Int) :
    (((monthLengths year).sum : Nat) : Int) = yearStart (year + 1) - yearStart year := by
  have hsum : (monthLengths year).sum = if isLeap year then 366 else 365 := by
    rw [monthLengths]
    cases isLeap year <;> rfl
  rw [hsum]
  -- the two years have the same number of leap days before them, up to the one of a leap year
  cases hleap : isLeap year with
  | true =>
    simp only [isLeap, Bool.and_eq_true, Bool.or_eq_true, beq_iff_eq, bne_iff_ne] at hleap
    simp only [yearStart, if_true]
    omega
  | false =>
    simp only [isLeap, Bool.and_eq_false_iff, Bool.or_eq_false_iff, beq_eq_false_iff_ne,
      bne_eq_false_iff_eq] at hleap
    simp only [yearStart, Bool.false_eq_true, if_false]
    omega

/-- A day that does not lie behind all months lies in one of them. -/
theorem locate_spec {lengths : List Nat} {days : Nat} (h : days < lengths.sum) :
    ∃ length, lengths[(locate lengths days).1]? = some length ∧ (locate lengths days).2 < length ∧
      (lengths.take (locate lengths days).1).sum + (locate lengths days).2 = days := by
  induction lengths generalizing days with
  | nil => exact absurd h (Nat.not_lt_zero days)
  | cons length rest ih =>
    rw [List.sum_cons] at h
    rw [locate]
    by_cases hfirst : days < length
    · -- the day lies in the first month
      rw [if_pos hfirst]
      refine ⟨length, rfl, hfirst, ?_⟩
      rw [List.take_zero, List.sum_nil, Nat.zero_add]
    · -- the days of the first month are behind, and the walk goes on with the rest
      have hrest : days - length < rest.sum := by omega
      obtain ⟨found, hfound, hlt, hsum⟩ := ih hrest
      rw [if_neg hfirst]
      refine ⟨found, hfound, hlt, ?_⟩
      show ((length :: rest).take ((locate rest (days - length)).1 + 1)).sum +
        (locate rest (days - length)).2 = days
      rw [List.take_succ_cons, List.sum_cons]
      omega

namespace Date

theorem dayOfYear_lt (d : Date) : d.dayOfYear < (monthLengths d.year).sum := by
  obtain ⟨hstart, hend⟩ := yearStart_yearOf d.number
  have hsum := sum_monthLengths d.year
  rw [dayOfYear]
  rw [year] at hsum ⊢
  omega

/-- **A date is named by its parts.** -/
theorem of?_parts (d : Date) : of? d.year d.month d.day = some d := by
  obtain ⟨length, hlength, hlt, hsum⟩ := locate_spec d.dayOfYear_lt
  have hstart := (yearStart_yearOf d.number).1
  have hnumber : yearStart d.year +
      (((monthLengths d.year).take (d.month - 1)).sum : Nat) + ((d.day - 1 : Nat) : Int)
        = d.number := by
    rw [month, day, Nat.add_sub_cancel, Nat.add_sub_cancel]
    rw [dayOfYear] at hsum ⊢
    rw [year] at hsum ⊢
    omega
  have hmonth : (monthLengths d.year)[d.month - 1]? = some length := by
    rw [month, Nat.add_sub_cancel, hlength]
  rw [of?, hmonth]
  simp only
  -- the parts are within their bounds, and their number is that of the date
  rw [if_pos, hnumber, ofNumber?_number]
  refine ⟨?_, ?_, ?_⟩
  · rw [month]
    omega
  · rw [day]
    omega
  · rw [day]
    omega

end Date

/-! ### Steps by the minute -/

theorem yearStart_ends :
    yearStart firstYear = -95745764 ∧ yearStart (lastYear + 1) = 95745765 := by
  decide

/-- A year from 0 to 9999 lies well within the calendar. -/
theorem Date.number_of_year {d : Date} (h : 0 ≤ d.year ∧ d.year ≤ 9999) :
    0 ≤ d.number ∧ d.number < 3652425 := by
  obtain ⟨hstart, hend⟩ := yearStart_yearOf d.number
  rw [Date.year] at h
  -- the first days of the years 0 and 10000 are known once the year is a variable
  generalize yearOf d.number = y at h hstart hend
  unfold yearStart at hstart hend
  omega

/-- Up to a day from a date in the years 0 to 9999 the calendar goes on. -/
theorem DateTime.exists_addMinutes? {t : DateTime} (h : 0 ≤ t.date.year ∧ t.date.year ≤ 9999)
    {n : Int} (hn : -1440 ≤ n ∧ n < 1440) : ∃ t', t.addMinutes? n = some t' := by
  obtain ⟨hfirst, hlast⟩ := Date.number_of_year h
  have hminute := t.clock.minute.isLt
  -- within a day of these years every minute has a date in the calendar
  have hminutes : ∀ (m : Int) (second : Fin 61) (nano : Fin 1000000000),
      -1440 ≤ m → m < 3652427 * 1440 → ∃ t', ofMinutes? m second nano = some t' := by
    intro m second nano hm hm'
    have hrange : yearStart firstYear ≤ m / 1440 ∧ m / 1440 < yearStart (lastYear + 1) := by
      have hends := yearStart_ends
      omega
    rw [ofMinutes?, Date.ofNumber?, dif_pos hrange]
    exact ⟨_, rfl⟩
  rw [addMinutes?, minutes]
  split
  · -- nothing is moved
    exact ⟨t, rfl⟩
  · split
    · -- a leap second is first left to one side
      split
      · exact hminutes _ _ _ (by omega) (by omega)
      · exact hminutes _ _ _ (by omega) (by omega)
    · exact hminutes _ _ _ (by omega) (by omega)

/-! ### Times of day -/

/-- **A time of day is named by its parts.** -/
theorem Clock.of?_parts (c : Clock) : of? c.hour c.minuteOfHour c.second c.nano = some c := by
  have hminute := c.minute.isLt
  rw [of?, dif_pos]
  · rw [Option.some.injEq]
    cases c with
    | mk minute second nano =>
      congr 1
      exact Fin.ext (by simp only [hour, minuteOfHour]; omega)
  · refine ⟨?_, ?_, c.second.isLt, c.nano.isLt⟩
    · rw [hour]
      omega
    · rw [minuteOfHour]
      omega

end Itinerary.Calendar
