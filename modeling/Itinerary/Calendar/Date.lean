/-!
# Dates of the proleptic Gregorian calendar

A date is held as its day number, counted from 1 January of year 0, so that stepping by days is
addition and every number between the first and the last day is a date. Year, month and day are
read off the number: `Date.year` guesses the year from the mean length of a year and corrects
the guess by at most one, `locate` then walks through the month lengths.

The calendar reaches from 1 January −262143 to 31 December 262142.
-/

namespace Itinerary.Calendar

-- sums are those of the core library, whatever else is imported
attribute [local instance (high)] Zero.ofOfNat0

/-! ### Years and months -/

/-- Whether a year has a 29 February. Year 0 exists and is a leap year. -/
def isLeap (year : Int) : Bool :=
  year % 4 == 0 && (year % 100 != 0 || year % 400 == 0)

/-- The day number of 1 January. Each of the three quotients counts the multiples of its
divisor among the years from 0 on, before the given one. -/
def yearStart (year : Int) : Int :=
  365 * year + (year + 3) / 4 - (year + 99) / 100 + (year + 399) / 400

/-- The year near `guess` that contains a day number. -/
def correctYear (guess n : Int) : Int :=
  if n < yearStart guess then guess - 1
  else if yearStart (guess + 1) ≤ n then guess + 1
  else guess

/-- The year that contains a day number. Four centuries have 146097 days, so the quotient is
off by at most one. -/
def yearOf (n : Int) : Int := correctYear (400 * n / 146097) n

/-- The year of a day number contains the day. -/
theorem yearStart_yearOf (n : Int) :
    yearStart (yearOf n) ≤ n ∧ n < yearStart (yearOf n + 1) := by
  obtain ⟨g, hg⟩ : ∃ g, g = 400 * n / 146097 := ⟨_, rfl⟩
  rw [yearOf, ← hg, correctYear]
  split
  · rename_i h
    rw [Int.sub_add_cancel]
    refine ⟨?_, h⟩
    unfold yearStart at h ⊢
    omega
  · rename_i h
    split
    · rename_i h'
      refine ⟨h', ?_⟩
      unfold yearStart at h' ⊢
      omega
    · exact ⟨by omega, by omega⟩

/-- The lengths of the twelve months. -/
def monthLengths (year : Int) : List Nat :=
  [31, if isLeap year then 29 else 28, 31, 30, 31, 30, 31, 31, 30, 31, 30, 31]

/-- How many whole months have passed after a number of days, and how many days of the next. -/
def locate : List Nat → Nat → Nat × Nat
  | [], days => (0, days)
  | length :: rest, days =>
    if days < length then (0, days)
    else
      let (months, left) := locate rest (days - length)
      (months + 1, left)

/-! ### Dates -/

/-- The least year of the calendar. -/
def firstYear : Int := -262143

/-- The greatest year of the calendar. -/
def lastYear : Int := 262142

/-- A day of the calendar, by its number. -/
structure Date where
  /-- days since 1 January of year 0 -/
  number : Int
  /-- the calendar has begun -/
  first_le : yearStart firstYear ≤ number
  /-- the calendar has not ended -/
  lt_last : number < yearStart (lastYear + 1)
deriving DecidableEq, Repr

namespace Date

@[ext] theorem ext {a b : Date} (h : a.number = b.number) : a = b := by
  cases a; cases b; simp_all

/-- The date of a day number, if the calendar has that day. -/
def ofNumber? (n : Int) : Option Date :=
  if h : yearStart firstYear ≤ n ∧ n < yearStart (lastYear + 1) then some ⟨n, h.1, h.2⟩ else none

/-- The date of a year, a month from 1 to 12 and a day of that month. -/
def of? (year : Int) (month day : Nat) : Option Date :=
  match (monthLengths year)[month - 1]? with
  | some length =>
    if 1 ≤ month ∧ 1 ≤ day ∧ day ≤ length then
      ofNumber? (yearStart year + ((monthLengths year).take (month - 1)).sum + (day - 1 : Nat))
    else none
  | none => none

/-- The year of a date. -/
def year (d : Date) : Int := yearOf d.number

/-- The days passed since the beginning of the year. -/
def dayOfYear (d : Date) : Nat := (d.number - yearStart d.year).toNat

/-- The month, from 1. -/
def month (d : Date) : Nat := (locate (monthLengths d.year) d.dayOfYear).1 + 1

/-- The day of the month, from 1. -/
def day (d : Date) : Nat := (locate (monthLengths d.year) d.dayOfYear).2 + 1

@[simp] theorem ofNumber?_number (d : Date) : ofNumber? d.number = some d := by
  simp [ofNumber?, d.first_le, d.lt_last]

theorem number_of_ofNumber? {n : Int} {d : Date} (h : ofNumber? n = some d) : d.number = n := by
  unfold ofNumber? at h
  split at h
  · cases h; rfl
  · cases h

end Date

end Itinerary.Calendar
