import Itinerary.Calendar.Date

/-!
# Wall-clock times

A time of day is a minute of the day, a second and a fraction. The second may be 60: a minute
can end in a leap second, and in the order of times it comes after second 59 and before the next
minute. A `DateTime` joins a date and a time of day, without a time zone.

Two operations are all the arithmetic there is. `addMinutes?` moves by whole minutes and fails
only at the ends of the calendar; a leap second is first moved to the neighbouring ordinary
second on the side it is left by. `nanosSince` measures the distance of two times, a leap second
that lies between them on the same day included.
-/

namespace Itinerary.Calendar

/-! ### Times of day -/

/-- A time of day. -/
structure Clock where
  /-- minute of the day -/
  minute : Fin 1440
  /-- second of the minute, 60 in a leap second -/
  second : Fin 61
  /-- nanoseconds of the second -/
  nano : Fin 1000000000
deriving DecidableEq, Repr

namespace Clock

/-- The time of an hour, a minute, a second and nanoseconds. -/
def of? (hour minute second nano : Nat) : Option Clock :=
  if h : hour < 24 ∧ minute < 60 ∧ second < 61 ∧ nano < 1000000000 then
    some ⟨⟨60 * hour + minute, by omega⟩, ⟨second, h.2.2.1⟩, ⟨nano, h.2.2.2⟩⟩
  else none

/-- Whether the time lies in a leap second. -/
def isLeap (c : Clock) : Bool := c.second.val == 60

/-- The hour of the day. -/
def hour (c : Clock) : Nat := c.minute.val / 60

/-- The minute of the hour. -/
def minuteOfHour (c : Clock) : Nat := c.minute.val % 60

/-- Seconds of the day, a leap second counted with the second before it. -/
def seconds (c : Clock) : Nat := 60 * c.minute.val + min c.second.val 59

/-- Nanoseconds since the second counted by `seconds` began. -/
def excess (c : Clock) : Nat := c.nano.val + if c.isLeap then 1000000000 else 0

/-- The nanoseconds from the time `b` to the time `a` of the same day. A leap second that the
later of the two has passed, or that the earlier one lies in, takes a second of its own. -/
def nanosSince (a b : Clock) : Int :=
  let leap : Int :=
    if a.seconds > b.seconds && b.isLeap then 1
    else if a.seconds < b.seconds && a.isLeap then -1
    else 0
  ((a.seconds : Int) - b.seconds + leap) * 1000000000 + a.excess - b.excess

end Clock

/-! ### Dates with a time of day -/

/-- A date and a time of day. -/
structure DateTime where
  date : Date
  clock : Clock
deriving DecidableEq, Repr

namespace DateTime

/-- Minutes since the beginning of year 0. -/
def minutes (t : DateTime) : Int := t.date.number * 1440 + t.clock.minute.val

/-- The time in a given minute since the beginning of year 0. -/
def ofMinutes? (m : Int) (second : Fin 61) (nano : Fin 1000000000) : Option DateTime :=
  (Date.ofNumber? (m / 1440)).map fun date =>
    ⟨date, ⟨⟨(m % 1440).toNat, by omega⟩, second, nano⟩⟩

/-- The order of times: by minute, then second, then fraction. -/
def le (a b : DateTime) : Bool :=
  a.minutes < b.minutes || (a.minutes == b.minutes &&
    (a.clock.second < b.clock.second ||
      (a.clock.second == b.clock.second && a.clock.nano ≤ b.clock.nano)))

/-- The time so many minutes later, if the calendar reaches that far. Leaving a leap second
forwards starts from the second before it, leaving it backwards from the minute after it. -/
def addMinutes? (t : DateTime) (n : Int) : Option DateTime :=
  -- nothing is left by moving nowhere, so a leap second stays one
  if n = 0 then some t
  else if t.clock.isLeap then
    if 0 < n then ofMinutes? (t.minutes + n) 59 t.clock.nano
    else ofMinutes? (t.minutes + 1 + n) 0 t.clock.nano
  else ofMinutes? (t.minutes + n) t.clock.second t.clock.nano

/-- The nanoseconds from `b` to `a`. -/
def nanosSince (a b : DateTime) : Int :=
  (a.date.number - b.date.number) * 86400000000000 + a.clock.nanosSince b.clock

/-- The whole minutes from `b` to `a`, rounded toward zero. -/
def minutesSince (a b : DateTime) : Int := (a.nanosSince b).tdiv 60000000000

/-- The whole seconds from `b` to `a`, rounded toward zero. -/
def secondsSince (a b : DateTime) : Int := (a.nanosSince b).tdiv 1000000000

end DateTime

end Itinerary.Calendar
