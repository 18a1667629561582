import Itinerary.Proofs.Calendar.Minute

/-!
# From a minute to any other

To move by a number of minutes is to go from a minute to the next, or to the one before, so many
times (`Minute.shift`), through the months, the leap years and the turns of the centuries. A time is
moved by one addition instead, on a count that has no months. The two agree since a step of the
figures is a step of the count (`Minute.number_shift`) and the figures can be told from it.

They also end together. The calendar has the minutes of its years and no others
(`Minute.inCalendar_iff`), so a time can be moved exactly if the minute that the steps lead to is of
such a year (`exists_addMinutes?_iff`).
-/

namespace Itinerary.Calendar

/-! ### Steps by the figures -/

namespace Minute

/-- The minute so many minutes later, or earlier if their number is negative. -/
def shift (m : Minute) : Int → Minute
  | .ofNat n => Nat.repeat next n m
  | .negSucc n => Nat.repeat previous (n + 1) m

theorem number_repeat_next (m : Minute) (n : Nat) :
    (Nat.repeat next n m).number = m.number + n := by
  induction n with
  | zero => exact (Int.add_zero _).symm
  | succ n ih =>
    rw [Nat.repeat, number_next, ih]
    omega

theorem number_repeat_previous (m : Minute) (n : Nat) :
    (Nat.repeat previous n m).number = m.number - n := by
  induction n with
  | zero => exact (Int.sub_zero _).symm
  | succ n ih =>
    rw [Nat.repeat, number_previous, ih]
    omega

/-- The steps add up. -/
@[simp] theorem number_shift (m : Minute) (n : Int) : (m.shift n).number = m.number + n := by
  cases n with
  | ofNat n => exact m.number_repeat_next n
  | negSucc n =>
    rw [shift, number_repeat_previous, Int.negSucc_eq]
    omega

/-! ### The years of the calendar -/

/-- Whether a minute is of a year of the calendar. -/
def InCalendar (m : Minute) : Prop := firstYear ≤ m.day.year ∧ m.day.year ≤ lastYear

end Minute

theorem yearStart_le {a b : Int} (h : a ≤ b) : yearStart a ≤ yearStart b := by
  unfold yearStart
  omega

theorem Day.number_mem (d : Day) :
    yearStart d.year ≤ d.number ∧ d.number < yearStart (d.year + 1) :=
  Date.numberOf_mem d.isDay

/-- The days of the years of the calendar are those from its first to its last one. -/
theorem Day.inYears_iff {d : Day} : firstYear ≤ d.year ∧ d.year ≤ lastYear ↔
    Date.first.number ≤ d.number ∧ d.number ≤ Date.last.number := by
  obtain ⟨hstart, hend⟩ := d.number_mem
  rw [Date.number_first, Date.number_last]
  constructor
  · rintro ⟨hfirst, hlast⟩
    have hstart' := yearStart_le hfirst
    have hend' := yearStart_le (Int.add_le_add_right hlast 1)
    omega
  · rintro ⟨hfirst, hlast⟩
    constructor
    · -- a day of a year before the first one lies before the first day
      refine Int.not_lt.mp fun hlt => ?_
      have := yearStart_le (show d.year + 1 ≤ firstYear from hlt)
      omega
    · refine Int.not_lt.mp fun hlt => ?_
      have := yearStart_le (show lastYear + 1 ≤ d.year from hlt)
      omega

namespace Minute

theorem inCalendar_iff {m : Minute} :
    m.InCalendar ↔ DateTime.firstMinute ≤ m.number ∧ m.number ≤ DateTime.lastMinute := by
  have hhour := m.hour_lt
  have hminute := m.minute_lt
  unfold InCalendar DateTime.firstMinute DateTime.lastMinute number
  rw [Day.inYears_iff]
  omega

theorem inCalendar_of (t : DateTime) : (of t).InCalendar := by
  rw [inCalendar_iff, number_of]
  exact t.minutes_mem

end Minute

/-! ### Moving a time -/

namespace DateTime

variable {t t' : DateTime} {n : Int}

theorem ofMinutes?_minutes (t : DateTime) :
    ofMinutes? t.minutes t.clock.second t.clock.nano = some t := by
  have hminute := t.clock.minute.isLt
  have hdate : t.minutes / 1440 = t.date.number := by
    unfold minutes
    omega
  have hclock : (t.minutes % 1440).toNat = t.clock.minute.val := by
    unfold minutes
    omega
  unfold ofMinutes?
  rw [hdate, Date.ofNumber?_number]
  exact congrArg some (congrArg (DateTime.mk t.date)
    (congrArg (Clock.mk · t.clock.second t.clock.nano) (Fin.ext hclock)))

/-- Outside of leap seconds a time keeps its second wherever it is moved, or not moved. -/
theorem addMinutes?_eq (hleap : t.clock.isLeap = false) (n : Int) :
    t.addMinutes? n = ofMinutes? (t.minutes + n) t.clock.second t.clock.nano := by
  unfold addMinutes?
  split
  · next hzero => rw [hzero, Int.add_zero, ofMinutes?_minutes]
  · rw [hleap, if_neg Bool.false_ne_true]

/-- **A time is moved as far as the calendar goes.** -/
theorem exists_addMinutes?_iff (hleap : t.clock.isLeap = false) :
    (∃ t', t.addMinutes? n = some t') ↔ ((Minute.of t).shift n).InCalendar := by
  rw [← Option.ne_none_iff_exists', addMinutes?_eq hleap, ne_eq, ofMinutes?_eq_none_iff,
    Minute.inCalendar_iff, Minute.number_shift, Minute.number_of]
  omega

/-- Whether a time is another one moved by so many minutes: it is in the minute that so many steps
lead to, and as far in it. -/
structure IsMoved (t : DateTime) (n : Int) (t' : DateTime) : Prop where
  minute : Minute.of t' = (Minute.of t).shift n
  second : t'.clock.second = t.clock.second
  nano : t'.clock.nano = t.clock.nano

/-- **A time is moved to where the steps lead.** -/
theorem isMoved_of_addMinutes? (hleap : t.clock.isLeap = false) (h : t.addMinutes? n = some t') :
    t.IsMoved n t' := by
  rw [addMinutes?_eq hleap] at h
  obtain ⟨hminutes, hsecond, hnano⟩ := eq_of_ofMinutes? h
  refine ⟨Minute.of_eq_of_number ?_, hsecond, hnano⟩
  rw [Minute.number_shift, Minute.number_of, hminutes]

theorem IsMoved.minutes_eq (h : t.IsMoved n t') : t'.minutes = t.minutes + n := by
  rw [← Minute.number_of, h.minute, Minute.number_shift, Minute.number_of]

theorem IsMoved.isLeap_eq (h : t.IsMoved n t') : t'.clock.isLeap = t.clock.isLeap := by
  unfold Clock.isLeap
  rw [h.second]

/-- Times that are as far in their minutes stand in the order of these. -/
theorem IsMoved.position_lt {m : Int} {t'' : DateTime} (h : t.IsMoved n t') (h' : t.IsMoved m t'')
    (hlt : n < m) : t'.position < t''.position := by
  unfold position
  rw [h.minutes_eq, h'.minutes_eq, h.second, h'.second, h.nano, h'.nano]
  omega

/-- To move a time twice is to move it by both numbers of minutes at once. -/
theorem addMinutes?_bind (hleap : t.clock.isLeap = false) {m : Int}
    (h : t.addMinutes? n = some t') : t'.addMinutes? m = t.addMinutes? (n + m) := by
  have hmoved := isMoved_of_addMinutes? hleap h
  rw [addMinutes?_eq hleap, addMinutes?_eq (hmoved.isLeap_eq.trans hleap), hmoved.minutes_eq,
    hmoved.second, hmoved.nano, Int.add_assoc]

end DateTime

end Itinerary.Calendar
