import Itinerary.Calendar.DateTime

/-!
# Before and after

Times lie on one line (`DateTime.position`), on which every minute takes 61 seconds since it may end
in a leap second. Their order is the one of their places there (`le_iff`), and to move by minutes is
to move on that line in the direction of the minutes, a leap second or not
(`position_lt_of_addMinutes?`, `position_gt_of_addMinutes?`).

The line has two ends. A step of a minute leads off the calendar from its last minute forwards and
from its first one backwards, and from nowhere else (`addMinutes?_eq_none_iff`).
-/

namespace Itinerary.Calendar

/-- The first day of the calendar. -/
def Date.first : Date := ⟨yearStart firstYear, Int.le_refl _, by decide⟩

/-- The last day of the calendar. -/
def Date.last : Date :=
  ⟨yearStart (lastYear + 1) - 1, by decide, Int.sub_one_lt_of_le (Int.le_refl _)⟩

@[simp] theorem Date.number_first : first.number = yearStart firstYear := rfl

@[simp] theorem Date.number_last : last.number = yearStart (lastYear + 1) - 1 := rfl

namespace DateTime

/-! ### The order -/

/-- The place of a time, in nanoseconds on a line on which every minute takes 61 seconds. -/
def position (t : DateTime) : Int :=
  (t.minutes * 61 + t.clock.second.val) * 1000000000 + t.clock.nano.val

/-- One time is before another or the same if its place is. -/
theorem le_iff {a b : DateTime} : a.le b = true ↔ a.position ≤ b.position := by
  have hsecondA := a.clock.second.isLt
  have hsecondB := b.clock.second.isLt
  have hnanoA := a.clock.nano.isLt
  have hnanoB := b.clock.nano.isLt
  simp only [le, position, Bool.or_eq_true, Bool.and_eq_true, decide_eq_true_eq, beq_iff_eq,
    Fin.lt_def, Fin.le_def, Fin.ext_iff]
  omega

theorem le_refl (t : DateTime) : t.le t = true := le_iff.mpr (Int.le_refl _)

theorem le_trans {a b c : DateTime} (hab : a.le b = true) (hbc : b.le c = true) :
    a.le c = true :=
  le_iff.mpr (Int.le_trans (le_iff.mp hab) (le_iff.mp hbc))

theorem minutes_le_of_le {a b : DateTime} (h : a.le b = true) : a.minutes ≤ b.minutes := by
  have hsecond := b.clock.second.isLt
  have hnano := b.clock.nano.isLt
  have hplace := le_iff.mp h
  unfold position at hplace
  omega

theorem not_le_iff {a b : DateTime} : ¬ a.le b = true ↔ b.position < a.position := by
  rw [le_iff, Int.not_le]

/-! ### Moving by minutes -/

/-- What is in a given minute has its minute, and its second and nanoseconds. -/
theorem eq_of_ofMinutes? {m : Int} {second : Fin 61} {nano : Fin 1000000000} {t : DateTime}
    (h : ofMinutes? m second nano = some t) :
    t.minutes = m ∧ t.clock.second = second ∧ t.clock.nano = nano := by
  obtain ⟨date, hdate, rfl⟩ := Option.map_eq_some_iff.mp h
  refine ⟨?_, rfl, rfl⟩
  have hnumber := Date.number_of_ofNumber? hdate
  rw [minutes, hnumber]
  show m / 1440 * 1440 + ((m % 1440).toNat : Int) = m
  omega

/-- To move forwards is to come later. -/
theorem position_lt_of_addMinutes? {t t' : DateTime} {n : Int} (h : t.addMinutes? n = some t')
    (hn : 0 < n) : t.position < t'.position := by
  rw [addMinutes?, if_neg (by omega)] at h
  split at h
  · rename_i hleap
    obtain ⟨hminutes, hsecond, hnano⟩ := eq_of_ofMinutes? h
    -- the leap second is left as the second before it, which is still in the minute
    rw [Clock.isLeap, beq_iff_eq] at hleap
    rw [position, position, hminutes, hsecond, hnano, hleap]
    show (_ + ((60 : Nat) : Int)) * 1000000000 + _ < (_ + ((59 : Nat) : Int)) * 1000000000 + _
    omega
  · obtain ⟨hminutes, hsecond, hnano⟩ := eq_of_ofMinutes? h
    rw [position, position, hminutes, hsecond, hnano]
    omega

/-- To move backwards is to come earlier. -/
theorem position_gt_of_addMinutes? {t t' : DateTime} {n : Int} (h : t.addMinutes? n = some t')
    (hn : n < 0) : t'.position < t.position := by
  rw [addMinutes?, if_neg (by omega)] at h
  split at h
  · rename_i hleap
    rw [if_neg (by omega)] at h
    obtain ⟨hminutes, hsecond, hnano⟩ := eq_of_ofMinutes? h
    -- the leap second is left as the beginning of the next minute
    rw [Clock.isLeap, beq_iff_eq] at hleap
    rw [position, position, hminutes, hsecond, hnano, hleap]
    show (_ + ((0 : Nat) : Int)) * 1000000000 + _ < (_ + ((60 : Nat) : Int)) * 1000000000 + _
    omega
  · obtain ⟨hminutes, hsecond, hnano⟩ := eq_of_ofMinutes? h
    rw [position, position, hminutes, hsecond, hnano]
    omega

/-! ### The ends -/

/-- The first minute of the calendar. -/
def firstMinute : Int := Date.first.number * 1440

/-- The last minute of the calendar. -/
def lastMinute : Int := Date.last.number * 1440 + 1439

theorem minutes_mem (t : DateTime) : firstMinute ≤ t.minutes ∧ t.minutes ≤ lastMinute := by
  have hfirst := t.date.first_le
  have hlast := t.date.lt_last
  have hminute := t.clock.minute.isLt
  rw [firstMinute, lastMinute, minutes, Date.number_first, Date.number_last]
  omega

/-- Only what lies beyond the ends is in no minute of the calendar. -/
theorem ofMinutes?_eq_none_iff {m : Int} {second : Fin 61} {nano : Fin 1000000000} :
    ofMinutes? m second nano = none ↔ m < firstMinute ∨ lastMinute < m := by
  rw [ofMinutes?, Option.map_eq_none_iff, Date.ofNumber?, firstMinute, lastMinute,
    Date.number_first, Date.number_last]
  split
  · rename_i hrange
    simp only [reduceCtorEq, false_iff]
    omega
  · rename_i hrange
    simp only [true_iff]
    omega

/-- Whether a time lies at the edge of the calendar on a side: in its last minute, or in its first
one, the leap second of which still has the next minute behind it. -/
def IsAtEdge (t : DateTime) (later : Bool) : Prop :=
  if later then t.minutes = lastMinute else t.minutes = firstMinute ∧ t.clock.isLeap = false

/-- **The edges are where the calendar ends.** From there a step of a minute leads nowhere, and
from everywhere else it leads to a time. -/
theorem addMinutes?_eq_none_iff {t : DateTime} {later : Bool} :
    t.addMinutes? (if later then 1 else -1) = none ↔ t.IsAtEdge later := by
  obtain ⟨hfirst, hlast⟩ := t.minutes_mem
  cases later with
  | true =>
    -- with a leap second or without, a step forward leads into the next minute
    have hnone : t.addMinutes? 1 = none ↔
        t.minutes + 1 < firstMinute ∨ lastMinute < t.minutes + 1 := by
      rw [addMinutes?, if_neg (by decide)]
      split
      · exact ofMinutes?_eq_none_iff
      · exact ofMinutes?_eq_none_iff
    refine hnone.trans ?_
    show _ ↔ t.minutes = lastMinute
    omega
  | false =>
    show t.addMinutes? (-1) = none ↔ t.minutes = firstMinute ∧ t.clock.isLeap = false
    rw [addMinutes?, if_neg (by decide)]
    cases hleap : t.clock.isLeap with
    | true =>
      -- back from a leap second a step ends in the same minute, so it never leads out
      rw [if_pos rfl, if_neg (by decide), ofMinutes?_eq_none_iff]
      simp only [Bool.true_eq_false, and_false, iff_false]
      omega
    | false =>
      rw [if_neg (by decide), ofMinutes?_eq_none_iff]
      simp only [and_true]
      omega

end DateTime

end Itinerary.Calendar
