import Itinerary.Decimal.Whole
import Itinerary.Proofs.Calendar.Shift

/-!
# Moving a time in words

Minutes come in words of 64 bits, and so do the seconds that they amount to, the second of the day
that these lead to and the number of that day. A sum or a product of words is the one of the numbers
only as long as it fits, and what does not fit is a word as well, only a wrong one.

Spans of time are counted in milliseconds, so there is a greatest one (`spanOf?`), and that bound is
what keeps everything behind it within 64 bits. It is far beyond the ends of the calendar
(`isSpan_of_inCalendar`). So the words lead to the time that the numbers lead to, and to none exactly
if the numbers do (`DateTime.spanOf?_bind_addSpan?`).
-/

namespace Itinerary.Calendar

open Decimal

/-! ### Sums and products that fit -/

/-- Whether an integer fits in a word. -/
def Fits (n : Int) : Prop := minInt64 ≤ n ∧ n ≤ maxInt64

theorem fits_of_le {n : Int} (hleast : -9223372036854775808 ≤ n)
    (hmost : n ≤ 9223372036854775807) : Fits n := ⟨hleast, hmost⟩

section Words

variable {a b : Int64} {x y : Int}

theorem fits_toInt (a : Int64) : Fits a.toInt := by
  have hleast := a.le_toInt
  have hmost := a.toInt_lt
  exact fits_of_le (by omega) (by omega)

theorem toInt_ofInt_of_fits (h : Fits x) : (Int64.ofInt x).toInt = x := by
  unfold Fits minInt64 maxInt64 at h
  exact Int64.toInt_ofInt_of_le (by omega) (by omega)

theorem bmod_of_fits (h : Fits x) : x.bmod 18446744073709551616 = x := by
  unfold Fits minInt64 maxInt64 at h
  exact Int.bmod_eq_of_le (by omega) (by omega)

theorem toInt_add_of_fits (ha : a.toInt = x) (hb : b.toInt = y) (h : Fits (x + y)) :
    (a + b).toInt = x + y := by
  rw [Int64.toInt_add, ha, hb]
  exact bmod_of_fits h

theorem toInt_sub_of_fits (ha : a.toInt = x) (hb : b.toInt = y) (h : Fits (x - y)) :
    (a - b).toInt = x - y := by
  rw [Int64.toInt_sub, ha, hb]
  exact bmod_of_fits h

theorem toInt_mul_of_fits (ha : a.toInt = x) (hb : b.toInt = y) (h : Fits (x * y)) :
    (a * b).toInt = x * y := by
  rw [Int64.toInt_mul, ha, hb]
  exact bmod_of_fits h

end Words

/-! ### Spans of time -/

/-- Whether so many minutes are a span of time: their milliseconds fit in a word, with either
sign. -/
def IsSpan (n : Int) : Prop := -maxInt64 ≤ 60000 * n ∧ 60000 * n ≤ maxInt64

/-- The greatest number of minutes in a span of time. -/
def greatestSpan : Int64 := Int64.maxValue / 60000

/-- The seconds of so many minutes, if these are a span of time. -/
def spanOf? (minutes : Int64) : Option Int64 :=
  if -greatestSpan ≤ minutes ∧ minutes ≤ greatestSpan then some (minutes * 60) else none

theorem isSpan_iff {n : Int64} : IsSpan n.toInt ↔ -greatestSpan ≤ n ∧ n ≤ greatestSpan := by
  have hmost : greatestSpan.toInt = 153722867280912 := by decide
  have hleast : (-greatestSpan).toInt = -153722867280912 := by decide
  rw [Int64.le_iff_toInt_le, Int64.le_iff_toInt_le, hmost, hleast]
  unfold IsSpan maxInt64
  omega

theorem spanOf?_of_not_isSpan {n : Int64} (h : ¬ IsSpan n.toInt) : spanOf? n = none :=
  if_neg (mt isSpan_iff.mpr h)

theorem exists_spanOf? {n : Int64} (h : IsSpan n.toInt) :
    ∃ span, spanOf? n = some span ∧ span.toInt = n.toInt * 60 := by
  refine ⟨n * 60, if_pos (isSpan_iff.mp h), toInt_mul_of_fits rfl (by decide) ?_⟩
  unfold IsSpan maxInt64 at h
  exact fits_of_le (by omega) (by omega)

/-- From a minute of the calendar every other one is within a span. -/
theorem isSpan_of_inCalendar {t : DateTime} {n : Int}
    (h : ((Minute.of t).shift n).InCalendar) : IsSpan n := by
  obtain ⟨hfirst, hlast⟩ := t.minutes_mem
  rw [Minute.inCalendar_iff, Minute.number_shift, Minute.number_of] at h
  have hends : DateTime.firstMinute = -137873900160 ∧ DateTime.lastMinute = 137873901599 := by
    decide
  unfold IsSpan maxInt64
  omega

/-! ### Days and their seconds -/

/-- The second of its day that a second is, counted from the beginning of any day. -/
def secondOfDay (seconds : Int64) : Int64 :=
  -- what is left of negative seconds is negative
  if seconds % 86400 < 0 then seconds % 86400 + 86400 else seconds % 86400

/-- The days that have passed before a second, counted from the beginning of any day. -/
def daysBefore (seconds : Int64) : Int64 := (seconds - secondOfDay seconds) / 86400

theorem toInt_secondOfDay (seconds : Int64) :
    (secondOfDay seconds).toInt = seconds.toInt % 86400 := by
  have hrest : (seconds % 86400).toInt = seconds.toInt.tmod 86400 := Int64.toInt_mod _ _
  have hday : ((86400 : Int).natAbs : Int) = 86400 := rfl
  rw [Int.tmod_eq_emod] at hrest
  have hsign : seconds % 86400 < 0 ↔ (seconds % 86400).toInt < 0 := Int64.lt_iff_toInt_lt
  unfold secondOfDay
  split at hrest
  · rw [if_neg (by rw [hsign]; omega)]
    omega
  · next hneg =>
    -- no whole days are left, so the rest is less than zero
    rw [not_or, Int.dvd_iff_emod_eq_zero] at hneg
    rw [if_pos (by rw [hsign]; omega), toInt_add_of_fits hrest (y := 86400) (by decide)]
    · omega
    · exact fits_of_le (by omega) (by omega)

theorem toInt_daysBefore {seconds : Int64} (h : minInt64 + 86400 ≤ seconds.toInt) :
    (daysBefore seconds).toInt = seconds.toInt / 86400 := by
  obtain ⟨-, hmost⟩ := fits_toInt seconds
  unfold minInt64 at h
  unfold maxInt64 at hmost
  have hwhole : (seconds - secondOfDay seconds).toInt = 86400 * (seconds.toInt / 86400) := by
    rw [toInt_sub_of_fits rfl (toInt_secondOfDay seconds) (fits_of_le (by omega) (by omega))]
    omega
  unfold daysBefore
  rw [Int64.toInt_div_of_ne_right _ _ (by decide), hwhole]
  exact Int.mul_tdiv_cancel_left _ (by decide)

theorem Date.number_bounds (d : Date) : -95745764 ≤ d.number ∧ d.number ≤ 95745764 := by
  have hends := yearStart_ends
  have hfirst := d.first_le
  have hlast := d.lt_last
  omega

/-! ### Times -/

/-- Outside of leap seconds the seconds of a day are those of its minutes. -/
theorem Clock.seconds_eq {c : Clock} (hleap : c.isLeap = false) :
    c.second.val < 60 ∧ (c.seconds : Int) = 60 * c.minute.val + c.second.val := by
  have hsecond := c.second.isLt
  unfold isLeap at hleap
  rw [beq_eq_false_iff_ne] at hleap
  unfold seconds
  omega

namespace DateTime

/-- The second that a time is moved to, counted from the beginning of its day. -/
def movedSecond (t : DateTime) (span : Int64) : Int64 := Int64.ofInt t.clock.seconds + span

/-- The number of the day that a time is moved to. -/
def movedDay (t : DateTime) (span : Int64) : Int64 :=
  Int64.ofInt t.date.number + daysBefore (t.movedSecond span)

/-- The time so many seconds later, for a time outside of leap seconds. No sum on the way looks
whether it fits. -/
def addSpan? (t : DateTime) (span : Int64) : Option DateTime :=
  let second := (secondOfDay (t.movedSecond span)).toInt.toNat
  (Date.ofNumber? (t.movedDay span).toInt).map fun date =>
    ⟨date, ⟨⟨second / 60 % 1440, by omega⟩, ⟨second % 60, by omega⟩, t.clock.nano⟩⟩

section Moved

variable {t : DateTime} {span : Int64} {n : Int}

theorem toInt_movedSecond (hleap : t.clock.isLeap = false) (hspan : span.toInt = n * 60)
    (hn : IsSpan n) :
    (t.movedSecond span).toInt = 60 * (t.clock.minute.val + n) + t.clock.second.val := by
  have hminute := t.clock.minute.isLt
  obtain ⟨hsecond, hseconds⟩ := t.clock.seconds_eq hleap
  unfold IsSpan maxInt64 at hn
  have hstart : (Int64.ofInt t.clock.seconds).toInt = t.clock.seconds :=
    toInt_ofInt_of_fits (fits_of_le (by omega) (by omega))
  unfold movedSecond
  rw [toInt_add_of_fits hstart hspan (fits_of_le (by omega) (by omega))]
  omega

theorem toInt_movedDay (hleap : t.clock.isLeap = false) (hspan : span.toInt = n * 60)
    (hn : IsSpan n) : (t.movedDay span).toInt = (t.minutes + n) / 1440 := by
  have hmoved := toInt_movedSecond hleap hspan hn
  obtain ⟨hsecond, -⟩ := t.clock.seconds_eq hleap
  obtain ⟨hfirst, hlast⟩ := t.date.number_bounds
  unfold IsSpan maxInt64 at hn
  -- the days of a date and those of a span are too few to leave the words
  have hstart : (Int64.ofInt t.date.number).toInt = t.date.number :=
    toInt_ofInt_of_fits (fits_of_le (by omega) (by omega))
  have hdays := @toInt_daysBefore (t.movedSecond span) (by unfold minInt64; omega)
  unfold movedDay
  rw [toInt_add_of_fits hstart hdays (fits_of_le (by omega) (by omega)), hmoved]
  unfold minutes
  omega

/-- The second of the day is that of the minute of the day. -/
theorem toInt_secondOfDay_movedSecond (hleap : t.clock.isLeap = false)
    (hspan : span.toInt = n * 60) (hn : IsSpan n) :
    (secondOfDay (t.movedSecond span)).toInt =
      60 * ((t.minutes + n) % 1440) + t.clock.second.val := by
  obtain ⟨hsecond, -⟩ := t.clock.seconds_eq hleap
  rw [toInt_secondOfDay, toInt_movedSecond hleap hspan hn]
  unfold minutes
  omega

/-- **The words lead where the numbers lead.** -/
theorem addSpan?_eq (hleap : t.clock.isLeap = false) (hspan : span.toInt = n * 60)
    (hn : IsSpan n) : t.addSpan? span = t.addMinutes? n := by
  obtain ⟨hsecond, -⟩ := t.clock.seconds_eq hleap
  have hofDay := toInt_secondOfDay_movedSecond hleap hspan hn
  -- both come to a day and a second of that day, so these are compared
  rw [addMinutes?_eq hleap]
  unfold addSpan? ofMinutes?
  rw [toInt_movedDay hleap hspan hn]
  refine congrArg (Option.map · _) (funext fun date => ?_)
  refine congrArg (DateTime.mk date) (congr (congr (congrArg Clock.mk ?_) ?_) rfl)
  · refine Fin.ext ?_
    show (secondOfDay (t.movedSecond span)).toInt.toNat / 60 % 1440 =
      ((t.minutes + n) % 1440).toNat
    omega
  · refine Fin.ext ?_
    show (secondOfDay (t.movedSecond span)).toInt.toNat % 60 = t.clock.second.val
    omega

end Moved

/-- Whether a time can be moved by so many minutes: they are a span of time, and lead to a minute of
the calendar. -/
def Reaches (t : DateTime) (n : Int) : Prop := IsSpan n ∧ ((Minute.of t).shift n).InCalendar

theorem reaches_iff {t : DateTime} (hleap : t.clock.isLeap = false) {n : Int} :
    t.Reaches n ↔ ∃ t', t.addMinutes? n = some t' := by
  rw [exists_addMinutes?_iff hleap]
  exact ⟨And.right, fun h => ⟨isSpan_of_inCalendar h, h⟩⟩

theorem addMinutes?_of_not_reaches {t : DateTime} (hleap : t.clock.isLeap = false) {n : Int}
    (h : ¬ t.Reaches n) : t.addMinutes? n = none := by
  rwa [reaches_iff hleap, ← Option.isSome_iff_exists, Option.not_isSome_iff_eq_none] at h

/-- **No sum of words overflows**, whatever the minutes are. -/
theorem spanOf?_bind_addSpan? {t : DateTime} (hleap : t.clock.isLeap = false) (n : Int64) :
    (spanOf? n).bind t.addSpan? = t.addMinutes? n.toInt := by
  by_cases hspan : IsSpan n.toInt
  · obtain ⟨span, hsome, hseconds⟩ := exists_spanOf? hspan
    rw [hsome, Option.bind_some, addSpan?_eq hleap hseconds hspan]
  · rw [spanOf?_of_not_isSpan hspan, Option.bind_none,
      addMinutes?_of_not_reaches hleap fun h => hspan h.1]

end DateTime

end Itinerary.Calendar
