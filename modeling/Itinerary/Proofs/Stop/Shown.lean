import Itinerary.Calendar.Formats
import Itinerary.Proofs.Stop.Delayed

/-!
# The delay that a stop shows

A stop keeps no delay but two times, and the delay that it shows is the distance between them.
Outside of leap seconds both lie on one count of seconds, and the delay comes back. A time in a leap
second does not: it is moved out of it first, to the side that the delay leads to, and the distance
has to count the leap second if it lies on the way.

It counts it if the later time of day has it behind itself, whatever the days are. So a delay that
leads from a leap second over midnight to an earlier time of day is a second short, and so is one
that leads back over midnight to a later time of day (`MissesLeapSecond`). As only whole minutes are
shown, a minute of such a delay is lost (`StopTime.delayMinutes_withDelay_iff`).
-/

namespace Itinerary

open Calendar

namespace Calendar

/-! ### Distances of times of day -/

section Clock

variable {a b : Clock}

theorem Clock.isLeap_of_ne (h : a.second.val ≠ 60) : a.isLeap = false := beq_eq_false_iff_ne.mpr h

theorem Clock.nanosSince_self (c : Clock) : c.nanosSince c = 0 := by
  unfold nanosSince
  rw [decide_eq_false (Nat.lt_irrefl c.seconds)]
  simp

/-- Outside of leap seconds the distance is that of the seconds of the day. -/
theorem Clock.nanosSince_of_not_isLeap (ha : a.isLeap = false) (hb : b.isLeap = false) :
    a.nanosSince b =
      (60 * ((a.minute.val : Int) - b.minute.val) + a.second.val - b.second.val) * 1000000000 +
        a.nano.val - b.nano.val := by
  obtain ⟨-, haseconds⟩ := seconds_eq ha
  obtain ⟨-, hbseconds⟩ := seconds_eq hb
  simp only [nanosSince, excess, ha, hb, Bool.and_false, Bool.false_eq_true, if_false]
  omega

/-- From a leap second the distance starts with the next minute, and a later minute of the day has
a second more behind itself. -/
theorem Clock.nanosSince_of_isLeap (ha : a.isLeap = false) (hb : b.isLeap = true) :
    a.nanosSince b =
      (60 * ((a.minute.val : Int) - b.minute.val - 1) + a.second.val +
        if b.minute.val < a.minute.val then 1 else 0) * 1000000000 + a.nano.val - b.nano.val := by
  obtain ⟨hasecond, haseconds⟩ := seconds_eq ha
  have hbseconds : b.seconds = 60 * b.minute.val + 59 := by
    unfold seconds
    rw [beq_iff_eq.mp hb]
    rfl
  have hlater : a.seconds > b.seconds ↔ b.minute.val < a.minute.val := by omega
  simp only [nanosSince, excess, ha, hb, Bool.and_true, Bool.and_false, Bool.false_eq_true,
    if_false, if_true, decide_eq_true_eq, hlater]
  split <;> omega

end Clock

/-! ### Distances of times that are moved -/

namespace DateTime

variable {t t' : DateTime} {n : Int}

theorem nanosSince_self (t : DateTime) : t.nanosSince t = 0 := by
  unfold nanosSince
  rw [Clock.nanosSince_self]
  omega

theorem nanosSince_of_not_isLeap (hleap : t.clock.isLeap = false)
    (h : t.addMinutes? n = some t') : t'.nanosSince t = 60 * n * 1000000000 := by
  have hmoved := isMoved_of_addMinutes? hleap h
  have hminutes := hmoved.minutes_eq
  unfold minutes at hminutes
  unfold nanosSince
  rw [Clock.nanosSince_of_not_isLeap (hmoved.isLeap_eq.trans hleap) hleap, hmoved.second,
    hmoved.nano]
  omega

/-- A leap second is left by the second before it or by the beginning of the next minute. -/
theorem left_of_isLeap (hleap : t.clock.isLeap = true) (hn : n ≠ 0)
    (h : t.addMinutes? n = some t') :
    t'.clock.second.val < 60 ∧ t'.clock.nano = t.clock.nano ∧
      60 * t'.minutes + t'.clock.second.val =
        60 * (t.minutes + n) + if 0 < n then 59 else 60 := by
  rw [addMinutes?, if_neg hn, if_pos hleap] at h
  split at h
  · next hforwards =>
    obtain ⟨hminutes, hsecond, hnano⟩ := eq_of_ofMinutes? h
    have hsecond : t'.clock.second.val = 59 := congrArg Fin.val hsecond
    rw [if_pos hforwards]
    exact ⟨by omega, hnano, by omega⟩
  · next hbackwards =>
    obtain ⟨hminutes, hsecond, hnano⟩ := eq_of_ofMinutes? h
    have hsecond : t'.clock.second.val = 0 := congrArg Fin.val hsecond
    rw [if_neg hbackwards]
    exact ⟨by omega, hnano, by omega⟩

/-- Of a delay that leaves a leap second forwards a second is missing, unless it is counted for a
later time of day. -/
theorem nanosSince_of_isLeap (hleap : t.clock.isLeap = true) (hn : n ≠ 0)
    (h : t.addMinutes? n = some t') :
    t'.nanosSince t =
      (60 * n - (if 0 < n then 1 else 0) +
        if t.clock.minute.val < t'.clock.minute.val then 1 else 0) * 1000000000 := by
  obtain ⟨hsecond, hnano, hleft⟩ := left_of_isLeap hleap hn h
  unfold minutes at hleft
  unfold nanosSince
  rw [Clock.nanosSince_of_isLeap (Clock.isLeap_of_ne (by omega)) hleap, hnano]
  by_cases hforwards : 0 < n
  · rw [if_pos hforwards] at hleft ⊢
    split <;> omega
  · rw [if_neg hforwards] at hleft ⊢
    split <;> omega

/-- Within a day, to be later is to be moved forwards, also from a leap second. -/
theorem minute_lt_iff_of_date_eq (hn : n ≠ 0) (h : t.addMinutes? n = some t')
    (hdate : t'.date = t.date) (hleap : t.clock.isLeap = true) :
    0 < n ↔ t.clock.minute.val < t'.clock.minute.val := by
  obtain ⟨hsecond, -, hleft⟩ := left_of_isLeap hleap hn h
  unfold minutes at hleft
  rw [hdate] at hleft
  split at hleft <;> omega

end DateTime

end Calendar

/-! ### Delays that are shown -/

variable {planned expected : DateTime} {n : Int}

/-- Whether the distance of two times misses the leap second that the first one lies in: the other
one is on one side of it in the day, and on the other side in time. -/
def MissesLeapSecond (planned expected : DateTime) (n : Int) : Prop :=
  planned.clock.isLeap = true ∧ n ≠ 0 ∧
    ¬ (0 < n ↔ planned.clock.minute.val < expected.clock.minute.val)

/-- Where no leap second is missed, the distance is the delay. -/
theorem minutesSince_of_not_missesLeapSecond (h : planned.addMinutes? n = some expected)
    (hmisses : ¬ MissesLeapSecond planned expected n) : expected.minutesSince planned = n := by
  have hnanos : expected.nanosSince planned = n * 60000000000 := by
    by_cases hleap : planned.clock.isLeap = true
    · by_cases hn : n = 0
      · rw [hn, DateTime.addMinutes?, if_pos rfl] at h
        rw [← Option.some.inj h, DateTime.nanosSince_self, hn]
        rfl
      · -- the leap second is counted exactly if it lies on the way
        have hside : 0 < n ↔ planned.clock.minute.val < expected.clock.minute.val :=
          Decidable.not_not.mp fun hside => hmisses ⟨hleap, hn, hside⟩
        rw [DateTime.nanosSince_of_isLeap hleap hn h]
        split <;> split <;> omega
    · rw [DateTime.nanosSince_of_not_isLeap (Bool.eq_false_iff.mpr hleap) h]
      omega
  rw [DateTime.minutesSince, hnanos]
  exact Int.mul_tdiv_cancel _ (by decide)

/-- Where one is missed, the distance is a second short of the delay, and so a minute. -/
theorem minutesSince_of_missesLeapSecond (h : planned.addMinutes? n = some expected)
    (hmisses : MissesLeapSecond planned expected n) :
    expected.minutesSince planned = n - n.sign := by
  obtain ⟨hleap, hn, hside⟩ := hmisses
  rw [DateTime.minutesSince, DateTime.nanosSince_of_isLeap hleap hn h]
  rcases Int.lt_or_gt_of_ne hn with hneg | hpos
  · -- backwards, the last minute is a second short and is dropped toward zero
    have hlater : planned.clock.minute.val < expected.clock.minute.val := by omega
    have hrest : ¬ (60000000000 : Int) ∣ (60 * n - 0 + 1) * 1000000000 := by
      rw [Int.dvd_iff_emod_eq_zero]
      omega
    rw [if_neg (by omega), if_pos hlater, Int.sign_eq_neg_one_of_neg hneg, Int.tdiv_eq_ediv,
      if_neg (not_or.mpr ⟨by omega, hrest⟩)]
    show _ + (1 : Int) = _
    omega
  · -- forwards, it is a second short as well
    rw [if_pos hpos, if_neg (by omega), Int.sign_eq_one_of_pos hpos,
      Int.tdiv_eq_ediv_of_nonneg (by omega)]
    omega

theorem StopTime.delayMinutes_withDelay (h : planned.addMinutes? n = some expected) :
    (withDelay planned (.minutes n)).delayMinutes = expected.minutesSince planned := by
  show (delayed planned n).minutesSince planned = expected.minutesSince planned
  rw [delayed_of_addMinutes? h]

/-- **The delay that is shown is the delay that was reported**, unless the distance misses a leap
second, and then it is a minute less. Within a day none is missed. -/
theorem StopTime.delayMinutes_withDelay_iff (h : planned.addMinutes? n = some expected) :
    ((withDelay planned (.minutes n)).delayMinutes = n ↔
        ¬ MissesLeapSecond planned expected n) ∧
      (MissesLeapSecond planned expected n →
        (withDelay planned (.minutes n)).delayMinutes = n - n.sign) ∧
      (planned.clock.isLeap = false ∨ n = 0 ∨ expected.date = planned.date →
        (withDelay planned (.minutes n)).delayMinutes = n) := by
  rw [delayMinutes_withDelay h]
  refine ⟨⟨fun heq hmisses => ?_, minutesSince_of_not_missesLeapSecond h⟩,
    minutesSince_of_missesLeapSecond h, fun hcase => ?_⟩
  · -- a delay that comes back as another one less its sign has no sign
    have hsign := minutesSince_of_missesLeapSecond h hmisses
    have hzero := Int.sign_eq_zero_iff_zero.mp (show n.sign = 0 by omega)
    exact hmisses.2.1 hzero
  · refine minutesSince_of_not_missesLeapSecond h ?_
    rintro ⟨hleap, hn, hside⟩
    rcases hcase with hordinary | hzero | hdate
    · rw [hordinary] at hleap
      cases hleap
    · exact hn hzero
    · exact hside (DateTime.minute_lt_iff_of_date_eq hn h hdate hleap)

/-- The leap second at the end of a year. -/
def lastLeapSecond : DateTime :=
  ⟨(Date.of? 2016 12 31).get (by decide), (Clock.of? 23 59 60 0).get (by decide)⟩

theorem readStamp_lastLeapSecond : readStamp "2016-12-31 23:59:60" = .ok lastLeapSecond := by
  have hread : stamp.read (Text.trim "2016-12-31 23:59:60") = some lastLeapSecond := by
    decide +kernel
  rw [readStamp, hread]

/-- **A delay of a minute at the end of the year is not shown.** -/
theorem StopTime.delayMinutes_lastLeapSecond :
    readStamp "2016-12-31 23:59:60" = .ok lastLeapSecond ∧
      (lastLeapSecond.addMinutes? 1).isSome = true ∧
      (withDelay lastLeapSecond (.minutes 1)).delayMinutes = 0 :=
  ⟨readStamp_lastLeapSecond, by decide +kernel, by decide +kernel⟩

theorem StopTime.delayMinutes_hourEarly :
    ∃ expected, readStamp "2016-12-31 23:59:60" = .ok lastLeapSecond ∧
      lastLeapSecond.addMinutes? (-60) = some expected ∧
      (withDelay lastLeapSecond (.minutes (-60))).delayMinutes = -60 := by
  obtain ⟨expected, hexpected⟩ :
      ∃ expected, lastLeapSecond.addMinutes? (-60) = some expected :=
    Option.isSome_iff_exists.mp (by decide +kernel)
  have hdate : (lastLeapSecond.addMinutes? (-60)).map DateTime.date = some lastLeapSecond.date := by
    decide +kernel
  rw [hexpected, Option.map_some, Option.some_inj] at hdate
  exact ⟨expected, readStamp_lastLeapSecond, hexpected,
    (delayMinutes_withDelay_iff hexpected).2.2 (.inr (.inr hdate))⟩

end Itinerary
