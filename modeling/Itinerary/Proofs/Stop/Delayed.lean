import Itinerary.Proofs.Calendar.Words
import Itinerary.Stop

/-!
# Planned times with a delay

A delay comes from outside as any word of 64 bits, and most of these are no delay that a calendar
could show. There are two bounds on the way: not all minutes are a span of time, and not all spans
lead to a time of the calendar. Behind either the planned time stays as it is.

Within them the expected time is where so many steps of a minute lead (`delayed_of_reaches`). So
delays add up and keep the order of times, and none of that is lost to the words in which it is
computed (`delayed_exact`).
-/

namespace Itinerary

open Calendar

variable {planned expected : DateTime} {n : Int}

theorem delayed_of_addMinutes? (h : planned.addMinutes? n = some expected) :
    delayed planned n = expected := by
  rw [delayed, h, Option.getD_some]

/-- **Within its bounds a delay moves a time by its minutes.** -/
theorem delayed_of_reaches (hleap : planned.clock.isLeap = false) (h : planned.Reaches n) :
    planned.addMinutes? n = some (delayed planned n) ∧
      planned.IsMoved n (delayed planned n) := by
  obtain ⟨expected, hexpected⟩ := (DateTime.reaches_iff hleap).mp h
  rw [delayed_of_addMinutes? hexpected]
  exact ⟨hexpected, DateTime.isMoved_of_addMinutes? hleap hexpected⟩

/-- A delay beyond its bounds moves nothing. -/
theorem delayed_of_not_reaches (hleap : planned.clock.isLeap = false) (h : ¬ planned.Reaches n) :
    delayed planned n = planned := by
  rw [delayed, DateTime.addMinutes?_of_not_reaches hleap h, Option.getD_none]

@[simp] theorem delayed_zero (planned : DateTime) : delayed planned 0 = planned := by
  rw [delayed, DateTime.addMinutes?, if_pos rfl, Option.getD_some]

/-- **Delays add up**, as long as they lead to times of the calendar. -/
theorem delayed_delayed (hleap : planned.clock.isLeap = false) {m : Int} (h : planned.Reaches n) :
    (delayed planned n).addMinutes? m = planned.addMinutes? (n + m) :=
  DateTime.addMinutes?_bind hleap (delayed_of_reaches hleap h).1

/-- **A delay is exact.** Whatever word it is, the expected time is where the steps of its minutes
lead, or the planned time if that is no time of the calendar. So a delay of zero moves nothing, the
greater of two delays leads to the later time, and one behind another leads as far as their sum.
Computed in words it is the same, so none of their sums and products is too large for a word. -/
theorem delayed_exact (hleap : planned.clock.isLeap = false) (a b : Int64) :
    (planned.Reaches a.toInt → planned.IsMoved a.toInt (delayed planned a.toInt)) ∧
      (¬ planned.Reaches a.toInt → delayed planned a.toInt = planned) ∧
      delayed planned 0 = planned ∧
      (a < b → planned.Reaches a.toInt → planned.Reaches b.toInt →
        ¬ (delayed planned b.toInt).le (delayed planned a.toInt) = true) ∧
      (planned.Reaches a.toInt → (delayed planned a.toInt).Reaches b.toInt →
        (a + b).toInt = a.toInt + b.toInt ∧
          delayed (delayed planned a.toInt) b.toInt = delayed planned (a + b).toInt) ∧
      ((spanOf? a).bind planned.addSpan?).getD planned = delayed planned a.toInt := by
  refine ⟨fun h => (delayed_of_reaches hleap h).2, delayed_of_not_reaches hleap,
    delayed_zero planned, ?_, ?_, ?_⟩
  · -- both times are reached, so their positions differ by the minutes of the delays
    intro hlt ha hb
    rw [DateTime.not_le_iff]
    exact (delayed_of_reaches hleap ha).2.position_lt (delayed_of_reaches hleap hb).2
      (Int64.lt_iff_toInt_lt.mp hlt)
  · intro ha hb
    -- neither of two spans comes near the end of the words
    have hsum : (a + b).toInt = a.toInt + b.toInt := by
      obtain ⟨⟨haleast, hamost⟩, -⟩ := ha
      obtain ⟨⟨hbleast, hbmost⟩, -⟩ := hb
      unfold Decimal.maxInt64 at haleast hamost hbleast hbmost
      exact toInt_add_of_fits rfl rfl (fits_of_le (by omega) (by omega))
    have hmoved := (delayed_of_reaches hleap ha).2
    have hfinal := (delayed_of_reaches (hmoved.isLeap_eq.trans hleap) hb).1
    rw [delayed_delayed hleap ha, ← hsum] at hfinal
    exact ⟨hsum, (delayed_of_addMinutes? hfinal).symm⟩
  · rw [DateTime.spanOf?_bind_addSpan? hleap, delayed]

/-- A quarter of a minute before the leap day of a year that begins a century. -/
def eveOfLeapDay : DateTime :=
  ⟨(Date.of? 2000 2 28).get (by decide), (Clock.of? 23 59 45 0).get (by decide)⟩

theorem delayed_exact_eveOfLeapDay :
    eveOfLeapDay.Reaches 1 ∧ ¬ eveOfLeapDay.Reaches Int64.minValue.toInt ∧
      Minute.of (delayed eveOfLeapDay 1) = (Minute.of eveOfLeapDay).next ∧
      iso.write (delayed eveOfLeapDay 1) = "2000-02-29T00:00:45" ∧
      delayed (delayed eveOfLeapDay 1) (-2) = delayed eveOfLeapDay (-1) ∧
      ¬ (delayed eveOfLeapDay 1).le (delayed eveOfLeapDay (-1)) = true ∧
      delayed eveOfLeapDay Int64.minValue.toInt = eveOfLeapDay := by
  have hleap : eveOfLeapDay.clock.isLeap = false := by decide
  -- the least word of all leads out of the calendar, and one and two minutes do not
  have hone : eveOfLeapDay.Reaches 1 := (DateTime.reaches_iff hleap).mpr
    (Option.isSome_iff_exists.mp (by decide +kernel))
  have hminus : eveOfLeapDay.Reaches (-1) := (DateTime.reaches_iff hleap).mpr
    (Option.isSome_iff_exists.mp (by decide +kernel))
  have hback : (delayed eveOfLeapDay 1).Reaches (-2) :=
    (DateTime.reaches_iff (by decide +kernel)).mpr (Option.isSome_iff_exists.mp (by decide +kernel))
  have hfar : ¬ eveOfLeapDay.Reaches Int64.minValue.toInt := fun h => absurd h.1.1 (by decide)
  obtain ⟨hmoved, -, -, -, hadd, -⟩ := delayed_exact hleap 1 (-2)
  obtain ⟨-, -, -, horder, -, -⟩ := delayed_exact hleap (-1) 1
  obtain ⟨-, hstays, -⟩ := delayed_exact hleap Int64.minValue 0
  exact ⟨hone, hfar, (hmoved hone).minute, by decide +kernel, (hadd hone hback).2,
    horder (by decide) hminus hone, hstays hfar⟩

end Itinerary
