import Itinerary.Proofs.Calendar.Shift

/-!
# Stamps written and read

A stamp is read to the second, so a fraction is the one thing it can lose. Everything else is kept,
for all years of the calendar: a year beyond four digits is written with a sign, and behind the sign
reading takes every digit up to the hyphen. A leap second is written as the second 60 and read as
one. Blanks around a stamp are trimmed, and as it starts and ends with a number none of its own goes
with them (`Pattern.trim_write`).

Reading is lenient about blanks and zeros, but not about the numbers themselves: there is one date
and time that numbers name, the one that has them as its parts (`Fields.dateTime?_eq_some_iff`). The
thirtieth of February is not read as a day of March.
-/

namespace Itinerary.Calendar

open Decimal Text

/-! ### What numbers name -/

/-- **Numbers name the date and time of which they are the parts**, and no other. -/
theorem Fields.dateTime?_eq_some_iff {f : Fields} {t : DateTime} :
    f.dateTime? = some t ↔ f = ofDateTime t := by
  constructor
  · intro h
    obtain ⟨date, hdate, h⟩ := Option.bind_eq_some_iff.mp h
    obtain ⟨clock, hclock, h⟩ := Option.bind_eq_some_iff.mp h
    cases h
    obtain ⟨hyear, hmonth, hday⟩ := Date.parts_of_of? hdate
    obtain ⟨hhour, hminute, hsecond, hnano⟩ := Clock.parts_of_of? hclock
    rw [ofDateTime, hyear, hmonth, hday, hhour, hminute, hsecond, hnano]
  · rintro rfl
    exact dateTime?_ofDateTime t

/-- A pattern reads the date and time whose parts it reads. -/
theorem Pattern.read_eq_some_iff {p : Pattern} {s : String} {t : DateTime} :
    p.read s = some t ↔ p.readFields s = some (Fields.ofDateTime t) := by
  rw [Pattern.read, Option.bind_eq_some_iff]
  constructor
  · rintro ⟨f, hf, ht⟩
    rw [hf, Fields.dateTime?_eq_some_iff.mp ht]
  · intro h
    exact ⟨_, h, dateTime?_ofDateTime t⟩

/-! ### Patterns without a fraction -/

/-- Only a fraction reads into the nanoseconds. -/
theorem Piece.nano_read {piece : Piece} (hpiece : piece ≠ .fraction) {f f' : Fields}
    {cs rest : List Char} (h : piece.read f cs = some (f', rest)) : f'.nano = f.nano := by
  -- whatever else a piece reads, it puts into another field or into none
  cases piece with
  | field k =>
    cases k with
    | year | month | day | hour | minute | second =>
      obtain ⟨⟨n, left⟩, -, heq⟩ := Option.map_eq_some_iff.mp h
      cases heq
      rfl
  | literal c =>
    cases cs with
    | nil => cases h
    | cons d cs =>
      obtain ⟨-, heq⟩ := Option.ite_none_right_eq_some.mp h
      cases heq
      rfl
  | gap width =>
    cases h
    rfl
  | fraction => exact absurd rfl hpiece

theorem Pattern.nano_readFrom {p : Pattern} (hp : Piece.fraction ∉ p) {f f' : Fields}
    {cs : List Char} (h : p.readFrom f cs = some f') : f'.nano = f.nano := by
  -- along the pieces, each of which hands on the nanoseconds that it got
  induction p generalizing f cs with
  | nil =>
    obtain ⟨-, heq⟩ := Option.ite_none_right_eq_some.mp h
    cases heq
    rfl
  | cons piece rest ih =>
    obtain ⟨f'', left, hread, h⟩ := Pattern.readFrom_cons_eq_some_iff.mp h
    rw [List.mem_cons, not_or] at hp
    rw [ih hp.2 h, Piece.nano_read (Ne.symm hp.1) hread]

/-! ### Blanks around what is written -/

theorem isBlank_of_mem_padded {width n : Nat} {c : Char} (h : c ∈ padded width n) :
    isBlank c = false := isBlank_of_isDigit (isDigit_of_mem_padded h)

/-- A number is written without blanks. -/
theorem Field.isBlank_of_mem_write {k : Field} {f : Fields} {c : Char} (h : c ∈ k.write f) :
    isBlank c = false := by
  cases k with
  | year =>
    rw [write, yearText] at h
    split at h
    · exact isBlank_of_mem_padded h
    · rcases List.mem_cons.mp h with rfl | h
      · split <;> decide
      · exact isBlank_of_mem_padded h
  | month | day | hour | minute | second => exact isBlank_of_mem_padded h

theorem Field.write_ne_nil (k : Field) (f : Fields) : k.write f ≠ [] := by
  cases k with
  | year =>
    rw [write, yearText]
    split
    · exact padded_ne_nil _ _
    · exact List.cons_ne_nil _ _
  | month | day | hour | minute | second => exact padded_ne_nil _ _

/-- **Of blanks around what is written nothing is left**, if it starts and ends with a number. -/
theorem Pattern.trim_write {p front rest : Pattern} {first last : Field}
    (hfirst : p = .field first :: rest) (hlast : p = front ++ [.field last]) (t : DateTime)
    {before after : String} (hbefore : isBlankText before = true)
    (hafter : isBlankText after = true) : trim (before ++ p.write t ++ after) = p.write t := by
  rw [trim, String.toList_append, String.toList_append, write, String.toList_ofList]
  generalize Fields.ofDateTime t = f
  have hstart : EndsBefore isBlank (p.writeFields f) := by
    rw [hfirst]
    exact endsBefore_append (first.write_ne_nil f) (fun _ => Field.isBlank_of_mem_write) _
  have hend : EndsBefore isBlank (p.writeFields f).reverse := by
    have hwrite : p.writeFields f = front.writeFields f ++ last.write f := by
      rw [hlast]
      simp [writeFields, Piece.write]
    -- read backwards, the last number comes first
    rw [hwrite, List.reverse_append]
    refine endsBefore_append (fun h => last.write_ne_nil f (List.reverse_eq_nil_iff.mp h)) ?_ _
    exact fun c hc => Field.isBlank_of_mem_write (List.mem_reverse.mp hc)
  rw [trimChars_append_of_endsBefore (List.all_eq_true.mp hbefore) hstart hend
    (List.all_eq_true.mp hafter)]

/-! ### Stamps -/

theorem readStamp_eq_ok_iff {s : String} {t : DateTime} :
    readStamp s = .ok t ↔ stamp.readFields (trim s) = some (Fields.ofDateTime t) := by
  rw [← Pattern.read_eq_some_iff, readStamp]
  cases stamp.read (trim s) with
  | none => simp
  | some t' => simp

theorem stamp_fits (t : DateTime) : stamp.Fits (Fields.ofDateTime t) := by
  obtain ⟨hmonth, hday, hhour, hminute, hsecond⟩ := two_digits t
  -- a hyphen ends the year, and the digits of the hour end the gap
  exact ⟨endsBefore_cons (by decide) _, trivial, hmonth, trivial, hday,
    endsBefore_append (padded_ne_nil _ _) (fun _ => isBlank_of_mem_padded) _, hhour, trivial,
    hminute, trivial, hsecond, trivial⟩

/-- **A stamp of whole seconds is read back**, with blanks around it or none. -/
theorem readStamp_write {t : DateTime} (hnano : t.clock.nano.val = 0) {before after : String}
    (hbefore : isBlankText before = true) (hafter : isBlankText after = true) :
    readStamp (before ++ stamp.write t ++ after) = .ok t := by
  -- the fraction is all that a stamp leaves out, and there is none
  have hput : stamp.put (Fields.ofDateTime t) {} = Fields.ofDateTime t := by
    simp [stamp, dashedDate, hourMinute, Pattern.put, Piece.put, Fields.ofDateTime, hnano]
  have hlast : stamp = (dashedDate ++ [.gap 1] ++ hourMinute ++ [.literal ':']) ++
      [.field .second] := rfl
  have htrim : trim (before ++ stamp.write t ++ after) = stamp.write t :=
    Pattern.trim_write rfl hlast t hbefore hafter
  rw [readStamp_eq_ok_iff, htrim, Pattern.readFields_write (stamp_fits t), hput]

theorem nano_of_readStamp {s : String} {t : DateTime} (h : readStamp s = .ok t) :
    t.clock.nano.val = 0 :=
  Pattern.nano_readFrom (by decide) (readStamp_eq_ok_iff.mp h)

theorem readStamp_write_self {t : DateTime} (hnano : t.clock.nano.val = 0) :
    readStamp (stamp.write t) = .ok t := by
  have h := @readStamp_write t hnano "" "" (by decide) (by decide)
  rwa [String.empty_append, String.append_empty] at h

/-- **Stamps are exact.** A time of whole seconds is read back from its stamp, whatever blanks stand
around it. A text that is read at all names a day that its year has and a time that a day has, in
these very numbers, and the stamp of this time is read as the same time. -/
theorem readStamp_exact (t : DateTime) :
    (t.clock.nano.val = 0 → ∀ before after, isBlankText before = true → isBlankText after = true →
      readStamp (before ++ stamp.write t ++ after) = .ok t) ∧
    ∀ s, readStamp s = .ok t →
      stamp.readFields (trim s) = some (Fields.ofDateTime t) ∧
        IsDay t.date.year t.date.month t.date.day ∧
        (firstYear ≤ t.date.year ∧ t.date.year ≤ lastYear) ∧
        (t.clock.hour < 24 ∧ t.clock.minuteOfHour < 60 ∧ t.clock.second.val ≤ 60 ∧
          t.clock.nano.val = 0) ∧
        readStamp (stamp.write t) = .ok t := by
  refine ⟨fun hnano before after => readStamp_write hnano, fun s h => ?_⟩
  have hnano := nano_of_readStamp h
  have hminute := t.clock.minute.isLt
  have hsecond := t.clock.second.isLt
  refine ⟨readStamp_eq_ok_iff.mp h, t.date.isDay, Minute.inCalendar_of t, ⟨?_, ?_, ?_, hnano⟩,
    readStamp_write_self hnano⟩
  · rw [Clock.hour]
    omega
  · rw [Clock.minuteOfHour]
    omega
  · omega

/-- A leap second at noon of a leap day, in a year of five digits. -/
def farLeapDay : DateTime :=
  ⟨(Date.of? 12344 2 29).get (by decide), (Clock.of? 11 59 60 0).get (by decide)⟩

theorem readStamp_exact_farLeapDay :
    readStamp "\u00a0+12344-02-29 11:59:60\n" = .ok farLeapDay ∧
      readStamp "+12344- 2-29  11:59:60" = .ok farLeapDay ∧
      stamp.readFields "+12344- 2-29  11:59:60" = some (Fields.ofDateTime farLeapDay) ∧
      IsDay 12344 2 29 ∧ readStamp (stamp.write farLeapDay) = .ok farLeapDay := by
  have hnano : farLeapDay.clock.nano.val = 0 := by decide
  have hwrite : "\u00a0" ++ stamp.write farLeapDay ++ "\n" = "\u00a0+12344-02-29 11:59:60\n" := by
    decide +kernel
  have htrim : trim "+12344- 2-29  11:59:60" = "+12344- 2-29  11:59:60" := by decide +kernel
  have hloose : readStamp "+12344- 2-29  11:59:60" = .ok farLeapDay :=
    readStamp_eq_ok_iff.mpr (by decide +kernel)
  obtain ⟨hread, hexact⟩ := readStamp_exact farLeapDay
  obtain ⟨hfields, hday, -, -, hself⟩ := hexact _ hloose
  rw [htrim] at hfields
  have hparts : farLeapDay.date.year = 12344 ∧ farLeapDay.date.month = 2 ∧
      farLeapDay.date.day = 29 := by
    decide +kernel
  rw [hparts.1, hparts.2.1, hparts.2.2] at hday
  exact ⟨hwrite ▸ hread hnano "\u00a0" "\n" (by decide) (by decide), hloose, hfields, hday, hself⟩

end Itinerary.Calendar
