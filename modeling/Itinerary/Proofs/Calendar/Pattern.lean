import Itinerary.Calendar.Formats
import Itinerary.Proofs.Calendar.Date
import Itinerary.Proofs.Decimal.Whole
import Itinerary.Proofs.Text.Blank
import Itinerary.Proofs.Text.Run

/-!
# Patterns that read what they write

A pattern reads back what it writes if each of its pieces can be told from the next one. Most
numbers are two digits wide and end by themselves; a year may be of any length, a gap takes every
blank and a fraction every digit, so these have to end before what they would take as well
(`Piece.Fits`). `Pattern.readFrom_writeFields` goes through the pieces from left to right.

The ISO form has all the parts of a date and time, which is why it names it (`iso_read_write`).
-/

namespace Itinerary.Calendar

-- powers are those of the core library, whatever else is imported
attribute [local instance (high)] instPowNat

open Decimal Text

/-! ### Digits are no blanks -/

theorem trimStart_digits {digits : List Char} (hne : digits ≠ [])
    (h : ∀ c ∈ digits, c.isDigit = true) (rest : List Char) :
    Text.trimStart (digits ++ rest) = digits ++ rest := by
  cases digits with
  | nil => exact absurd rfl hne
  | cons c digits =>
    exact Text.trimStart_cons_of_not_isBlank (Text.isBlank_of_isDigit (h c List.mem_cons_self)) _

/-! ### Numbers -/

/-- Digits are taken as far as they go, if the width ends there or what follows is no digit. -/
theorem takeDigits_append {width : Nat} {digits rest : List Char}
    (h : ∀ c ∈ digits, c.isDigit = true) (hwidth : digits.length ≤ width)
    (hend : digits.length = width ∨ EndsBefore Char.isDigit rest) :
    takeDigits width (digits ++ rest) = (digits, rest) := by
  -- the window may reach beyond the digits, but nothing in it behind them is a digit
  have hdigits : ((digits ++ rest).take width).takeWhile Char.isDigit = digits := by
    rw [List.take_append, List.take_of_length_le hwidth, List.takeWhile_append_of_pos h]
    have hnone : (rest.take (width - digits.length)).takeWhile Char.isDigit = [] := by
      rcases hend with hend | hend
      · rw [hend, Nat.sub_self, List.take_zero, List.takeWhile_nil]
      · cases rest with
        | nil => rw [List.take_nil, List.takeWhile_nil]
        | cons c rest =>
          cases width - digits.length with
          | zero => rfl
          | succ n =>
            rw [List.take_succ_cons, takeWhile_of_endsBefore]
            exact endsBefore_cons (hend c rfl) _
    rw [hnone, List.append_nil]
  simp only [takeDigits]
  rw [hdigits, List.drop_left]

/-- A padded number is read as the number. -/
theorem readNumber_padded {width least n : Nat} {rest : List Char}
    (hwidth : (padded least n).length ≤ width)
    (hend : (padded least n).length = width ∨ EndsBefore Char.isDigit rest) :
    readNumber width (padded least n ++ rest) = some (n, rest) := by
  have hne : (padded least n).isEmpty = false :=
    List.isEmpty_eq_false_iff.mpr (padded_ne_nil least n)
  simp only [readNumber]
  rw [takeDigits_append (fun c => isDigit_of_mem_padded) hwidth hend]
  simp only [hne, Bool.false_eq_true, if_false, value_padded]

theorem readNumber_two {n : Nat} (h : n < 100) (rest : List Char) :
    readNumber 2 (Text.trimStart (padded 2 n ++ rest)) = some (n, rest) := by
  have hlength := length_padded (by decide : 0 < 2) h
  rw [trimStart_digits (padded_ne_nil 2 n) fun c => isDigit_of_mem_padded]
  exact readNumber_padded (Nat.le_of_eq hlength) (.inl hlength)

/-- Digits without a sign are a plain year. -/
theorem readYear_digits {digits : List Char} (hne : digits ≠ [])
    (h : ∀ c ∈ digits, c.isDigit = true) (rest : List Char) :
    readYear (digits ++ rest) =
      (readNumber 4 (digits ++ rest)).map fun (n, r) => ((n : Int), r) := by
  cases digits with
  | nil => exact absurd rfl hne
  | cons c digits =>
    have hc := h c List.mem_cons_self
    -- a digit is no sign
    have hminus : c ≠ '-' := fun heq => absurd (heq ▸ hc) (by decide)
    have hplus : c ≠ '+' := fun heq => absurd (heq ▸ hc) (by decide)
    rw [List.cons_append, readYear]
    · rintro r ⟨⟩
      exact hminus rfl
    · rintro r ⟨⟩
      exact hplus rfl

theorem readNumber_length {least n : Nat} {rest : List Char} (h : EndsBefore Char.isDigit rest) :
    readNumber (padded least n ++ rest).length (padded least n ++ rest) = some (n, rest) := by
  refine readNumber_padded ?_ (.inr h)
  rw [List.length_append]
  exact Nat.le_add_right _ _

/-- A year is read back if no digit follows it. -/
theorem readYear_yearText (y : Int) {rest : List Char} (h : EndsBefore Char.isDigit rest) :
    readYear (Text.trimStart (yearText y ++ rest)) = some (y, rest) := by
  rw [yearText]
  by_cases hplain : (0 ≤ y && y ≤ 9999) = true
  · -- four digits without a sign
    obtain ⟨hlow, hhigh⟩ := Bool.and_eq_true_iff.mp hplain
    rw [decide_eq_true_eq] at hlow hhigh
    have hlength : (padded 4 y.toNat).length = 4 := length_padded (by decide) (by omega)
    rw [if_pos hplain, trimStart_digits (padded_ne_nil 4 _) fun c => isDigit_of_mem_padded,
      readYear_digits (padded_ne_nil 4 _) fun c => isDigit_of_mem_padded,
      readNumber_padded (Nat.le_of_eq hlength) (.inl hlength)]
    show some ((y.toNat : Int), rest) = some (y, rest)
    rw [Int.toNat_of_nonneg hlow]
  · -- a sign, and then as many digits as there are
    rw [if_neg hplain, List.cons_append]
    by_cases hneg : y < 0
    · rw [if_pos hneg, Text.trimStart_cons_of_not_isBlank (by decide), readYear,
        readNumber_length h]
      show some (-(y.natAbs : Int), rest) = some (y, rest)
      rw [show -(y.natAbs : Int) = y by omega]
    · rw [if_neg hneg, Text.trimStart_cons_of_not_isBlank (by decide), readYear,
        readNumber_length h]
      show some ((y.natAbs : Int), rest) = some (y, rest)
      rw [show (y.natAbs : Int) = y by omega]

/-- The digits of a fraction are read as its nanoseconds; zeros behind them may be left off. -/
theorem readFraction_padded {width n nano : Nat} (hpos : 0 < width) (hwidth : width ≤ 9)
    (hn : n < 10 ^ width) (hvalue : n * 10 ^ (9 - width) = nano) (f : Fields) {rest : List Char}
    (h : EndsBefore Char.isDigit rest) :
    readFraction f ('.' :: (padded width n ++ rest)) = some ({ f with nano }, rest) := by
  have hlength := length_padded hpos hn
  have hne : (padded width n).isEmpty = false :=
    List.isEmpty_eq_false_iff.mpr (padded_ne_nil width n)
  simp only [readFraction]
  rw [takeDigits_append (fun c => isDigit_of_mem_padded) (by omega) (.inr h)]
  simp only [hne, Bool.false_eq_true, if_false, value_padded, hlength, hvalue,
    dropWhile_of_endsBefore h]

/-- A fraction is read back if neither a digit nor a point follows it. Of no fraction there is
nothing to be read. -/
theorem readFraction_fractionText {nano : Nat} (hnano : nano < 1000000000) (f : Fields)
    {rest : List Char} (h : EndsBefore (fun c => c.isDigit || c == '.') rest) :
    readFraction f (fractionText nano ++ rest) =
      some ({ f with nano := if nano = 0 then f.nano else nano }, rest) := by
  have hdigit : EndsBefore Char.isDigit rest := fun c hc => (Bool.or_eq_false_iff.mp (h c hc)).1
  rw [fractionText]
  by_cases hzero : nano = 0
  · -- nothing is written, and what follows has no point to be taken for one
    rw [if_pos hzero, if_pos hzero, List.nil_append]
    cases rest with
    | nil => rfl
    | cons c rest =>
      rw [readFraction]
      rintro r ⟨⟩
      exact absurd (h '.' rfl) (by decide)
  · -- three digits, six or nine, whichever are enough
    rw [if_neg hzero, if_neg hzero]
    by_cases hthree : nano % 1000000 = 0
    · rw [if_pos hthree]
      exact readFraction_padded (by decide) (by decide) (by omega) (by omega) f hdigit
    · rw [if_neg hthree]
      by_cases hsix : nano % 1000 = 0
      · rw [if_pos hsix]
        exact readFraction_padded (by decide) (by decide) (by omega) (by omega) f hdigit
      · rw [if_neg hsix]
        exact readFraction_padded (by decide) (by decide) (by omega) (by omega) f hdigit

/-! ### Pieces -/

/-- The fields with what a piece takes from others. -/
def Piece.put (source f : Fields) : Piece → Fields
  | .field .year => { f with year := source.year }
  | .field .month => { f with month := source.month }
  | .field .day => { f with day := source.day }
  | .field .hour => { f with hour := source.hour }
  | .field .minute => { f with minute := source.minute }
  | .field .second => { f with second := source.second }
  | .literal _ => f
  | .gap _ => f
  | .fraction => { f with nano := if source.nano = 0 then f.nano else source.nano }

/-- Whether what a piece writes of some fields is all it reads, with so much behind it. -/
def Piece.Fits (source : Fields) (rest : List Char) : Piece → Prop
  | .field .year => EndsBefore Char.isDigit rest
  | .field .month => source.month < 100
  | .field .day => source.day < 100
  | .field .hour => source.hour < 100
  | .field .minute => source.minute < 100
  | .field .second => source.second < 100
  | .literal _ => True
  | .gap _ => EndsBefore Text.isBlank rest
  | .fraction => source.nano < 1000000000 ∧ EndsBefore (fun c => c.isDigit || c == '.') rest

/-- Blanks are trimmed off what starts with none. -/
theorem trimStart_replicate {rest : List Char} (h : EndsBefore Text.isBlank rest) (n : Nat) :
    Text.trimStart (List.replicate n ' ' ++ rest) = rest := by
  rw [Text.trimStart, List.dropWhile_append_of_pos, dropWhile_of_endsBefore h]
  intro c hc
  rw [List.eq_of_mem_replicate hc]
  decide

/-- A piece reads what it writes. -/
theorem Piece.read_write {source : Fields} {rest : List Char} {piece : Piece}
    (h : piece.Fits source rest) (f : Fields) :
    piece.read f (piece.write source ++ rest) = some (piece.put source f, rest) := by
  cases piece with
  | field k =>
    cases k with
    | year =>
      -- a year has a length of its own, and any other number is padded to two figures
      show (readYear (Text.trimStart (yearText source.year ++ rest))).map _ = _
      rw [readYear_yearText source.year h]
      rfl
    | month | day | hour | minute | second =>
      show (readNumber 2 (Text.trimStart (padded 2 _ ++ rest))).map _ = _
      rw [readNumber_two h]
      rfl
  | literal c => exact if_pos rfl
  | gap width =>
    show some (f, Text.trimStart (List.replicate width ' ' ++ rest)) = _
    rw [trimStart_replicate h]
    rfl
  | fraction => exact readFraction_fractionText h.1 f h.2

/-! ### Patterns -/

/-- The fields with what a pattern takes from others. -/
def Pattern.put (source : Fields) (p : Pattern) (f : Fields) : Fields :=
  p.foldl (fun f piece => piece.put source f) f

/-- Whether every piece of a pattern fits what is written behind it. -/
def Pattern.Fits (source : Fields) : Pattern → Prop
  | [] => True
  | piece :: rest => piece.Fits source (Pattern.writeFields rest source) ∧ Pattern.Fits source rest

/-- **A pattern reads what it writes**, if its pieces fit. -/
theorem Pattern.readFrom_writeFields {source : Fields} {p : Pattern} (h : p.Fits source)
    (f : Fields) : p.readFrom f (p.writeFields source) = some (p.put source f) := by
  induction p generalizing f with
  | nil => rfl
  | cons piece rest ih =>
    -- what the rest of the pattern writes is what has to be told apart from the piece
    have hwrite : Pattern.writeFields (piece :: rest) source =
        piece.write source ++ Pattern.writeFields rest source := List.flatMap_cons
    rw [hwrite, Pattern.readFrom, Piece.read_write h.1 f]
    exact ih h.2 _

/-! ### One piece and the rest -/

/-- A pattern reads its first piece, and then the rest of it what is left. -/
theorem Pattern.readFrom_cons_eq_some_iff {piece : Piece} {p : Pattern} {f f' : Fields}
    {cs : List Char} : Pattern.readFrom (piece :: p) f cs = some f' ↔
      ∃ g rest, piece.read f cs = some (g, rest) ∧ p.readFrom g rest = some f' := by
  rw [Pattern.readFrom]
  cases piece.read f cs with
  | none => simp
  | some found =>
    obtain ⟨g, rest⟩ := found
    simp

/-- A mark is read where it stands. -/
theorem Piece.read_literal_eq_some_iff {c : Char} {f g : Fields} {cs rest : List Char} :
    (Piece.literal c).read f cs = some (g, rest) ↔ cs = c :: rest ∧ g = f := by
  cases cs with
  | nil => simp [Piece.read]
  | cons d cs =>
    simp only [Piece.read, Option.ite_none_right_eq_some, Option.some.injEq, Prod.mk.injEq,
      List.cons.injEq]
    constructor
    · rintro ⟨hd, rfl, rfl⟩
      exact ⟨⟨hd, rfl⟩, rfl⟩
    · rintro ⟨⟨hd, rfl⟩, rfl⟩
      exact ⟨hd, rfl, rfl⟩

/-- Every number but the year is read alike. -/
theorem Piece.read_field {k : Field} (hk : k ≠ .year) (f : Fields) (cs : List Char) :
    (Piece.field k).read f cs =
      (readNumber 2 (Text.trimStart cs)).map fun (n, rest) => (f.set k n, rest) := by
  cases k with
  | year => exact absurd rfl hk
  | month | day | hour | minute | second => rfl

/-! ### Dates and times -/

namespace Date

theorem month_le (d : Date) : d.month ≤ 12 := by
  obtain ⟨length, hlength, -, -⟩ := locate_spec d.dayOfYear_lt
  obtain ⟨hlt, -⟩ := List.getElem?_eq_some_iff.mp hlength
  rw [month]
  exact hlt

theorem day_le (d : Date) : d.day ≤ 31 := by
  obtain ⟨length, hlength, hlt, -⟩ := locate_spec d.dayOfYear_lt
  have hle : ∀ n ∈ monthLengths d.year, n ≤ 31 := by
    rw [monthLengths]
    cases isLeap d.year <;> decide
  have := hle length (List.mem_of_getElem? hlength)
  rw [day]
  omega

end Date

theorem dateTime?_ofDateTime (t : DateTime) : (Fields.ofDateTime t).dateTime? = some t := by
  have hdate : (Fields.ofDateTime t).date? = some t.date := t.date.of?_parts
  have hclock : (Fields.ofDateTime t).clock? = some t.clock := t.clock.of?_parts
  rw [Fields.dateTime?, hdate, hclock]
  rfl

/-- Every number of a date and time but the year and the fraction has two digits. -/
theorem two_digits (t : DateTime) :
    t.date.month < 100 ∧ t.date.day < 100 ∧ t.clock.hour < 100 ∧ t.clock.minuteOfHour < 100 ∧
      t.clock.second.val < 100 := by
  have hmonth := t.date.month_le
  have hday := t.date.day_le
  have hminute := t.clock.minute.isLt
  have hsecond := t.clock.second.isLt
  rw [Clock.hour, Clock.minuteOfHour]
  omega

theorem Pattern.readFields_write {p : Pattern} {t : DateTime} (h : p.Fits (Fields.ofDateTime t)) :
    p.readFields (p.write t) = some (p.put (Fields.ofDateTime t) {}) := by
  rw [Pattern.readFields, Pattern.write, String.toList_ofList, Pattern.readFrom_writeFields h]

/-- The pieces of the ISO form fit every date and time. -/
theorem iso_fits (t : DateTime) : iso.Fits (Fields.ofDateTime t) := by
  obtain ⟨hmonth, hday, hhour, hminute, hsecond⟩ := two_digits t
  -- behind the year and the gaps stand marks of the form, and nothing behind the fraction
  exact ⟨endsBefore_cons (by decide) _, endsBefore_cons (by decide) _, trivial, hmonth,
    endsBefore_cons (by decide) _, trivial, hday, endsBefore_cons (by decide) _, trivial, hhour,
    endsBefore_cons (by decide) _, trivial, hminute, endsBefore_cons (by decide) _, trivial,
    hsecond, ⟨t.clock.nano.isLt, endsBefore_nil _⟩, endsBefore_nil _, trivial⟩

/-- **A date and time is read back from its ISO form.** -/
theorem iso_read_write (t : DateTime) : iso.read (iso.write t) = some t := by
  have hput : iso.put (Fields.ofDateTime t) {} = Fields.ofDateTime t := by
    -- a fraction that is not written is the zero that reading starts from
    by_cases hnano : t.clock.nano.val = 0
    · simp [iso, Pattern.put, Piece.put, Fields.ofDateTime, hnano]
    · simp [iso, Pattern.put, Piece.put, Fields.ofDateTime, hnano]
  rw [Pattern.read, Pattern.readFields_write (iso_fits t), hput]
  exact dateTime?_ofDateTime t

/-- **The date of a query is read back.** -/
theorem slashedDate_read_write (t : DateTime) :
    (slashedDate.readFields (slashedDate.write t)).bind Fields.date? = some t.date := by
  obtain ⟨hmonth, hday, -⟩ := two_digits t
  -- nothing follows the year
  have hfits : slashedDate.Fits (Fields.ofDateTime t) :=
    ⟨hmonth, trivial, hday, trivial, endsBefore_nil _, trivial⟩
  rw [Pattern.readFields_write hfits]
  exact t.date.of?_parts

/-- A time of day cut off behind its minute. -/
def Clock.truncated (c : Clock) : Clock := ⟨c.minute, ⟨0, by decide⟩, ⟨0, by decide⟩⟩

/-- **The time of day of a query is read back** to the minute. -/
theorem hourMinute_read_write (t : DateTime) :
    (hourMinute.readFields (hourMinute.write t)).bind Fields.clock? = some t.clock.truncated := by
  obtain ⟨-, -, hhour, hminute, -⟩ := two_digits t
  have hfits : hourMinute.Fits (Fields.ofDateTime t) := ⟨hhour, trivial, hminute, trivial⟩
  rw [Pattern.readFields_write hfits]
  exact t.clock.truncated.of?_parts

end Itinerary.Calendar
