import Itinerary.Disruption
import Itinerary.Proofs.Calendar.Stamp

/-!
# When a disruption holds

An alert names its validity by two ends with a hyphen between them, each with the day before the
month or the month before the day. An end that is read with the two exchanged is a day that nobody
wrote, and no fault would show: 03/04 is a day either way. What keeps the forms apart is the mark
behind the first number, a point in one and a slash in the other (`Pattern.exists_mark`), so no text
is read by both, and the order in which they are tried is of no account
(`findSome?_read_eq_some_iff`).

The hyphen that separates is the first one. None stands in an end that is written for a year without
a sign (`Pattern.hyphen_notMem_write`), so a range of such years is cut where it was joined.
-/

namespace Itinerary

namespace Calendar

open Text

/-! ### Two forms, one reading -/

/-- A pattern that starts with a number of two digits and a mark reads no text without the mark. -/
theorem Pattern.exists_mark {k : Field} (hk : k ≠ .year) {c : Char} {p : Pattern} {f f' : Fields}
    {cs : List Char} (h : Pattern.readFrom (.field k :: .literal c :: p) f cs = some f') :
    ∃ n rest, readNumber 2 (trimStart cs) = some (n, c :: rest) := by
  obtain ⟨g, rest, hnumber, h⟩ := Pattern.readFrom_cons_eq_some_iff.mp h
  obtain ⟨g', rest', hmark, -⟩ := Pattern.readFrom_cons_eq_some_iff.mp h
  rw [Piece.read_field hk] at hnumber
  obtain ⟨⟨n, left⟩, hn, heq⟩ := Option.map_eq_some_iff.mp hnumber
  obtain ⟨rfl, -⟩ := Piece.read_literal_eq_some_iff.mp hmark
  cases heq
  exact ⟨n, rest', hn⟩

/-- **No text is read by both forms of an end.** -/
theorem germanMinute_or_englishMinute (s : String) :
    germanMinute.read s = none ∨ englishMinute.read s = none := by
  by_contra! hboth
  obtain ⟨t, ht⟩ := Option.ne_none_iff_exists'.mp hboth.1
  obtain ⟨t', ht'⟩ := Option.ne_none_iff_exists'.mp hboth.2
  -- the number in front is the same, and behind it there would be a point and a slash
  obtain ⟨n, rest, hpoint⟩ := Pattern.exists_mark (by decide) (Pattern.read_eq_some_iff.mp ht)
  obtain ⟨m, rest', hslash⟩ := Pattern.exists_mark (by decide) (Pattern.read_eq_some_iff.mp ht')
  rw [hpoint] at hslash
  cases hslash

theorem eq_of_read_ne_none {form other : Pattern} (hform : form ∈ rangeForms)
    (hother : other ∈ rangeForms) {s : String} (h : form.read s ≠ none)
    (h' : other.read s ≠ none) : form = other := by
  have hboth := germanMinute_or_englishMinute s
  rw [rangeForms, List.mem_cons, List.mem_singleton] at hform hother
  rcases hform with rfl | rfl
  · rcases hother with rfl | rfl
    · rfl
    · exact (hboth.elim h h').elim
  · rcases hother with rfl | rfl
    · exact (hboth.elim h' h).elim
    · rfl

/-- **In whatever order the forms are tried**, what is found is what one of them reads. -/
theorem findSome?_read_eq_some_iff {forms : List Pattern} (hforms : forms ⊆ rangeForms)
    {s : String} {t : DateTime} :
    (forms.findSome? fun form => form.read s) = some t ↔ ∃ form ∈ forms, form.read s = some t := by
  refine ⟨List.exists_of_findSome?_eq_some, ?_⟩
  rintro ⟨form, hform, ht⟩
  -- something is found, and the form that reads it is the one that reads the text
  have hfound : (forms.findSome? fun form => form.read s) ≠ none := by
    rw [Ne, List.findSome?_eq_none_iff]
    intro hnone
    rw [hnone form hform] at ht
    cases ht
  obtain ⟨t', ht'⟩ := Option.ne_none_iff_exists'.mp hfound
  obtain ⟨other, hother, hread⟩ := List.exists_of_findSome?_eq_some ht'
  obtain rfl : form = other := eq_of_read_ne_none (hforms hform) (hforms hother)
    (by rw [ht]; exact Option.some_ne_none t) (by rw [hread]; exact Option.some_ne_none t')
  rw [ht', ← hread, ht]

theorem readRangeEnd_eq_some_iff {s : String} {t : DateTime} :
    readRangeEnd s = some t ↔ ∃ form ∈ rangeForms, form.read (trim s) = some t :=
  findSome?_read_eq_some_iff (List.Subset.refl rangeForms)

theorem readRangeEnd_eq_none_iff {s : String} :
    readRangeEnd s = none ↔ ∀ form ∈ rangeForms, form.read (trim s) = none :=
  List.findSome?_eq_none_iff

/-- The order of the forms does not matter. -/
theorem findSome?_read_of_perm {forms : List Pattern} (h : forms.Perm rangeForms) (s : String) :
    (forms.findSome? fun form => form.read (trim s)) = readRangeEnd s := by
  refine Option.ext fun t => ?_
  rw [findSome?_read_eq_some_iff h.subset, readRangeEnd_eq_some_iff]
  constructor
  · rintro ⟨form, hform, ht⟩
    exact ⟨form, h.mem_iff.mp hform, ht⟩
  · rintro ⟨form, hform, ht⟩
    exact ⟨form, h.mem_iff.mpr hform, ht⟩

/-! ### Ends that are read back -/

/-- Whether a time is a whole minute of a year that is written without a sign. -/
structure DateTime.IsPlainMinute (t : DateTime) : Prop where
  year : 0 ≤ t.date.year ∧ t.date.year ≤ 9999
  second : t.clock.second.val = 0
  nano : t.clock.nano.val = 0

/-- Both forms fit every date and time. -/
theorem fits_of_mem_rangeForms {form : Pattern} (h : form ∈ rangeForms) (t : DateTime) :
    form.Fits (Fields.ofDateTime t) := by
  obtain ⟨hmonth, hday, hhour, hminute, -⟩ := two_digits t
  -- a blank ends the year, and the digits of the hour end the gap
  have hyear : EndsBefore Char.isDigit
      (Pattern.writeFields ([.gap 1] ++ hourMinute) (Fields.ofDateTime t)) :=
    endsBefore_cons (by decide) _
  have hclock : Pattern.Fits (Fields.ofDateTime t) ([.gap 1] ++ hourMinute) :=
    ⟨endsBefore_append (Decimal.padded_ne_nil _ _) (fun _ => isBlank_of_mem_padded) _, hhour,
      trivial, hminute, trivial⟩
  rw [rangeForms, List.mem_cons, List.mem_singleton] at h
  rcases h with rfl | rfl
  · exact ⟨hday, trivial, hmonth, trivial, hyear, hclock⟩
  · exact ⟨hmonth, trivial, hday, trivial, hyear, hclock⟩

/-- Both forms start with a number and end with one. -/
theorem exists_ends_of_mem_rangeForms {form : Pattern} (h : form ∈ rangeForms) :
    ∃ first last front rest, form = .field first :: rest ∧ form = front ++ [.field last] := by
  rw [rangeForms, List.mem_cons, List.mem_singleton] at h
  rcases h with rfl | rfl
  · exact ⟨_, _, germanMinute.dropLast, _, rfl, rfl⟩
  · exact ⟨_, _, englishMinute.dropLast, _, rfl, rfl⟩

/-- **A whole minute is read back from either form**, with blanks around it or none. -/
theorem readRangeEnd_write {form : Pattern} (hform : form ∈ rangeForms) {t : DateTime}
    (ht : t.IsPlainMinute) {before after : String} (hbefore : isBlankText before = true)
    (hafter : isBlankText after = true) :
    readRangeEnd (before ++ form.write t ++ after) = some t := by
  obtain ⟨first, last, front, rest, hfirst, hlast⟩ := exists_ends_of_mem_rangeForms hform
  have hput : form.put (Fields.ofDateTime t) {} = Fields.ofDateTime t := by
    -- seconds and their fraction are left out, and there are none
    rw [rangeForms, List.mem_cons, List.mem_singleton] at hform
    rcases hform with rfl | rfl
    · simp [germanMinute, hourMinute, Pattern.put, Piece.put, Fields.ofDateTime, ht.second,
        ht.nano]
    · simp [englishMinute, slashedDate, hourMinute, Pattern.put, Piece.put, Fields.ofDateTime,
        ht.second, ht.nano]
  rw [readRangeEnd_eq_some_iff]
  refine ⟨form, hform, ?_⟩
  rw [Pattern.trim_write hfirst hlast t hbefore hafter, Pattern.read_eq_some_iff,
    Pattern.readFields_write (fits_of_mem_rangeForms hform t), hput]

/-- A number is written in digits alone, if the year needs no sign. -/
theorem Field.isDigit_of_mem_write {k : Field} {f : Fields} (hyear : 0 ≤ f.year ∧ f.year ≤ 9999)
    {c : Char} (h : c ∈ k.write f) : c.isDigit = true := by
  cases k with
  | year =>
    have hplain : (0 ≤ f.year && f.year ≤ 9999) = true := by
      rw [Bool.and_eq_true, decide_eq_true_eq, decide_eq_true_eq]
      exact hyear
    rw [write, yearText, if_pos hplain] at h
    exact Decimal.isDigit_of_mem_padded h
  | month | day | hour | minute | second => exact Decimal.isDigit_of_mem_padded h

/-- **No hyphen stands in an end that is written for a year without a sign.** -/
theorem Pattern.hyphen_notMem_write {form : Pattern} (hform : form ∈ rangeForms) {t : DateTime}
    (hyear : 0 ≤ t.date.year ∧ t.date.year ≤ 9999) : '-' ∉ (form.write t).toList := by
  rw [write, String.toList_ofList, writeFields, List.mem_flatMap]
  rintro ⟨piece, hpiece, hmem⟩
  -- piece by piece: digits, blanks, and marks of which none is a hyphen
  have hforms : ∀ form ∈ rangeForms, ∀ piece ∈ form, piece ≠ .literal '-' ∧ piece ≠ .fraction := by
    decide
  obtain ⟨hliteral, hfraction⟩ := hforms form hform piece hpiece
  cases piece with
  | field k => exact absurd (Field.isDigit_of_mem_write hyear hmem) (by decide)
  | literal c =>
    obtain rfl := List.mem_singleton.mp hmem
    exact hliteral rfl
  | gap width => exact absurd (List.eq_of_mem_replicate hmem) (by decide)
  | fraction => exact hfraction rfl

end Calendar

open Calendar Text

namespace TimeRange

/-! ### Ranges -/

/-- The first hyphen is the one that separates. -/
theorem ofString?_append {start finish : String} (h : '-' ∉ start.toList) :
    ofString? (start ++ "-" ++ finish) =
      (readRangeEnd start).bind fun t => (readRangeEnd finish).map fun t' => ⟨t, t'⟩ := by
  have hcut : (start ++ "-" ++ finish).toList = start.toList ++ '-' :: finish.toList := by
    rw [String.toList_append, String.toList_append, List.append_assoc]
    rfl
  rw [ofString?, span_eq_iff.mpr ⟨h, hcut⟩]
  simp only [String.ofList_toList]
  cases readRangeEnd start with
  | none => rfl
  | some t => cases readRangeEnd finish <;> rfl

theorem ofString?_of_hyphen_notMem {s : String} (h : '-' ∉ s.toList) : ofString? s = none := by
  rw [ofString?, span_of_not_mem h]

/-- A text with a hyphen has a first one. -/
theorem exists_first_hyphen {s : String} (h : '-' ∈ s.toList) :
    ∃ start finish, s = start ++ "-" ++ finish ∧ '-' ∉ start.toList := by
  obtain ⟨front, rest, hs, hfront⟩ := List.eq_append_cons_of_mem h
  refine ⟨String.ofList front, String.ofList rest, ?_, by rwa [String.toList_ofList]⟩
  rw [← String.toList_inj, hs]
  simp

/-- **What is no range** has no hyphen, or neither form reads what stands before the first hyphen or
what stands behind it. -/
theorem ofString?_eq_none_iff {s : String} :
    ofString? s = none ↔ '-' ∉ s.toList ∨
      ∃ start finish, s = start ++ "-" ++ finish ∧ '-' ∉ start.toList ∧
        (readRangeEnd start = none ∨ readRangeEnd finish = none) := by
  constructor
  · intro h
    rw [or_iff_not_imp_left, not_not]
    intro hhyphen
    -- with a hyphen the text is cut at the first one, and one of the two parts is no end
    obtain ⟨start, finish, rfl, hfirst⟩ := exists_first_hyphen hhyphen
    refine ⟨start, finish, rfl, hfirst, ?_⟩
    rw [ofString?_append hfirst] at h
    cases hstart : readRangeEnd start with
    | none => exact .inl rfl
    | some t =>
      rw [hstart, Option.bind_some, Option.map_eq_none_iff] at h
      exact .inr h
  · rintro (h | ⟨start, finish, rfl, hfirst, h | h⟩)
    · exact ofString?_of_hyphen_notMem h
    · rw [ofString?_append hfirst, h, Option.bind_none]
    · rw [ofString?_append hfirst, h]
      simp only [Option.map_none, Option.bind_fun_none]

/-- **A range is read back** from its two ends, each in either form. -/
theorem ofString?_write {r : TimeRange} (hstart : r.start.IsPlainMinute)
    (hfinish : r.finish.IsPlainMinute) {form other : Pattern} (hform : form ∈ rangeForms)
    (hother : other ∈ rangeForms) {before left right after : String}
    (hbefore : isBlankText before = true) (hleft : isBlankText left = true)
    (hright : isBlankText right = true) (hafter : isBlankText after = true) :
    ofString? (before ++ form.write r.start ++ left ++ "-" ++
      (right ++ other.write r.finish ++ after)) = some r := by
  have hblank : ∀ blanks : String, isBlankText blanks = true → '-' ∉ blanks.toList :=
    fun blanks h hmem => absurd (List.all_eq_true.mp h '-' hmem) (by decide)
  -- so the hyphen in between is the first one
  have hfirst : '-' ∉ (before ++ form.write r.start ++ left).toList := by
    rw [String.toList_append, String.toList_append, List.mem_append, List.mem_append, not_or,
      not_or]
    exact ⟨⟨hblank before hbefore, Pattern.hyphen_notMem_write hform hstart.year⟩,
      hblank left hleft⟩
  rw [ofString?_append hfirst, readRangeEnd_write hform hstart hbefore hleft,
    readRangeEnd_write hother hfinish hright hafter]
  rfl

/-- **Validity is read in one way.** A range of whole minutes is read back from its ends, each
written in either form, whatever blanks stand around them. No text is read by both forms, so in
whatever order they are tried the same end is found. What is no range is told by the forms alone: it
has no hyphen, or neither form reads what stands on one side of the first one. -/
theorem ofString?_unambiguous :
    (∀ r : TimeRange, r.start.IsPlainMinute → r.finish.IsPlainMinute →
      ∀ form ∈ rangeForms, ∀ other ∈ rangeForms, ∀ before left right after,
        isBlankText before = true → isBlankText left = true → isBlankText right = true →
        isBlankText after = true →
        ofString? (before ++ form.write r.start ++ left ++ "-" ++
          (right ++ other.write r.finish ++ after)) = some r) ∧
    (∀ s, germanMinute.read s = none ∨ englishMinute.read s = none) ∧
    (∀ s, ∀ forms : List Pattern, forms.Perm rangeForms →
      (forms.findSome? fun form => form.read (trim s)) = readRangeEnd s) ∧
    ∀ s, ofString? s = none ↔ '-' ∉ s.toList ∨
      ∃ start finish, s = start ++ "-" ++ finish ∧ '-' ∉ start.toList ∧
        ((∀ form ∈ rangeForms, form.read (trim start) = none) ∨
          ∀ form ∈ rangeForms, form.read (trim finish) = none) := by
  -- one form has points and the other slashes, so nothing is read by both
  refine ⟨?readBack, germanMinute_or_englishMinute, ?order, fun s => ?none⟩
  case readBack =>
    intro r hstart hfinish form hform other hother before left right after hbefore hleft hright
      hafter
    exact ofString?_write hstart hfinish hform hother hbefore hleft hright hafter
  case order => exact fun s forms h => findSome?_read_of_perm h s
  case none =>
    rw [ofString?_eq_none_iff]
    simp only [readRangeEnd_eq_none_iff]

/-- A range over the end of a February, in a leap year. -/
def overLeapDay : TimeRange where
  start := ⟨(Date.of? 2028 2 29).get (by decide), (Clock.of? 5 0 0 0).get (by decide)⟩
  finish := ⟨(Date.of? 2028 4 3).get (by decide), (Clock.of? 23 59 0 0).get (by decide)⟩

theorem ofString?_overLeapDay :
    ofString? "29.02.2028 05:00 -\u00a004/03/2028 23:59" = some overLeapDay ∧
      readRangeEnd "03/04/2028 05:00" =
        [englishMinute, germanMinute].findSome? (fun form => form.read (trim "03/04/2028 05:00")) ∧
      ofString? "29.02.2028 05:00-later" = none := by
  have hstart : overLeapDay.start.IsPlainMinute := ⟨by decide +kernel, rfl, rfl⟩
  have hfinish : overLeapDay.finish.IsPlainMinute := ⟨by decide +kernel, rfl, rfl⟩
  have hwrite : "" ++ germanMinute.write overLeapDay.start ++ " " ++ "-" ++
      ("\u00a0" ++ englishMinute.write overLeapDay.finish ++ "") =
        "29.02.2028 05:00 -\u00a004/03/2028 23:59" := by
    decide +kernel
  obtain ⟨hread, -, horder, hnone⟩ := ofString?_unambiguous
  refine ⟨?_, (horder _ _ (.swap _ _ _)).symm, (hnone _).mpr (.inr ?_)⟩
  · rw [← hwrite]
    exact hread overLeapDay hstart hfinish _ (by decide) _ (by decide) _ _ _ _ (by decide)
      (by decide) (by decide) (by decide)
  · exact ⟨"29.02.2028 05:00", "later", by decide +kernel, by decide, .inr (by decide +kernel)⟩

end TimeRange

end Itinerary
