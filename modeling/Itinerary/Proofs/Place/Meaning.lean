import Itinerary.Proofs.Decimal.Layout
import Itinerary.Proofs.Place

/-!
# What a term means, and means again

A term is tried as an id, then as a coordinate, and is a name if it is neither. What is sent for it
may be read as a term once more, by whoever copies it back into a search. It then has to mean the
same place, although a coordinate is not sent as it was typed: its numbers are written anew, with
other digits perhaps and without the blanks.

No two readings get in each other's way. An id has no comma, and what is written for a coordinate
has one: it stands between two texts of digits, points and minus signs, with no blank to be trimmed
and no further comma (`Point.spells_display`). Names and ids are sent as they were read, and to trim
them a second time changes nothing. What the numbers themselves read back as is not looked into
here: `Point.ReadsBack` says of one coordinate that they are the same.
-/

namespace Itinerary

open Text

/-! ### Coordinates written out -/

/-- Whether a double is read back as it is displayed. -/
def Decimal.ReadsBack (x : Float) : Prop :=
  (Decimal.readFloat (Decimal.display x)).toOption = some x

/-- Neither blanks nor commas stand in a finite double in display form. -/
theorem Decimal.plain_of_mem_display {x : Float} (hx : x.isFinite = true) {c : Char}
    (hc : c ∈ (Decimal.display x).toList) : isBlank c = false ∧ c ≠ ',' := by
  rcases Decimal.mem_display hx hc with hdigit | rfl | rfl
  · refine ⟨isBlank_of_isDigit hdigit, ?_⟩
    rintro rfl
    exact absurd hdigit (by decide)
  · decide
  · decide

namespace Point

/-- Whether both numbers of a coordinate are read back as they are displayed. -/
structure ReadsBack (p : Point) : Prop where
  lat : Decimal.ReadsBack p.lat
  lon : Decimal.ReadsBack p.lon

theorem readHalf_display {x : Float} (hx : x.isFinite = true) (h : Decimal.ReadsBack x) :
    readHalf (Decimal.display x).toList = some x := by
  rw [readHalf, trimChars_of_forall fun c hc => (Decimal.plain_of_mem_display hx hc).1,
    String.ofList_toList]
  exact h

theorem toList_display (p : Point) : p.display.toList =
    (Decimal.display p.lat).toList ++ ',' :: (Decimal.display p.lon).toList := by
  rw [display, String.toList_append, String.toList_append, List.append_assoc]
  rfl

/-- **A coordinate is spelled by what is written for it.** -/
theorem spells_display {p : Point} (hrange : inRange p.lat p.lon = true) (h : p.ReadsBack) :
    Spells p.display.toList p := by
  obtain ⟨hlat, hlon⟩ := isFinite_of_inRange hrange
  rw [toList_display]
  exact .intro (fun hcomma => (Decimal.plain_of_mem_display hlat hcomma).2 rfl)
    (readHalf_display hlat h.lat) (readHalf_display hlon h.lon) hrange

theorem trim_display {p : Point} (hrange : inRange p.lat p.lon = true) :
    trim p.display = p.display := by
  obtain ⟨hlat, hlon⟩ := isFinite_of_inRange hrange
  refine trim_of_forall fun c hc => ?_
  rw [toList_display] at hc
  rcases List.mem_append.mp hc with hc | hc
  · exact (Decimal.plain_of_mem_display hlat hc).1
  · rcases List.mem_cons.mp hc with rfl | hc
    · decide
    · exact (Decimal.plain_of_mem_display hlon hc).1

theorem Spells.inRange {cs : List Char} {p : Point} (h : Spells cs p) :
    inRange p.lat p.lon = true := by
  cases h with
  | intro hcomma hlat hlon hrange => exact hrange

/-- What stands on both sides of the first comma decides whether there is a coordinate. -/
theorem not_spells_append {lat lon : List Char} (hcomma : ',' ∉ lat)
    (h : ∀ x y, readHalf lat = some x → readHalf lon = some y → inRange x y = false) (p : Point) :
    ¬ Spells (lat ++ ',' :: lon) p := by
  rw [← ofTerm?_eq_some_iff, ofTerm?_append hcomma]
  split
  · rename_i x y hlat hlon
    rw [h x y hlat hlon]
    exact nofun
  · exact nofun

end Point

namespace Location

/-! ### The three readings -/

/-- What a term may mean, blanks around it aside. -/
inductive Means (term : String) : Location → Prop
  /-- digits, the id of a station -/
  | station (h : Decimal.isDigits (trim term).toList = true) :
    Means term ⟨.station, some (trim term), none, none⟩
  /-- two numbers in their ranges, a coordinate -/
  | coordinate {p : Point} (h : Point.Spells (trim term).toList p) :
    Means term ⟨.any, none, some p, none⟩
  /-- anything else, a name -/
  | name (hid : Decimal.isDigits (trim term).toList = false)
    (hpoint : ∀ p, ¬ Point.Spells (trim term).toList p) : Means term (named (trim term))

/-- **A term means one place**, the one it is read as. -/
theorem ofTerm_eq_iff {term : String} {l : Location} : ofTerm term = l ↔ Means term l := by
  constructor
  · rintro rfl
    rw [ofTerm]
    by_cases hdigits : Decimal.isDigits (trim term).toList = true
    · simp only [if_pos hdigits]
      exact .station hdigits
    · simp only [if_neg hdigits]
      cases hpoint : Point.ofTerm? (trim term).toList with
      | some p => exact .coordinate (Point.ofTerm?_eq_some_iff.mp hpoint)
      | none =>
        refine .name (Bool.eq_false_iff.mpr hdigits) fun p hspells => ?_
        cases hpoint.symm.trans (Point.ofTerm?_eq_some_iff.mpr hspells)
  · intro h
    rw [ofTerm]
    -- what is tried before a reading does not apply to it
    cases h with
    | station hdigits => simp only [if_pos hdigits]
    | @coordinate p hspells =>
      have hdigits : ¬ Decimal.isDigits (trim term).toList = true := fun hdigits =>
        not_spells_of_isDigits hdigits p hspells
      simp only [if_neg hdigits, Point.ofTerm?_eq_some_iff.mpr hspells]
    | name hid hpoint =>
      have hnone : Point.ofTerm? (trim term).toList = none :=
        Option.eq_none_iff_forall_not_mem.mpr fun p hp =>
          hpoint p (Point.ofTerm?_eq_some_iff.mp hp)
      simp only [hid, Bool.false_eq_true, if_false, hnone]

theorem means_ofTerm (term : String) : Means term (ofTerm term) := ofTerm_eq_iff.mp rfl

theorem ofTerm_trim (term : String) : ofTerm (trim term) = ofTerm term := by
  rw [ofTerm, trim_trim]
  rfl

/-- Only blank terms are not sent. -/
theorem term?_ofTerm_eq_none_iff {term : String} :
    (ofTerm term).term? = none ↔ isBlankText term = true := by
  constructor
  · intro hnone
    obtain ⟨sent, hsent⟩ := exists_sentAs term
    refine Bool.of_not_eq_false fun hblank => ?_
    cases hnone.symm.trans ((term?_ofTerm_eq_some_iff hblank).mpr hsent)
  · exact term?_ofTerm_of_isBlankText

/-- **What is sent for a term means what the term means.** -/
theorem SentAs.ofTerm_eq {term sent : String} (h : SentAs term sent)
    (hback : ∀ p, Point.Spells (trim term).toList p → p.ReadsBack) :
    ofTerm sent = ofTerm term := by
  cases h with
  | @coordinate p hspells =>
    -- the numbers are written anew, without the blanks and with no comma of their own
    rw [ofTerm_eq_iff.mpr (.coordinate hspells)]
    refine ofTerm_eq_iff.mpr (.coordinate ?_)
    rw [Point.trim_display hspells.inRange]
    exact Point.spells_display hspells.inRange (hback p hspells)
  | text hnone => exact ofTerm_trim term

theorem Means.kind_eq_station_iff {term : String} {l : Location} (h : Means term l) :
    l.kind = .station ↔ Decimal.isDigits (trim term).toList = true := by
  cases h with
  | station hdigits => exact iff_of_true rfl hdigits
  | @coordinate p hspells =>
    exact iff_of_false nofun fun hdigits => not_spells_of_isDigits hdigits p hspells
  | name hid hpoint => exact iff_of_false nofun (Bool.eq_false_iff.mp hid)

theorem Means.coord_eq_some_iff {term : String} {l : Location} (h : Means term l) {p : Point} :
    l.coord = some p ↔ Point.Spells (trim term).toList p := by
  cases h with
  | station hdigits => exact iff_of_false nofun (not_spells_of_isDigits hdigits p)
  | @coordinate q hspells =>
    rw [← Point.ofTerm?_eq_some_iff, Point.ofTerm?_eq_some_iff.mpr hspells]
  | name hid hpoint => exact iff_of_false nofun (hpoint p)

/-- A comma makes a name of what is no coordinate. -/
theorem means_named {term : String} {lat lon : List Char}
    (hterm : (trim term).toList = lat ++ ',' :: lon)
    (hpoint : ∀ p, ¬ Point.Spells (trim term).toList p) : Means term (named (trim term)) := by
  refine .name (Bool.eq_false_iff.mpr fun hdigits => comma_notMem_of_isDigits hdigits ?_) hpoint
  rw [hterm]
  exact List.mem_append_right lat List.mem_cons_self

/-- **The three readings of a term.** A term has one of them. It is sent exactly if it is not blank,
and what is sent for it means the same place, as far as numbers are read back. It is an id exactly
if it is digits, and a coordinate exactly if it spells one. A comma between two texts of which
either is no finite number, or which are numbers out of range, leaves it a name. -/
theorem ofTerm_readings (term : String) :
    Means term (ofTerm term) ∧
      ((ofTerm term).term? = none ↔ isBlankText term = true) ∧
      (isBlankText term = false → ∃ sent, (ofTerm term).term? = some sent ∧ SentAs term sent ∧
        ((∀ p, Point.Spells (trim term).toList p → p.ReadsBack) → ofTerm sent = ofTerm term)) ∧
      ((ofTerm term).kind = .station ↔
        trim term ≠ "" ∧ ∀ c ∈ (trim term).toList, c.isDigit = true) ∧
      (∀ p, (ofTerm term).coord = some p ↔ Point.Spells (trim term).toList p) ∧
      (∀ lat lon, (trim term).toList = lat ++ ',' :: lon → ',' ∉ lat →
        (∀ x y, Point.readHalf lat = some x → Point.readHalf lon = some y →
          x.isFinite = false ∨ y.isFinite = false ∨ Point.inRange x y = false) →
        ofTerm term = named (trim term)) := by
  refine ⟨means_ofTerm term, term?_ofTerm_eq_none_iff, fun hblank => ?sent, ?station, ?coordinate,
    ?name⟩
  case sent =>
    -- what is sent is read as the same place, if its numbers are read back
    obtain ⟨sent, hsent⟩ := exists_sentAs term
    exact ⟨sent, (term?_ofTerm_eq_some_iff hblank).mpr hsent, hsent, hsent.ofTerm_eq⟩
  case station =>
    rw [(means_ofTerm term).kind_eq_station_iff, Decimal.isDigits, Bool.and_eq_true,
      Bool.not_eq_true', List.isEmpty_eq_false_iff, ne_eq, String.toList_eq_nil_iff,
      List.all_eq_true]
  case coordinate => exact fun p => (means_ofTerm term).coord_eq_some_iff
  case name =>
    intro lat lon hterm hcomma hno
    refine ofTerm_eq_iff.mpr (means_named hterm ?_)
    rw [hterm]
    refine Point.not_spells_append hcomma fun x y hlat hlon => ?_
    -- numbers in their ranges are finite
    refine Bool.eq_false_iff.mpr fun hrange => ?_
    obtain ⟨hx, hy⟩ := Point.isFinite_of_inRange hrange
    rcases hno x y hlat hlon with hno | hno | hno
    · exact absurd (hx.symm.trans hno) (by decide)
    · exact absurd (hy.symm.trans hno) (by decide)
    · exact absurd (hrange.symm.trans hno) (by decide)

/-- A coordinate with a zero too many, and with blanks around both its numbers. -/
def looseTerm : String := " 47.10 ,\u00a08.7\n"

theorem ofTerm_readings_looseTerm :
    (∀ p, Point.Spells (trim looseTerm).toList p → p.ReadsBack) ∧
      (ofTerm looseTerm).coord = some ⟨47.1, 8.7⟩ ∧
      (ofTerm looseTerm).term? = some "47.1,8.7" ∧ ofTerm "47.1,8.7" = ofTerm looseTerm ∧
      ofTerm "nan,8.7" = named "nan,8.7" := by
  -- the loose numbers are read as a coordinate, whose numbers are read back
  have hpoint : Point.ofTerm? (trim looseTerm).toList = some ⟨47.1, 8.7⟩ := by decide +kernel
  have hback : ∀ p, Point.Spells (trim looseTerm).toList p → p.ReadsBack := by
    intro p hspells
    cases hpoint.symm.trans (Point.ofTerm?_eq_some_iff.mpr hspells)
    constructor
    · unfold Decimal.ReadsBack
      decide +kernel
    · unfold Decimal.ReadsBack
      decide +kernel
  obtain ⟨-, -, hsent, -, hcoord, -⟩ := ofTerm_readings looseTerm
  obtain ⟨sent, hsome, -, hsame⟩ := hsent (by decide)
  have hterm : (ofTerm looseTerm).term? = some "47.1,8.7" := by decide +kernel
  cases hterm.symm.trans hsome
  obtain ⟨-, -, -, -, -, hname⟩ := ofTerm_readings "nan,8.7"
  have htrim : trim "nan,8.7" = "nan,8.7" := by decide +kernel
  rw [htrim] at hname
  refine ⟨hback, (hcoord _).mpr (Point.ofTerm?_eq_some_iff.mp hpoint), hterm, hsame hback,
    hname "nan".toList "8.7".toList (by decide) (by decide) fun x y hx hy => .inl ?_⟩
  -- the text is read as a number, and that is not finite
  have hnan : Point.readHalf "nan".toList = some (Float.ofBits 0x7FF8000000000000) := by
    decide +kernel
  cases hnan.symm.trans hx
  decide

end Location

end Itinerary
