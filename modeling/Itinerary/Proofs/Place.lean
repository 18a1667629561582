import Itinerary.Place
import Itinerary.Proofs.Text.Blank
import Itinerary.Proofs.Text.Run

/-!
# Places and their terms

A coordinate within its ranges is a pair of proper numbers. A term that spells one is sent as these
two numbers, and every other term as it is, blanks around it aside
(`Location.term?_ofTerm_eq_some_iff`): whether it is an id or a name on the way makes no difference.
A blank term means a place that no term names.
-/

namespace Itinerary

open Text

/-! ### Ranges of coordinates -/

/-- A number between two finite ones is finite. -/
theorem isFinite_of_le_of_le {a b c : Float} (ha : a.isFinite = true)
    (hc : c.isFinite = true) (hab : Float.le a b = true) (hbc : Float.le b c = true) :
    b.isFinite = true := by
  change a.toModel.unpack.isFinite = true at ha
  change c.toModel.unpack.isFinite = true at hc
  have hab : a.toModel.unpack.le b.toModel.unpack = true := of_decide_eq_true hab
  have hbc : b.toModel.unpack.le c.toModel.unpack = true := of_decide_eq_true hbc
  change b.toModel.unpack.isFinite = true
  -- what a double is decides each comparison: a number, zero, infinite or no number
  generalize a.toModel.unpack = a at *
  generalize b.toModel.unpack = b at *
  generalize c.toModel.unpack = c at *
  cases b with
  | zero s => rfl
  | finite s m e h => rfl
  | notANumber => cases c <;> cases hbc
  | infinity s =>
    cases s with
    | positive =>
      -- only infinity is not below positive infinity
      cases c with
      | finite s m e h => cases hbc
      | zero s => cases hbc
      | notANumber => cases hc
      | infinity s => cases hc
    | negative =>
      -- only negative infinity is not above itself
      cases a with
      | finite s m e h => cases s <;> cases hab
      | zero s => cases hab
      | notANumber => cases ha
      | infinity s => cases ha

/-- A latitude and a longitude in their ranges are finite. -/
theorem Point.isFinite_of_inRange {lat lon : Float} (h : Point.inRange lat lon = true) :
    lat.isFinite = true ∧ lon.isFinite = true := by
  rw [Point.inRange, Bool.and_eq_true, Bool.and_eq_true, Bool.and_eq_true] at h
  obtain ⟨⟨⟨hlat, hlat'⟩, hlon⟩, hlon'⟩ := h
  exact ⟨isFinite_of_le_of_le (by decide) (by decide) hlat hlat',
    isFinite_of_le_of_le (by decide) (by decide) hlon hlon'⟩

/-- Whether characters are a coordinate: two numbers in their ranges, with blanks around each or
none, and a comma between them. -/
inductive Point.Spells : List Char → Point → Prop
  | intro {lat lon : List Char} {p : Point} (hcomma : ',' ∉ lat) (hlat : readHalf lat = some p.lat)
    (hlon : readHalf lon = some p.lon) (hrange : inRange p.lat p.lon = true) :
    Spells (lat ++ ',' :: lon) p

/-- The first comma is the one that separates. -/
theorem Point.ofTerm?_append {lat : List Char} (hcomma : ',' ∉ lat) (lon : List Char) :
    ofTerm? (lat ++ ',' :: lon) =
      match readHalf lat, readHalf lon with
      | some lat, some lon => if inRange lat lon then some ⟨lat, lon⟩ else none
      | _, _ => none := by
  rw [ofTerm?, span_eq_iff.mpr ⟨hcomma, rfl⟩]
  rfl

theorem Point.ofTerm?_eq_some_iff {cs : List Char} {p : Point} :
    ofTerm? cs = some p ↔ Spells cs p := by
  constructor
  · intro h
    rw [ofTerm?] at h
    split at h
    · rename_i lat lon hspan
      -- the term is cut at its first comma, so its first half has none
      obtain ⟨hcomma, hcs⟩ := span_eq_iff.mp hspan
      split at h
      · rename_i x y hlat hlon
        rw [Option.ite_none_right_eq_some] at h
        obtain ⟨hrange, ⟨⟩⟩ := h
        rw [hcs]
        exact .intro hcomma hlat hlon hrange
      · cases h
    · cases h
  · intro h
    obtain @⟨lat, lon, p, hcomma, hlat, hlon, hrange⟩ := h
    rw [ofTerm?_append hcomma]
    simp only [hlat, hlon, hrange, if_true]

namespace Location

/-! ### Terms that mean no place -/

theorem term?_ofTerm_of_isBlankText {term : String} (h : isBlankText term = true) :
    (ofTerm term).term? = none := by
  rw [ofTerm, trim_of_isBlankText h]
  decide

/-! ### Terms that are sent -/

/-- Whether a text is what a term is sent as: the two numbers of a coordinate, or the term itself,
without the blanks around it. -/
inductive SentAs (term : String) : String → Prop
  | coordinate {p : Point} (h : Point.Spells (trim term).toList p) : SentAs term p.display
  | text (h : ∀ p, ¬ Point.Spells (trim term).toList p) : SentAs term (trim term)

theorem comma_notMem_of_isDigits {cs : List Char} (h : Decimal.isDigits cs = true) : ',' ∉ cs := by
  intro hcomma
  rw [Decimal.isDigits, Bool.and_eq_true, List.all_eq_true] at h
  exact absurd (h.2 ',' hcomma) (by decide)

/-- Digits are no coordinate, since there is no comma among them. -/
theorem not_spells_of_isDigits {cs : List Char} (h : Decimal.isDigits cs = true) (p : Point) :
    ¬ Point.Spells cs p := by
  rintro ⟨-, -, -, -⟩
  exact comma_notMem_of_isDigits h (List.mem_append_right _ List.mem_cons_self)

/-- **What a term is sent as**, if it is not blank. -/
theorem term?_ofTerm_eq_some_iff {term sent : String} (h : isBlankText term = false) :
    (ofTerm term).term? = some sent ↔ SentAs term sent := by
  rw [ofTerm]
  by_cases hdigits : Decimal.isDigits (trim term).toList = true
  · -- an id is the term itself
    have hnone := not_spells_of_isDigits hdigits
    simp only [if_pos hdigits]
    constructor
    · rintro ⟨⟩
      exact .text hnone
    · rintro (hspells | -)
      · exact absurd hspells (hnone _)
      · rfl
  · simp only [if_neg hdigits]
    cases hpoint : Point.ofTerm? (trim term).toList with
    | some p =>
      -- a coordinate is sent as such, even if it was spelled in another way
      have hspells := Point.ofTerm?_eq_some_iff.mp hpoint
      constructor
      · rintro ⟨⟩
        exact .coordinate hspells
      · rintro (hspells' | hnone)
        · -- a term spells one coordinate only
          cases hpoint.symm.trans (Point.ofTerm?_eq_some_iff.mpr hspells')
          rfl
        · exact absurd hspells (hnone p)
    | none =>
      have hnone : ∀ p, ¬ Point.Spells (trim term).toList p := fun p hspells =>
        nomatch hpoint.symm.trans (Point.ofTerm?_eq_some_iff.mpr hspells)
      -- what is neither is a name, which is sent as it is
      have hname : (named (trim term)).term? = some (trim term) := by
        simp [term?, named, isBlankText_trim h]
      constructor
      · intro hterm
        cases hname.symm.trans hterm
        exact .text hnone
      · rintro (hspells | -)
        · exact absurd hspells (hnone _)
        · exact hname

theorem exists_sentAs (term : String) : ∃ sent, SentAs term sent := by
  by_cases h : ∃ p, Point.Spells (trim term).toList p
  · obtain ⟨p, hp⟩ := h
    exact ⟨p.display, .coordinate hp⟩
  · exact ⟨trim term, .text (not_exists.mp h)⟩

end Location

end Itinerary
