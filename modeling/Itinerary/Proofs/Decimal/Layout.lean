import Itinerary.Decimal.Layout
import Itinerary.Proofs.Decimal.Shortest
import Itinerary.Proofs.Decimal.Whole

/-!
# How the digits of a double are laid out

A double in stored form is written in digits only, with at least one in front of the point and with
no zero in front of other digits. The last part is where its zeros come in: digits that start with
zero are those of zero, which is laid out as `0.0`.

In display form a finite double is digits as well, with at most a point among them and a minus in
front (`mem_display`).
-/

namespace Itinerary.Decimal

/-- Whether digits may stand in front of a point: there is one, and no zero has others behind it. -/
structure IsWhole (digits : List Char) : Prop where
  ne_nil : digits ≠ []
  isDigit : ∀ c ∈ digits, c.isDigit = true
  /-- no zero stands in front of other digits -/
  zero : digits.head? = some '0' → digits.length = 1

/-- A number in decimal may stand in front of a point. -/
theorem isWhole_toDigits (n : Nat) : IsWhole (Nat.toDigits 10 n) where
  ne_nil := Nat.toDigits_ne_nil
  isDigit _ h := isDigit_of_mem_toDigits h
  zero h := by
    rw [eq_zero_of_head?_toDigits h, Nat.toDigits_zero]
    rfl

theorem isWhole_zero : IsWhole ['0'] := isWhole_toDigits 0

/-- Digits with a point among them, laid out as a number is written. -/
structure Laid.WellFormed (l : Laid) : Prop where
  /-- the digits in front of the point may stand there -/
  whole : IsWhole l.whole
  /-- there are only digits behind the point -/
  decimals : ∀ c ∈ l.decimals, c.isDigit = true

theorem isDigit_of_mem_replicate {count : Nat} {c : Char} (h : c ∈ List.replicate count '0') :
    c.isDigit = true := by
  rw [List.eq_of_mem_replicate h]
  decide

/-- A number other than zero is laid out well wherever its point is. -/
theorem wellFormed_positional {n : Nat} (hn : n ≠ 0) (point : Int) :
    (positional (Nat.toDigits 10 n) point).WellFormed := by
  have hdigit : ∀ c ∈ Nat.toDigits 10 n, c.isDigit = true := fun c => isDigit_of_mem_toDigits
  -- what starts like the digits does not start with a zero
  have hwhole : ∀ digits : List Char, (∀ c ∈ digits, c.isDigit = true) → ∀ d,
      digits.head? = some d → (Nat.toDigits 10 n).head? = some d → IsWhole digits := by
    intro digits hdigits d hhead hhead'
    refine ⟨?_, hdigits, fun hzero => ?_⟩
    · rintro rfl
      cases hhead
    · rw [hhead] at hzero
      exact absurd (eq_zero_of_head?_toDigits (hhead'.trans hzero)) hn
  obtain ⟨d, rest, hdigits⟩ := List.exists_cons_of_ne_nil (Nat.toDigits_ne_nil (n := n) (b := 10))
  rw [positional]
  by_cases hleft : point ≤ 0
  · -- all digits stand behind the point, and zero in front of it
    rw [if_pos hleft]
    refine ⟨isWhole_zero, fun c hc => ?_⟩
    rcases List.mem_append.mp hc with hc | hc
    · exact isDigit_of_mem_replicate hc
    · exact hdigit c hc
  · rw [if_neg hleft]
    by_cases hright : ((Nat.toDigits 10 n).length : Int) ≤ point
    · -- all digits stand in front of the point, with zeros up to it
      rw [if_pos hright]
      refine ⟨hwhole _ (fun c hc => ?_) d ?_ ?_, fun c hc => nomatch hc⟩
      · rcases List.mem_append.mp hc with hc | hc
        · exact hdigit c hc
        · exact isDigit_of_mem_replicate hc
      · rw [hdigits]
        rfl
      · rw [hdigits]
        rfl
    · -- the point stands among the digits, behind the first at least
      rw [if_neg hright]
      refine ⟨hwhole _ (fun c hc => hdigit c (List.mem_of_mem_take hc)) d ?_ ?_,
        fun c hc => hdigit c (List.mem_of_mem_drop hc)⟩
      · obtain ⟨k, hk⟩ := Nat.exists_eq_succ_of_ne_zero (show point.toNat ≠ 0 by omega)
        rw [hdigits, hk]
        rfl
      · rw [hdigits]
        rfl

/-- Any digits are laid out well with the point after the first. -/
theorem wellFormed_scientific {digits : List Char} (hne : digits ≠ [])
    (h : ∀ c ∈ digits, c.isDigit = true) (point : Int) : (scientific digits point).WellFormed := by
  obtain ⟨d, rest, rfl⟩ := List.exists_cons_of_ne_nil hne
  refine ⟨⟨List.cons_ne_nil _ _, fun c hc => ?_, fun _ => rfl⟩, fun c hc => ?_⟩
  · exact h c (List.mem_of_mem_take hc)
  · exact h c (List.mem_of_mem_drop hc)

/-- **A double in stored form is laid out well.** -/
theorem wellFormed_layStored (x : Float) : (layStored x).WellFormed := by
  rw [layStored]
  by_cases hzero : (shortest .even x).digits = 0
  · rw [shortest_of_digits_eq_zero hzero]
    refine ⟨isWhole_zero, fun c hc => ?_⟩
    obtain rfl := List.mem_singleton.mp hc
    decide
  · -- within its range the number is laid out by its point, beyond it with a power
    simp only
    split
    · have hlaid := wellFormed_positional hzero
        ((Nat.toDigits 10 (shortest .even x).digits).length + (shortest .even x).exponent)
      -- a double always shows that it is no integer
      split
      · refine ⟨hlaid.whole, fun c hc => ?_⟩
        obtain rfl := List.mem_singleton.mp hc
        decide
      · exact hlaid
    · exact wellFormed_scientific Nat.toDigits_ne_nil (fun c => isDigit_of_mem_toDigits) _

/-! ### Display form -/

theorem not_isNaN_of_isFinite {x : Float} (h : x.isFinite = true) : x.isNaN = false := by
  change x.toModel.unpack.isFinite = true at h
  change x.toModel.unpack.isNaN = false
  generalize x.toModel.unpack = x at *
  cases x with
  | notANumber => cases h
  | _ => rfl

theorem not_isInf_of_isFinite {x : Float} (h : x.isFinite = true) : x.isInf = false := by
  change x.toModel.unpack.isFinite = true at h
  change x.toModel.unpack.isInf = false
  generalize x.toModel.unpack = x at *
  cases x with
  | infinity s => cases h
  | _ => rfl

/-- Digits are laid out among digits, wherever their point is. -/
theorem isDigit_of_mem_positional {digits : List Char} (h : ∀ c ∈ digits, c.isDigit = true)
    {point : Int} {c : Char}
    (hc : c ∈ (positional digits point).whole ∨ c ∈ (positional digits point).decimals) :
    c.isDigit = true := by
  unfold positional at hc
  -- what is laid out in front of the digits or behind them is zeros
  split at hc
  · rcases hc with hc | hc
    · exact isWhole_zero.isDigit c hc
    · exact (List.mem_append.mp hc).elim isDigit_of_mem_replicate (h c)
  · split at hc
    · rcases hc with hc | hc
      · exact (List.mem_append.mp hc).elim (h c) isDigit_of_mem_replicate
      · cases hc
    · exact h c (hc.elim List.mem_of_mem_take List.mem_of_mem_drop)

/-- **A finite double in display form** is digits, with at most a point and a minus. -/
theorem mem_display {x : Float} (hx : x.isFinite = true) {c : Char}
    (hc : c ∈ (display x).toList) : c.isDigit = true ∨ c = '.' ∨ c = '-' := by
  have hdigits : ∀ c ∈ Nat.toDigits 10 (shortest .up x).digits, c.isDigit = true :=
    fun c => isDigit_of_mem_toDigits
  -- what is laid out is the digits of the shortest number and zeros
  have hlaid : ∀ c, c ∈ (layDisplay x).whole ∨ c ∈ (layDisplay x).decimals → c.isDigit = true :=
    fun c => isDigit_of_mem_positional hdigits
  have hmagnitude : c ∈ (if (layDisplay x).decimals.isEmpty then (layDisplay x).whole
      else (layDisplay x).whole ++ '.' :: (layDisplay x).decimals) →
      c.isDigit = true ∨ c = '.' ∨ c = '-' := by
    split
    · exact fun hc => .inl (hlaid c (.inl hc))
    · intro hc
      rcases List.mem_append.mp hc with hc | hc
      · exact .inl (hlaid c (.inl hc))
      · rcases List.mem_cons.mp hc with hpoint | hc
        · exact .inr (.inl hpoint)
        · exact .inl (hlaid c (.inr hc))
  simp only [display, not_isNaN_of_isFinite hx, not_isInf_of_isFinite hx, Bool.false_eq_true,
    if_false, String.toList_ofList] at hc
  -- a sign stands in front of the magnitude or does not
  split at hc
  · rcases List.mem_cons.mp hc with hminus | hc
    · exact .inr (.inr hminus)
    · exact hmagnitude hc
  · exact hmagnitude hc

end Itinerary.Decimal
