import Itinerary.Decimal.Whole

/-!
# Whole numbers that are read back

A number is written in digits alone, as many as it needs and at least one, and only zero starts
with the digit zero. The value of the digits is the number, with or without zeros in front.

An integer may have a sign in front of its digits (`Spells`). It is read if it fits in 64 bits
(`readInt_eq_some_iff`), and so what is written for one that fits is read back.
-/

namespace Itinerary.Decimal

-- powers are those of the core library, whatever else is imported
attribute [local instance (high)] instPowNat

/-! ### Numbers as they are -/

@[simp] theorem value_toDigits (n : Nat) : value (Nat.toDigits 10 n) = n :=
  Nat.ofDigitChars_ten_toDigits

theorem isDigit_of_mem_toDigits {n : Nat} {c : Char} (h : c ∈ Nat.toDigits 10 n) :
    c.isDigit = true :=
  Nat.isDigit_of_mem_toDigits (by decide) (by decide) h

/-- Only zero starts with the digit zero. -/
theorem eq_zero_of_head?_toDigits {n : Nat} (h : (Nat.toDigits 10 n).head? = some '0') : n = 0 := by
  induction n using Nat.strongRecOn with
  | ind n ih =>
    by_cases hn : n < 10
    · -- a single digit is its own first one
      rw [Nat.toDigits_of_lt_base hn] at h
      exact Nat.digitChar_eq_zero.mp (Option.some.inj h)
    · -- the first digit is that of the number without its last one
      rw [Nat.toDigits_of_base_le (by decide) (by omega), List.head?_append] at h
      have hhead : (Nat.toDigits 10 (n / 10)).head? = some '0' := by
        cases hdigits : Nat.toDigits 10 (n / 10) with
        | nil => exact absurd hdigits Nat.toDigits_ne_nil
        | cons d ds => rwa [hdigits] at h
      have hzero := ih (n / 10) (by omega) hhead
      omega

/-! ### Numbers with zeros in front -/

@[simp] theorem value_padded (width n : Nat) : value (padded width n) = n := by
  rw [padded, value, Nat.ofDigitChars_append, Nat.ofDigitChars_replicate_zero, Nat.mul_zero]
  exact Nat.ofDigitChars_ten_toDigits

theorem isDigit_of_mem_padded {width n : Nat} {c : Char} (h : c ∈ padded width n) :
    c.isDigit = true := by
  rcases List.mem_append.mp h with h | h
  · rw [List.eq_of_mem_replicate h]
    decide
  · exact isDigit_of_mem_toDigits h

theorem padded_ne_nil (width n : Nat) : padded width n ≠ [] :=
  List.append_ne_nil_of_right_ne_nil _ Nat.toDigits_ne_nil

/-- A number that is not too great for its width fills it. -/
theorem length_padded {width n : Nat} (hwidth : 0 < width) (h : n < 10 ^ width) :
    (padded width n).length = width := by
  -- the digits alone are no longer than the width, and zeros make up what is missing
  have hlength := (Nat.length_toDigits_le_iff (n := n) (by decide : 1 < 10) hwidth).mpr h
  rw [padded, List.length_append, List.length_replicate]
  omega

/-! ### Integers -/

theorem fit64_eq_some_iff {n m : Int} : fit64 n = some m ↔ n = m ∧ minInt64 ≤ m ∧ m ≤ maxInt64 := by
  rw [fit64, Option.ite_none_right_eq_some, Option.some_inj]
  constructor
  · rintro ⟨hbounds, rfl⟩
    exact ⟨rfl, hbounds⟩
  · rintro ⟨rfl, hbounds⟩
    exact ⟨hbounds, rfl⟩

/-- Whether a text is one or more digits, with or without a sign, of a given value. -/
inductive Spells : List Char → Int → Prop
  | bare {digits : List Char} (h : isDigits digits = true) : Spells digits (value digits)
  | plus {digits : List Char} (h : isDigits digits = true) : Spells ('+' :: digits) (value digits)
  | minus {digits : List Char} (h : isDigits digits = true) :
    Spells ('-' :: digits) (-(value digits : Int))

theorem isDigit_of_isDigits_cons {c : Char} {cs : List Char} (h : isDigits (c :: cs) = true) :
    c.isDigit = true := by
  rw [isDigits, Bool.and_eq_true, List.all_cons, Bool.and_eq_true] at h
  exact h.2.1

/-- Digits without a sign are read as their value. -/
theorem readInt_of_isDigits {digits : List Char} (h : isDigits digits = true) :
    readInt digits = fit64 (value digits) := by
  rw [readInt.eq_def]
  split
  · exact absurd (isDigit_of_isDigits_cons h) (by decide)
  · exact absurd (isDigit_of_isDigits_cons h) (by decide)
  · rw [if_pos h]

/-- **What is read as an integer** is what spells one that fits. -/
theorem readInt_eq_some_iff {cs : List Char} {n : Int} :
    readInt cs = some n ↔ Spells cs n ∧ minInt64 ≤ n ∧ n ≤ maxInt64 := by
  constructor
  · intro h
    rw [readInt.eq_def] at h
    -- by the sign in front: a minus, a plus, or none
    split at h <;> rw [Option.ite_none_right_eq_some, fit64_eq_some_iff] at h <;>
      obtain ⟨hdigits, rfl, hbounds⟩ := h
    · exact ⟨.minus hdigits, hbounds⟩
    · exact ⟨.plus hdigits, hbounds⟩
    · exact ⟨.bare hdigits, hbounds⟩
  · rintro ⟨hspells, hbounds⟩
    have hfit : fit64 n = some n := fit64_eq_some_iff.mpr ⟨rfl, hbounds⟩
    cases hspells with
    | bare h => rw [readInt_of_isDigits h, hfit]
    | plus h => rw [readInt, if_pos h, hfit]
    | minus h => rw [readInt, if_pos h, hfit]

theorem readInt_eq_none_iff {cs : List Char} :
    readInt cs = none ↔ ∀ n, Spells cs n → ¬ (minInt64 ≤ n ∧ n ≤ maxInt64) := by
  rw [Option.eq_none_iff_forall_ne_some]
  refine forall_congr' fun n => ?_
  rw [Ne, readInt_eq_some_iff, not_and]

theorem isDigits_toDigits (n : Nat) : isDigits (Nat.toDigits 10 n) = true := by
  rw [isDigits, Bool.and_eq_true, Bool.not_eq_true', List.isEmpty_eq_false_iff, List.all_eq_true]
  exact ⟨Nat.toDigits_ne_nil, fun c hc => isDigit_of_mem_toDigits hc⟩

theorem spells_intText (n : Int) : Spells (intText n) n := by
  cases n with
  | ofNat n =>
    have h := Spells.bare (isDigits_toDigits n)
    rwa [value_toDigits] at h
  | negSucc n =>
    have h := Spells.minus (isDigits_toDigits (n + 1))
    rwa [value_toDigits] at h

theorem spells_plus_intText {n : Int} (h : 0 ≤ n) : Spells ('+' :: intText n) n := by
  obtain ⟨k, rfl⟩ := Int.eq_ofNat_of_zero_le h
  have hspells := Spells.plus (isDigits_toDigits k)
  rwa [value_toDigits] at hspells

theorem readInt_intText {n : Int} (h : fit64 n = some n) : readInt (intText n) = some n :=
  readInt_eq_some_iff.mpr ⟨spells_intText n, (fit64_eq_some_iff.mp h).2⟩

end Itinerary.Decimal
