import Mathlib.Data.List.Induction
import Mathlib.Data.Nat.Digits.Defs
import Itinerary.Proofs.Steps
import Itinerary.Proofs.Text.Blank
import Itinerary.Text.Hex

/-!
# Hexadecimal numbers that are read back

Every digit of a number has a value, and the values make up the number, with or without zeros in
front (`exists_values_padded`). A number that is not too great for its width fills it, so a reader
that counts on a width finds all of it there.
-/

namespace Itinerary.Text.Hex

-- powers are those of the core library, whatever else is imported
attribute [local instance (high)] instPowNat

/-! ### Digits -/

theorem value?_digitChar {d : Nat} (h : d < 16) : value? (Nat.digitChar d) = some d := by
  have all : ∀ k : Fin 16, value? (Nat.digitChar k.val) = some k.val := by decide
  exact all ⟨d, h⟩

/-- Digits are three stretches of characters. -/
theorem toNat_of_value? {c : Char} {d : Nat} (h : value? c = some d) :
    (48 ≤ c.toNat ∧ c.toNat ≤ 57) ∨ (97 ≤ c.toNat ∧ c.toNat ≤ 102) ∨
      (65 ≤ c.toNat ∧ c.toNat ≤ 70) := by
  simp only [value?, Bool.and_eq_true, decide_eq_true_eq, Char.le_def,
    UInt32.le_iff_toNat_le] at h
  change (if 48 ≤ c.toNat ∧ c.toNat ≤ 57 then _ else if 97 ≤ c.toNat ∧ c.toNat ≤ 102 then _
    else if 65 ≤ c.toNat ∧ c.toNat ≤ 70 then _ else _) = _ at h
  split at h
  case isTrue hdigit => exact .inl hdigit
  split at h
  case isTrue hlower => exact .inr (.inl hlower)
  split at h
  case isTrue hupper => exact .inr (.inr hupper)
  cases h

theorem isBlank_of_value? {c : Char} {d : Nat} (h : value? c = some d) : isBlank c = false := by
  have hrange := toNat_of_value? h
  simp only [isBlank, Bool.or_eq_false_iff, Bool.and_eq_false_iff, decide_eq_false_iff_not,
    beq_eq_false_iff_ne]
  omega

/-- Whether a character is the digit of a value, in lower or in upper case. -/
def IsDigitOf (c : Char) (d : Nat) : Prop :=
  d < 16 ∧ (c = Nat.digitChar d ∨ c = (Nat.digitChar d).toUpper)

instance (c : Char) (d : Nat) : Decidable (IsDigitOf c d) := inferInstanceAs (Decidable (_ ∧ _))

/-- Whether a character is a digit. -/
def IsDigit (c : Char) : Prop := ∃ d, IsDigitOf c d

/-- **A digit is read as its value**, and nothing else is read. -/
theorem value?_eq_some_iff {c : Char} {d : Nat} : value? c = some d ↔ IsDigitOf c d := by
  constructor
  · intro h
    -- the digits are ASCII, of which each is tried
    have all : ∀ k : Fin 128, ∀ v ∈ value? (Char.ofNat k.val), IsDigitOf (Char.ofNat k.val) v := by
      decide
    have hascii : c.toNat < 128 := by
      have hrange := toNat_of_value? h
      omega
    have hc := all ⟨c.toNat, hascii⟩
    rw [Char.ofNat_toNat] at hc
    exact hc d h
  · rintro ⟨hd, rfl | rfl⟩
    · exact value?_digitChar hd
    · have all : ∀ k : Fin 16, value? (Nat.digitChar k.val).toUpper = some k.val := by decide
      exact all ⟨d, hd⟩

/-! ### Numbers -/

theorem number_concat (values : List Nat) (d : Nat) :
    number (values ++ [d]) = number values * 16 + d := by
  rw [number, number, List.foldl_append]
  rfl

/-- Whether some characters are the digits of a number, the last of which counts ones, the one in
front of it sixteens, and so on. -/
def Spells (cs : List Char) (n : Nat) : Prop :=
  ∃ values, List.Forall₂ IsDigitOf cs values ∧ n = Nat.ofDigits 16 values.reverse

/-- What is made up digit by digit is the number to the base of sixteen. -/
theorem number_eq_ofDigits (values : List Nat) :
    number values = Nat.ofDigits 16 values.reverse := by
  induction values using List.reverseRecOn with
  | nil => rfl
  | append_singleton values d ih =>
    rw [number_concat, ih, List.reverse_append, List.reverse_singleton, List.singleton_append,
      Nat.ofDigits_cons]
    omega

/-- Digits are what values can be read of. -/
theorem forall_isDigit_iff {cs : List Char} :
    (∀ c ∈ cs, IsDigit c) ↔ ∃ values, cs.mapM value? = some values := by
  simp only [mapM_eq_some_iff]
  constructor
  · intro h
    induction cs with
    | nil => exact ⟨[], .nil⟩
    | cons c rest ih =>
      obtain ⟨⟨d, hd⟩, hrest⟩ := List.forall_mem_cons.mp h
      obtain ⟨values, hvalues⟩ := ih hrest
      exact ⟨d :: values, .cons (value?_eq_some_iff.mpr hd) hvalues⟩
  · rintro ⟨values, hvalues⟩ c hc
    obtain ⟨d, -, hd⟩ := exists_mem_of_forall₂ hvalues hc
    exact ⟨d, value?_eq_some_iff.mp hd⟩

theorem spells_iff {cs : List Char} {n : Nat} :
    Spells cs n ↔ ∃ values, cs.mapM value? = some values ∧ number values = n := by
  have hread : ∀ values, cs.mapM value? = some values ↔ List.Forall₂ IsDigitOf cs values := by
    intro values
    rw [mapM_eq_some_iff]
    exact ⟨fun h => h.imp fun _ _ => value?_eq_some_iff.mp,
      fun h => h.imp fun _ _ => value?_eq_some_iff.mpr⟩
  refine exists_congr fun values => ?_
  rw [hread, number_eq_ofDigits, eq_comm (a := n)]

/-- Zeros in front do not change the number. -/
theorem number_replicate_append (k : Nat) (values : List Nat) :
    number (List.replicate k 0 ++ values) = number values := by
  induction k with
  | zero => rfl
  | succ k ih =>
    rw [List.replicate_succ, List.cons_append]
    exact ih

/-- **The digits of a number have the number as their value.** -/
theorem exists_values_toDigits (n : Nat) :
    ∃ values, (Nat.toDigits 16 n).mapM value? = some values ∧ number values = n := by
  induction n using Nat.strongRecOn with
  | ind n ih =>
    by_cases hn : n < 16
    · -- a single digit is the number itself
      refine ⟨[n], ?_, Nat.zero_add n⟩
      rw [Nat.toDigits_of_lt_base hn, mapM_eq_some_iff]
      exact .cons (value?_digitChar hn) .nil
    · -- the last digit comes behind those of the number without it
      obtain ⟨values, hvalues, hnumber⟩ := ih (n / 16) (by omega)
      refine ⟨values ++ [n % 16], ?_, ?_⟩
      · rw [Nat.toDigits_of_base_le (by decide) (by omega), mapM_eq_some_iff]
        exact List.rel_append (mapM_eq_some_iff.mp hvalues)
          (.cons (value?_digitChar (Nat.mod_lt n (by decide))) .nil)
      · rw [number_concat, hnumber]
        omega

/-- **A padded number is read back.** -/
theorem exists_values_padded (width n : Nat) :
    ∃ values, (padded width n).mapM value? = some values ∧ number values = n := by
  obtain ⟨values, hvalues, hnumber⟩ := exists_values_toDigits n
  have hzeros : ∀ k, List.Forall₂ (fun c d => value? c = some d) (List.replicate k '0')
      (List.replicate k 0) := by
    intro k
    induction k with
    | zero => exact .nil
    | succ k ih => exact .cons (by decide) ih
  refine ⟨List.replicate (width - (Nat.toDigits 16 n).length) 0 ++ values, ?_,
    by rw [number_replicate_append, hnumber]⟩
  rw [padded, mapM_eq_some_iff]
  exact List.rel_append (hzeros _) (mapM_eq_some_iff.mp hvalues)

theorem length_padded {width n : Nat} (hwidth : 0 < width) (h : n < 16 ^ width) :
    (padded width n).length = width := by
  have hlength := (Nat.length_toDigits_le_iff (n := n) (by decide : 1 < 16) hwidth).mpr h
  rw [padded, List.length_append, List.length_replicate]
  omega

end Itinerary.Text.Hex
