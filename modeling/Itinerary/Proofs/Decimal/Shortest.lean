import Itinerary.Decimal.Shortest

/-!
# Zero among the shortest decimals

Only a double without significant bits is written as zero. The reals that round to any other lie
on one side of zero, so zero is not among them, and no step of the search makes zero of a decimal
that is not. What is written as zero is therefore always the one decimal `⟨0, 0⟩`.
-/

namespace Itinerary.Decimal

/-- Zero does not read back as a number with significant bits. -/
theorem Binary.readsBack_zero {b : Binary} (h : b.mantissa ≠ 0) (exponent : Int) :
    b.readsBack ⟨0, exponent⟩ = false := by
  have hlow : 0 < if b.narrowBelow then 4 * b.mantissa - 1 else 4 * b.mantissa - 2 := by
    split <;> omega
  -- the lower end of the interval lies above zero, whatever the exponents are
  have hless : compareScaled 0 exponent
      (if b.narrowBelow then 4 * b.mantissa - 1 else 4 * b.mantissa - 2) (b.exponent - 2) =
        .lt := by
    rw [compareScaled, Nat.zero_mul, Nat.zero_mul, Nat.compare_eq_lt]
    exact Nat.mul_pos (Nat.mul_pos hlow (Nat.pow_pos (by decide))) (Nat.pow_pos (by decide))
  simp only [Binary.readsBack, hless]
  simp

/-- A decimal that is found on a grid is not zero. -/
theorem Binary.digits_ne_zero_of_onGrid? {b : Binary} (h : b.mantissa ≠ 0) {tie : Tie}
    {exponent : Int} {d : Scaled} (hd : b.onGrid? tie exponent = some d) : d.digits ≠ 0 := by
  intro hzero
  -- the upper neighbour is at least one, and the lower one is only taken if it reads back
  have hbelow : ∀ n : Nat, b.readsBack ⟨n, exponent⟩ = true → n ≠ 0 := by
    rintro n hback rfl
    rw [readsBack_zero h] at hback
    cases hback
  simp only [Binary.onGrid?] at hd
  -- both neighbours read back, one of them, or none
  split at hd
  · rename_i hback _
    have hne := hbelow _ hback
    split at hd
    · cases hd
      exact hne hzero
    · cases hd
      exact Nat.succ_ne_zero _ hzero
    · split at hd
      · cases hd
        exact Nat.succ_ne_zero _ hzero
      · split at hd
        · cases hd
          exact hne hzero
        · cases hd
          exact Nat.succ_ne_zero _ hzero
  · rename_i hback _
    cases hd
    exact hbelow _ hback hzero
  · cases hd
    exact Nat.succ_ne_zero _ hzero
  · cases hd

/-- The exact value of a number with significant bits is not zero. -/
theorem Binary.digits_exact_ne_zero {b : Binary} (h : b.mantissa ≠ 0) : b.exact.digits ≠ 0 := by
  rw [Binary.exact]
  split
  · exact Nat.mul_ne_zero h (Nat.pos_iff_ne_zero.mp (Nat.pow_pos (by decide)))
  · exact Nat.mul_ne_zero h (Nat.pos_iff_ne_zero.mp (Nat.pow_pos (by decide)))

/-- To move zeros makes no zero. -/
theorem Scaled.digits_strip_ne_zero {d : Scaled} (h : d.digits ≠ 0) : d.strip.digits ≠ 0 := by
  have hgo : ∀ (steps : Nat) (d : Scaled), d.digits ≠ 0 → (strip.go steps d).digits ≠ 0 := by
    intro steps
    induction steps with
    | zero => exact fun d h => h
    | succ steps ih =>
      intro d h
      rw [strip.go]
      split
      · -- a number other than zero that ten divides is ten at least
        rename_i hten
        have hmod : d.digits % 10 = 0 := by simpa using (Bool.and_eq_true_iff.mp hten).1
        exact ih _ (by show d.digits / 10 ≠ 0; omega)
      · exact h
  exact hgo _ d h

/-- **What is written as zero has no significant bits.** -/
theorem shortest_of_digits_eq_zero {tie : Tie} {x : Float} (h : (shortest tie x).digits = 0) :
    shortest tie x = ⟨0, 0⟩ := by
  by_cases hzero : (Binary.ofFloat x).mantissa = 0
  · simp only [shortest, if_pos hzero]
  · -- with significant bits neither the search nor the exact value gives zero
    exfalso
    revert h
    simp only [shortest, if_neg hzero]
    refine Scaled.digits_strip_ne_zero ?_
    cases hfound : (List.range 17).findSome? fun n =>
        (Binary.ofFloat x).onGrid? tie ((Binary.ofFloat x).magnitude - (n + 1 : Nat)) with
    | none => exact Binary.digits_exact_ne_zero hzero
    | some d =>
      obtain ⟨n, -, hn⟩ := List.exists_of_findSome?_eq_some hfound
      exact Binary.digits_ne_zero_of_onGrid? hzero hn

end Itinerary.Decimal
