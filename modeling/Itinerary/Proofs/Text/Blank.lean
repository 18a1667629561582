import Itinerary.Proofs.Text.Run
import Itinerary.Text.Blank

/-!
# What trimming leaves

Trimming takes blanks from both ends of a text. Nothing is left of a text of blanks alone, and
something of every other one. A text without blanks at its ends is left as it is, and of blanks
around such a text nothing stays. As what is left has no blanks at its ends, there is nothing to be
trimmed a second time (`trim_trim`).
-/

namespace Itinerary.Text

/-! ### Blanks alone -/

theorem trimChars_eq_nil {cs : List Char} (h : ∀ c ∈ cs, isBlank c = true) :
    trimChars cs = [] := by
  rw [trimChars, trimStart_eq_nil h]
  rfl

theorem trim_of_isBlankText {s : String} (h : isBlankText s = true) : trim s = "" := by
  rw [trim, trimChars_eq_nil (List.all_eq_true.mp h), String.ofList_nil]

/-! ### More than blanks -/

/-- What is no blank is not trimmed off the start. -/
theorem mem_trimStart {cs : List Char} {c : Char} (h : c ∈ cs) (hc : isBlank c = false) :
    c ∈ trimStart cs := by
  rw [← List.takeWhile_append_dropWhile (p := isBlank) (l := cs)] at h
  rcases List.mem_append.mp h with htaken | hleft
  · have hblank := List.all_eq_true.mp List.all_takeWhile c htaken
    rw [hc] at hblank
    cases hblank
  · exact hleft

/-- Something is left of a text that is not blank. -/
theorem isBlankText_trim {s : String} (h : isBlankText s = false) :
    isBlankText (trim s) = false := by
  rw [isBlankText, List.all_eq_false] at h ⊢
  obtain ⟨c, hmem, hc⟩ := h
  have hblank : isBlank c = false := Bool.eq_false_iff.mpr hc
  refine ⟨c, ?_, hc⟩
  rw [toList_trim, trimChars, List.mem_reverse]
  exact mem_trimStart (List.mem_reverse.mpr (mem_trimStart hmem hblank)) hblank

/-- Nothing is left of a text exactly if it is blank. -/
theorem isEmpty_trim (s : String) : (trim s).isEmpty = isBlankText s := by
  cases h : isBlankText s with
  | true =>
    rw [trim_of_isBlankText h]
    decide
  | false =>
    rw [← Bool.not_eq_true, String.isEmpty_iff]
    intro hempty
    have hblank := isBlankText_trim h
    rw [hempty] at hblank
    exact absurd hblank (by decide)

/-! ### No blanks -/

theorem isBlank_of_isDigit {c : Char} (h : c.isDigit = true) : isBlank c = false := by
  rw [Char.isDigit_iff_toNat] at h
  obtain ⟨hlow, hhigh⟩ := h
  change 48 ≤ c.toNat at hlow
  change c.toNat ≤ 57 at hhigh
  simp only [isBlank, Bool.or_eq_false_iff, Bool.and_eq_false_iff, decide_eq_false_iff_not,
    beq_eq_false_iff_ne]
  omega

theorem trimStart_of_forall {cs : List Char} (h : ∀ c ∈ cs, isBlank c = false) :
    trimStart cs = cs := by
  cases cs with
  | nil => rfl
  | cons c rest => exact trimStart_cons_of_not_isBlank (h c List.mem_cons_self) rest

theorem trimChars_of_forall {cs : List Char} (h : ∀ c ∈ cs, isBlank c = false) :
    trimChars cs = cs := by
  rw [trimChars, trimStart_of_forall h,
    trimStart_of_forall fun c hc => h c (List.mem_reverse.mp hc), List.reverse_reverse]

theorem trim_of_forall {s : String} (h : ∀ c ∈ s.toList, isBlank c = false) : trim s = s := by
  rw [trim, trimChars_of_forall h, String.ofList_toList]

/-! ### Blanks around a text -/

theorem trimStart_append {before : List Char} (h : ∀ c ∈ before, isBlank c = true)
    (cs : List Char) : trimStart (before ++ cs) = trimStart cs :=
  List.dropWhile_append_of_pos h

/-- Blanks around characters that neither start nor end with one are all that is trimmed. -/
theorem trimChars_append_of_endsBefore {before cs after : List Char}
    (hbefore : ∀ c ∈ before, isBlank c = true) (hstart : EndsBefore isBlank cs)
    (hend : EndsBefore isBlank cs.reverse) (hafter : ∀ c ∈ after, isBlank c = true) :
    trimChars (before ++ cs ++ after) = cs := by
  have hback : trimStart (after.reverse ++ cs.reverse) = cs.reverse := by
    rw [trimStart_append fun c hc => hafter c (List.mem_reverse.mp hc)]
    exact dropWhile_of_endsBefore hend
  cases cs with
  | nil =>
    -- nothing but blanks
    rw [List.append_nil]
    refine trimChars_eq_nil fun c hc => ?_
    exact (List.mem_append.mp hc).elim (hbefore c) (hafter c)
  | cons c rest =>
    rw [trimChars, List.append_assoc, trimStart_append hbefore, List.cons_append,
      trimStart_cons_of_not_isBlank (hstart c rfl), ← List.cons_append, List.reverse_append, hback,
      List.reverse_reverse]

theorem trimChars_append {before cs after : List Char} (hbefore : ∀ c ∈ before, isBlank c = true)
    (hcs : ∀ c ∈ cs, isBlank c = false) (hafter : ∀ c ∈ after, isBlank c = true) :
    trimChars (before ++ cs ++ after) = cs :=
  trimChars_append_of_endsBefore hbefore (fun c hc => hcs c (List.mem_of_head? hc))
    (fun c hc => hcs c (List.mem_reverse.mp (List.mem_of_head? hc))) hafter

/-- Blanks around a text without blanks are all that is trimmed. -/
theorem trim_append {before s after : String} (hbefore : isBlankText before = true)
    (hs : ∀ c ∈ s.toList, isBlank c = false) (hafter : isBlankText after = true) :
    trim (before ++ s ++ after) = s := by
  rw [trim, String.toList_append, String.toList_append,
    trimChars_append (List.all_eq_true.mp hbefore) hs (List.all_eq_true.mp hafter),
    String.ofList_toList]

/-! ### Trimming twice -/

theorem endsBefore_trimStart (cs : List Char) : EndsBefore isBlank (trimStart cs) :=
  endsBefore_dropWhile isBlank cs

theorem endsBefore_reverse_trimChars (cs : List Char) :
    EndsBefore isBlank (trimChars cs).reverse := by
  rw [trimChars, List.reverse_reverse]
  exact endsBefore_trimStart _

/-- What is left starts as what was left of the start. -/
theorem endsBefore_trimChars (cs : List Char) : EndsBefore isBlank (trimChars cs) := by
  intro c hc
  have hprefix : trimChars cs <+: trimStart cs := by
    rw [trimChars, ← List.reverse_suffix, List.reverse_reverse]
    exact List.dropWhile_suffix isBlank
  obtain ⟨rest, hrest⟩ := hprefix
  refine endsBefore_trimStart cs c ?_
  rw [← hrest, List.head?_append, hc, Option.some_or]

/-- **What is trimmed stays as it is.** -/
theorem trimChars_trimChars (cs : List Char) : trimChars (trimChars cs) = trimChars cs := by
  have h := trimChars_append_of_endsBefore (fun c hc => absurd hc List.not_mem_nil)
    (endsBefore_trimChars cs) (endsBefore_reverse_trimChars cs)
    (fun c hc => absurd hc List.not_mem_nil)
  rwa [List.nil_append, List.append_nil] at h

@[simp] theorem trim_trim (s : String) : trim (trim s) = trim s := by
  rw [trim, toList_trim, trimChars_trimChars]
  rfl

end Itinerary.Text
