import Mathlib.Data.List.TakeDrop
import Mathlib.Data.List.TakeWhile

/-!
# Runs of characters of one kind

A scanner takes characters as long as they are of a kind. What it takes is a run that is followed by
something of another kind, or by nothing (`EndsBefore`).
-/

namespace Itinerary.Text

/-- Whether some characters do not start with one of a kind. -/
def EndsBefore (kind : Char → Bool) (cs : List Char) : Prop :=
  ∀ c, cs.head? = some c → kind c = false

theorem endsBefore_nil (kind : Char → Bool) : EndsBefore kind [] := fun _ h => nomatch h

theorem endsBefore_cons {kind : Char → Bool} {c : Char} (h : kind c = false) (cs : List Char) :
    EndsBefore kind (c :: cs) := fun _ hd => Option.some.inj hd ▸ h

/-- What starts with a run of other kinds does not start with one of the kind. -/
theorem endsBefore_append {kind : Char → Bool} {run : List Char} (hne : run ≠ [])
    (h : ∀ c ∈ run, kind c = false) (rest : List Char) : EndsBefore kind (run ++ rest) := by
  obtain ⟨c, run, rfl⟩ := List.exists_cons_of_ne_nil hne
  exact endsBefore_cons (h c List.mem_cons_self) _

/-- Behind a run something of another kind stands, or nothing. -/
theorem endsBefore_dropWhile (kind : Char → Bool) (cs : List Char) :
    EndsBefore kind (cs.dropWhile kind) := by
  intro c hc
  have hnot := List.head?_dropWhile_not kind cs
  rw [hc] at hnot
  exact hnot

theorem dropWhile_of_endsBefore {kind : Char → Bool} {cs : List Char} (h : EndsBefore kind cs) :
    cs.dropWhile kind = cs := by
  cases cs with
  | nil => rfl
  | cons c rest => rw [List.dropWhile_cons_of_neg (by rw [h c rfl]; decide)]

theorem takeWhile_of_endsBefore {kind : Char → Bool} {cs : List Char} (h : EndsBefore kind cs) :
    cs.takeWhile kind = [] := by
  cases cs with
  | nil => rfl
  | cons c rest => rw [List.takeWhile_cons_of_neg (by rw [h c rfl]; decide)]

theorem takeWhile_append {kind : Char → Bool} {run rest : List Char}
    (hrun : ∀ c ∈ run, kind c = true) (hrest : EndsBefore kind rest) :
    (run ++ rest).takeWhile kind = run := by
  rw [List.takeWhile_append_of_pos hrun, takeWhile_of_endsBefore hrest, List.append_nil]

theorem dropWhile_append {kind : Char → Bool} {run rest : List Char}
    (hrun : ∀ c ∈ run, kind c = true) (hrest : EndsBefore kind rest) :
    (run ++ rest).dropWhile kind = rest := by
  rw [List.dropWhile_append_of_pos hrun, dropWhile_of_endsBefore hrest]

/-! ### The first mark -/

/-- In front of a mark stands what has none. -/
theorem bne_of_not_mem {mark : Char} {cs : List Char} (h : mark ∉ cs) :
    ∀ c ∈ cs, (c != mark) = true := by
  intro c hc
  rw [bne_iff_ne]
  rintro rfl
  exact h hc

/-- **A text is cut at its first mark.** -/
theorem span_eq_iff {mark : Char} {cs front rest : List Char} :
    cs.span (· != mark) = (front, mark :: rest) ↔ mark ∉ front ∧ cs = front ++ mark :: rest := by
  rw [List.span_eq_takeWhile_dropWhile, Prod.mk.injEq]
  constructor
  · rintro ⟨hfront, hrest⟩
    refine ⟨fun hmem => ?_, by rw [← hfront, ← hrest, List.takeWhile_append_dropWhile]⟩
    rw [← hfront] at hmem
    have hne := List.mem_takeWhile_imp hmem
    exact bne_iff_ne.mp hne rfl
  · rintro ⟨hmark, rfl⟩
    have hend : EndsBefore (fun c => c != mark) (mark :: rest) :=
      endsBefore_cons (by rw [bne_self_eq_false]) _
    exact ⟨takeWhile_append (bne_of_not_mem hmark) hend,
      dropWhile_append (bne_of_not_mem hmark) hend⟩

theorem span_of_not_mem {mark : Char} {cs : List Char} (h : mark ∉ cs) :
    cs.span (· != mark) = (cs, []) := by
  have hall := bne_of_not_mem h
  rw [List.span_eq_takeWhile_dropWhile, List.takeWhile_eq_self_iff.mpr hall,
    List.dropWhile_eq_nil_iff.mpr hall]

end Itinerary.Text
