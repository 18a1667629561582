/-!
# Parts between separators

`splitOn` cuts a list at every occurrence of a separator, so there is one part more than there
are separators and joining the parts gives the list back.
-/

namespace Itinerary.Text

variable {α : Type} [DecidableEq α]

/-- The parts between separators; without a separator the whole list is one part. -/
def splitOn (separator : α) : List α → List (List α)
  | [] => [[]]
  | a :: rest =>
    if a = separator then [] :: splitOn separator rest
    else
      match splitOn separator rest with
      | [] => [[a]]
      | part :: parts => (a :: part) :: parts

/-- There is always a part. -/
theorem splitOn_ne_nil (separator : α) (as : List α) : splitOn separator as ≠ [] := by
  cases as with
  | nil => simp [splitOn]
  | cons a rest =>
    simp only [splitOn]
    split
    · simp
    · split <;> simp

/-- A list without the separator is one part. -/
theorem splitOn_eq_singleton {separator : α} {as : List α} (h : separator ∉ as) :
    splitOn separator as = [as] := by
  induction as with
  | nil => rfl
  | cons a rest ih =>
    simp only [List.mem_cons, not_or] at h
    simp [splitOn, Ne.symm h.1, ih h.2]

/-- The first separator ends the first part. -/
theorem splitOn_append_cons {separator : α} {as : List α} (h : separator ∉ as) (bs : List α) :
    splitOn separator (as ++ separator :: bs) = as :: splitOn separator bs := by
  induction as with
  | nil => simp [splitOn]
  | cons a rest ih =>
    simp only [List.mem_cons, not_or] at h
    simp [splitOn, Ne.symm h.1, ih h.2]

/-- A separator keeps the parts before it apart from those behind. -/
theorem splitOn_append_separator (separator : α) (as bs : List α) :
    splitOn separator (as ++ separator :: bs) = splitOn separator as ++ splitOn separator bs := by
  induction as with
  | nil => simp [splitOn]
  | cons a rest ih =>
    by_cases h : a = separator
    · rw [List.cons_append, splitOn, if_pos h, splitOn, if_pos h, ih, List.cons_append]
    · rw [List.cons_append, splitOn, if_neg h, splitOn, if_neg h, ih]
      -- there is a first part of the rest, and `a` goes in front of it on either side
      cases hparts : splitOn separator rest with
      | nil => exact absurd hparts (splitOn_ne_nil separator rest)
      | cons part parts => rfl

end Itinerary.Text
