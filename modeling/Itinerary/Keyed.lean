/-!
# Collections sorted by key

A keyed collection holds at most one thing per key and lists its keys in ascending order, which
for texts is the order of their code points and of their bytes alike. Inserting under a key that
is present replaces what is there.
-/

namespace Itinerary

/-- The entries with a thing inserted at its place, or replaced. -/
def insertSorted {α : Type} (key : String) (a : α) : List (String × α) → List (String × α)
  | [] => [(key, a)]
  | (k, b) :: rest =>
    if key < k then (key, a) :: (k, b) :: rest
    else if key = k then (key, a) :: rest
    else (k, b) :: insertSorted key a rest

theorem mem_insertSorted {α : Type} {key : String} {a : α} {entries : List (String × α)}
    {e : String × α} (h : e ∈ insertSorted key a entries) : e = (key, a) ∨ e ∈ entries := by
  induction entries with
  | nil => exact Or.inl (by simpa [insertSorted] using h)
  | cons x rest ih =>
    obtain ⟨k, b⟩ := x
    simp only [insertSorted] at h
    split at h
    · simpa using h
    · split at h
      · rcases List.mem_cons.mp h with h | h
        · exact Or.inl h
        · exact Or.inr (List.mem_cons_of_mem _ h)
      · rcases List.mem_cons.mp h with h | h
        · exact Or.inr (List.mem_cons.mpr (Or.inl h))
        · rcases ih h with h | h
          · exact Or.inl h
          · exact Or.inr (List.mem_cons_of_mem _ h)

/-- Of two keys that are in neither order nor equal there are none. -/
theorem lt_of_not_lt_of_ne {a b : String} (h : ¬a < b) (h' : a ≠ b) : b < a := by
  refine Classical.byContradiction fun hn => h' ?_
  exact String.le_antisymm (String.not_lt.mp hn) (String.not_lt.mp h)

theorem pairwise_insertSorted {α : Type} (key : String) (a : α) {entries : List (String × α)}
    (h : entries.Pairwise fun x y => x.1 < y.1) :
    (insertSorted key a entries).Pairwise fun x y => x.1 < y.1 := by
  induction entries with
  | nil => simp [insertSorted]
  | cons x rest ih =>
    obtain ⟨k, b⟩ := x
    obtain ⟨hk, hrest⟩ := List.pairwise_cons.mp h
    simp only [insertSorted]
    split
    · rename_i hlt
      refine List.pairwise_cons.mpr ⟨fun y hy => ?_, h⟩
      rcases List.mem_cons.mp hy with rfl | hy
      · exact hlt
      · exact String.lt_trans hlt (hk y hy)
    · rename_i hlt
      split
      · rename_i heq
        subst heq
        exact List.pairwise_cons.mpr ⟨hk, hrest⟩
      · rename_i hne
        refine List.pairwise_cons.mpr ⟨fun y hy => ?_, ih hrest⟩
        rcases mem_insertSorted hy with rfl | hy
        · exact lt_of_not_lt_of_ne hlt hne
        · exact hk y hy

/-- Things by key, in ascending order of the keys. -/
structure Keyed (α : Type) where
  entries : List (String × α)
  /-- the keys ascend -/
  ascending : entries.Pairwise fun x y => x.1 < y.1

namespace Keyed

variable {α : Type}

/-- The collection of nothing. -/
def empty : Keyed α := ⟨[], .nil⟩

/-- The collection with a thing under a key, whatever was there before. -/
def insert (m : Keyed α) (key : String) (a : α) : Keyed α :=
  ⟨insertSorted key a m.entries, pairwise_insertSorted key a m.ascending⟩

/-- What is under a key. -/
def find? (m : Keyed α) (key : String) : Option α := m.entries.lookup key

/-- The keys in ascending order. -/
def keys (m : Keyed α) : List String := m.entries.map Prod.fst

/-- Whether there is nothing in the collection. -/
def isEmpty (m : Keyed α) : Bool := m.entries.isEmpty

/-- The entries of a list inserted one after the other, so that of a repeated key the last one
stays. -/
def ofList (entries : List (String × α)) : Keyed α :=
  entries.foldl (fun m e => m.insert e.1 e.2) empty

end Keyed

end Itinerary
