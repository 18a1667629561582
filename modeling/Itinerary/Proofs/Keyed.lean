import Mathlib.Data.List.Induction
import Mathlib.Data.List.Nodup
import Mathlib.Data.List.Perm.Basic
import Itinerary.Keyed

/-!
# The order of entries

In a list without repeated keys it does not matter in which order the entries stand: looking a key
up finds the one entry it has (`lookup_eq_some_iff_mem`), and a keyed collection of the entries is
the same, since it lists them in the order of their keys (`Keyed.ofList_eq_of_perm`). Where a key is
repeated the order does matter, and the last entry is the one that stays (`Keyed.find?_ofList`).
-/

namespace Itinerary

variable {α : Type}

theorem mem_of_lookup {entries : List (String × α)} {key : String} {a : α}
    (h : entries.lookup key = some a) : (key, a) ∈ entries := by
  obtain ⟨before, behind, rfl, -⟩ := List.lookup_eq_some_iff.mp h
  exact List.mem_append_right _ List.mem_cons_self

/-- **Looking a key up finds its entry**, if no key stands twice. -/
theorem lookup_eq_some_iff_mem {entries : List (String × α)} (h : (entries.map Prod.fst).Nodup)
    {key : String} {a : α} : entries.lookup key = some a ↔ (key, a) ∈ entries := by
  refine ⟨mem_of_lookup, fun hmem => ?_⟩
  obtain ⟨before, behind, rfl⟩ := List.append_of_mem hmem
  refine List.lookup_eq_some_iff.mpr ⟨before, behind, rfl, fun e he => bne_iff_ne.mpr fun heq => ?_⟩
  -- an entry before it with the same key would repeat the key
  rw [List.map_append, List.map_cons, List.nodup_append] at h
  exact h.2.2 e.1 (List.mem_map_of_mem he) key List.mem_cons_self heq.symm

/-- Something is found under the keys of the entries, and under no others. -/
theorem lookup_ne_none_iff {entries : List (String × α)} {key : String} :
    entries.lookup key ≠ none ↔ key ∈ entries.map Prod.fst := by
  rw [Ne, List.lookup_eq_none_iff, List.mem_map]
  constructor
  · intro h
    by_contra hmem
    refine h fun e he => bne_iff_ne.mpr ?_
    rintro rfl
    exact hmem ⟨e, he, rfl⟩
  · rintro ⟨e, he, rfl⟩ h
    exact bne_iff_ne.mp (h e he) rfl

/-! ### Keyed collections -/

/-- What is inserted is found under its key, and nothing else is touched. -/
theorem lookup_insertSorted (key : String) (a : α) (entries : List (String × α)) (k : String) :
    (insertSorted key a entries).lookup k = if k = key then some a else entries.lookup k := by
  induction entries with
  | nil =>
    unfold insertSorted
    rw [List.lookup_cons]
    by_cases hk : k = key
    · rw [if_pos hk, beq_iff_eq.mpr hk]
    · rw [if_neg hk, beq_eq_false_iff_ne.mpr hk]
  | cons e rest ih =>
    -- the new entry goes before the first one, takes its place, or goes behind it
    obtain ⟨key', b⟩ := e
    unfold insertSorted
    by_cases hk : k = key
    · rw [if_pos hk] at ih ⊢
      split
      · rw [List.lookup_cons, beq_iff_eq.mpr hk]
      · split
        · rw [List.lookup_cons, beq_iff_eq.mpr hk]
        · -- the place of the key lies further behind
          next hne => rw [List.lookup_cons, beq_eq_false_iff_ne.mpr (hk ▸ hne), ih]
    · rw [if_neg hk] at ih ⊢
      split
      · rw [List.lookup_cons, beq_eq_false_iff_ne.mpr hk]
      · split
        · next heq =>
          rw [List.lookup_cons, List.lookup_cons, ← heq, beq_eq_false_iff_ne.mpr hk]
        · rw [List.lookup_cons, List.lookup_cons, ih]

/-- A new key is one entry more. -/
theorem perm_insertSorted {key : String} (a : α) {entries : List (String × α)}
    (h : key ∉ entries.map Prod.fst) :
    (insertSorted key a entries).Perm ((key, a) :: entries) := by
  induction entries with
  | nil => exact .refl _
  | cons e rest ih =>
    obtain ⟨k, b⟩ := e
    rw [List.map_cons, List.mem_cons, not_or] at h
    rw [insertSorted]
    split
    · exact .refl _
    · rw [if_neg h.1]
      -- it goes behind the first entry, and the two change places
      exact ((ih h.2).cons _).trans (.swap _ _ _)

namespace Keyed

theorem find?_insert (m : Keyed α) (key : String) (a : α) (k : String) :
    (m.insert key a).find? k = if k = key then some a else m.find? k :=
  lookup_insertSorted key a m.entries k

theorem mem_keys_iff {m : Keyed α} {key : String} : key ∈ m.keys ↔ m.find? key ≠ none :=
  lookup_ne_none_iff.symm

theorem pairwise_keys (m : Keyed α) : m.keys.Pairwise (· < ·) :=
  List.pairwise_map.mpr m.ascending

theorem ofList_concat (entries : List (String × α)) (key : String) (a : α) :
    ofList (entries ++ [(key, a)]) = (ofList entries).insert key a :=
  List.foldl_append

/-- **Of a repeated key the last entry is found.** -/
theorem find?_ofList (entries : List (String × α)) (key : String) :
    (ofList entries).find? key = entries.reverse.lookup key := by
  induction entries using List.reverseRecOn with
  | nil => rfl
  | append_singleton rest e ih =>
    obtain ⟨k, a⟩ := e
    rw [ofList_concat, find?_insert, ih, List.reverse_append, List.reverse_singleton,
      List.singleton_append, List.lookup_cons]
    by_cases hk : key = k
    · rw [if_pos hk, beq_iff_eq.mpr hk]
    · rw [if_neg hk, beq_eq_false_iff_ne.mpr hk]

theorem mem_keys_ofList {entries : List (String × α)} {key : String} :
    key ∈ (ofList entries).keys ↔ key ∈ entries.map Prod.fst := by
  rw [mem_keys_iff, find?_ofList, lookup_ne_none_iff, List.map_reverse, List.mem_reverse]

/-- Entries without repeated keys are all in the collection of them. -/
theorem perm_ofList {entries : List (String × α)} (h : (entries.map Prod.fst).Nodup) :
    (ofList entries).entries.Perm entries := by
  have hfold : ∀ (rest : List (String × α)) (m : Keyed α), ((m.entries ++ rest).map Prod.fst).Nodup →
      (rest.foldl (fun m e => m.insert e.1 e.2) m).entries.Perm (m.entries ++ rest) := by
    intro rest
    induction rest with
    | nil => exact fun m _ => by rw [List.append_nil]; exact .refl _
    | cons e rest ih =>
      intro m hm
      -- the next entry is new, so it joins those that are there
      have hmiddle : (m.entries ++ e :: rest).Perm ((e :: m.entries) ++ rest) := List.perm_middle
      have hnodup := (hmiddle.map Prod.fst).nodup_iff.mp hm
      have hnew : e.1 ∉ m.entries.map Prod.fst := by
        rw [List.cons_append, List.map_cons, List.nodup_cons, List.map_append] at hnodup
        exact fun hmem => hnodup.1 (List.mem_append_left _ hmem)
      have hinsert : (m.insert e.1 e.2).entries.Perm (e :: m.entries) := perm_insertSorted e.2 hnew
      have hall := hinsert.append_right rest
      exact (ih _ ((hall.map Prod.fst).nodup_iff.mpr hnodup)).trans (hall.trans hmiddle.symm)
  exact hfold entries empty h

/-- **The order of entries does not matter**, if no key stands twice. -/
theorem ofList_eq_of_perm {entries others : List (String × α)} (h : (entries.map Prod.fst).Nodup)
    (hperm : entries.Perm others) : ofList entries = ofList others := by
  have hothers := perm_ofList ((hperm.map Prod.fst).nodup_iff.mp h)
  have hentries : (ofList entries).entries = (ofList others).entries := by
    refine List.Perm.eq_of_pairwise (fun a b _ _ hab hba => ?_) (ofList entries).ascending
      (ofList others).ascending ((perm_ofList h).trans (hperm.trans hothers.symm))
    exact absurd (String.lt_trans hab hba) (String.lt_irrefl _)
  cases hm : ofList entries
  cases hn : ofList others
  rw [hm, hn] at hentries
  congr

end Keyed

end Itinerary
