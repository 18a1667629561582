import Itinerary.Proofs.Json.Reader
import Itinerary.Proofs.Steps

/-!
# Values in another order

The members of an object may stand in any order. Two values are equal but for that if members can be
put in order, level by level, so that they are equal (`Value.Reordered`); of two records this leaves
entries in step (`Value.Reordered.inStep`): the same keys, and under each key values that are equal
but for the order of members.

What is said of such values is said of regular ones, in which no key stands twice and every part can
be taken in (`Value.Regular`). A key that stands twice may be refused, and so may a value that is
read by nobody, where it is taken in before it is passed over.
-/

namespace Itinerary.Json

/-! ### Regular values -/

/-- Whether a value can be taken in whole with so many levels that may open: no key stands twice in
an object of it, its texts are texts and its numbers doubles. -/
inductive Value.Regular : Nat → Value → Prop where
  | null (room : Nat) : Regular room .null
  | bool (room : Nat) (b : Bool) : Regular room (.bool b)
  /-- a number in the range of doubles -/
  | number (room : Nat) {n : Numeral} (h : n.float?.isSome) : Regular room (.number n)
  | string (room : Nat) (s : String) : Regular room (.string s)
  | list {room : Nat} {items : List Value} (h : ∀ v ∈ items, Regular room v) :
    Regular (room + 1) (.list items)
  /-- an object without repeated keys -/
  | record {room : Nat} {entries : List (String × Value)} (hnodup : (entries.map Prod.fst).Nodup)
    (h : ∀ e ∈ entries, Regular room e.2) : Regular (room + 1) (.record entries)

/-- A regular value can be taken in whole. -/
theorem Value.Regular.settled {room : Nat} {v : Value} (h : v.Regular room) :
    Reader.settled room v = true := by
  induction h with
  | null | bool => rw [Reader.settled]
  | number room h => rw [Reader.settled, h, Bool.or_true]
  | string room s => rw [Value.string, Reader.settled, Literal.plain?_ofString]; rfl
  | list h ih =>
    rw [Reader.settled, Nat.add_sub_cancel, Reader.settledItems_iff.mpr ih]
    rfl
  | record hnodup h ih =>
    rw [Value.record, Reader.settled, Nat.add_sub_cancel, Reader.settledMembers_iff.mpr]
    · rfl
    · refine List.forall_mem_map.mpr fun e he => ⟨?_, ih e he⟩
      rw [Literal.plain?_ofString, Option.isSome_some]

/-! ### Another order of members -/

/-- Whether two values are equal once the members of every object of one of them are reordered. -/
inductive Value.Reordered : Value → Value → Prop where
  | null : Reordered .null .null
  | bool (b : Bool) : Reordered (.bool b) (.bool b)
  | number (n : Numeral) : Reordered (.number n) (.number n)
  | text (l : Literal) : Reordered (.text l) (.text l)
  | list {items others : List Value} (h : List.Forall₂ Reordered items others) :
    Reordered (.list items) (.list others)
  /-- the values are reordered inside, and then the members -/
  | object {members inner others : List (Literal × Value)}
    (hkeys : members.map Prod.fst = inner.map Prod.fst)
    (hvalues : List.Forall₂ Reordered (members.map Prod.snd) (inner.map Prod.snd))
    (horder : inner.Perm others) : Reordered (.object members) (.object others)

/-- Whether two lists of members have the same keys, with values that are related under each. -/
structure InStep {κ : Type} (R : Value → Value → Prop) (members others : List (κ × Value)) :
    Prop where
  left : ∀ k v, (k, v) ∈ members → ∃ w, (k, w) ∈ others ∧ R v w
  right : ∀ k w, (k, w) ∈ others → ∃ v, (k, v) ∈ members ∧ R v w

/-- Lists of keys and values in step have members in step. -/
theorem inStep_of_forall₂ {κ : Type} {R : Value → Value → Prop} {members others : List (κ × Value)}
    (hkeys : members.map Prod.fst = others.map Prod.fst)
    (hvalues : List.Forall₂ R (members.map Prod.snd) (others.map Prod.snd)) :
    InStep R members others := by
  -- along the members: the first ones share their key, and the others are in step by themselves
  induction members generalizing others with
  | nil =>
    obtain rfl := List.map_eq_nil_iff.mp hkeys.symm
    exact ⟨fun _ _ h => (nomatch h), fun _ _ h => (nomatch h)⟩
  | cons m rest ih =>
    obtain ⟨key, value⟩ := m
    cases others with
    | nil => cases hkeys
    | cons o others =>
      obtain ⟨key', value'⟩ := o
      simp only [List.map_cons, List.cons.injEq] at hkeys
      obtain ⟨rfl, hkeys⟩ := hkeys
      cases hvalues with
      | cons hvalue hvalues =>
      have hrest := ih hkeys hvalues
      -- a member of the one list has its partner at its own position
      constructor
      · intro k v hmem
        rcases List.mem_cons.mp hmem with heq | hmem
        · cases heq
          exact ⟨value', List.mem_cons_self, hvalue⟩
        · obtain ⟨w, hw, hR⟩ := hrest.left k v hmem
          exact ⟨w, List.mem_cons_of_mem _ hw, hR⟩
      · intro k w hmem
        rcases List.mem_cons.mp hmem with heq | hmem
        · cases heq
          exact ⟨value, List.mem_cons_self, hvalue⟩
        · obtain ⟨v, hv, hR⟩ := hrest.right k w hmem
          exact ⟨v, List.mem_cons_of_mem _ hv, hR⟩

theorem InStep.of_perm {κ : Type} {R : Value → Value → Prop} {members inner others : List (κ × Value)}
    (h : InStep R members inner) (hperm : inner.Perm others) : InStep R members others where
  left k v hmem := by
    obtain ⟨w, hw, hR⟩ := h.left k v hmem
    exact ⟨w, hperm.mem_iff.mp hw, hR⟩
  right k w hmem := h.right k w (hperm.mem_iff.mpr hmem)

/-- Members stay in step under other keys, and are in step by what their values are mapped to. -/
theorem InStep.of_map {κ κ' : Type} {R : Value → Value → Prop} {key : κ → κ'}
    (hkey : Function.Injective key) {p : Value → Value} {members others : List (κ × Value)}
    (h : InStep R (members.map fun m => (key m.1, p m.2)) (others.map fun m => (key m.1, p m.2))) :
    InStep (fun v w => R (p v) (p w)) members others where
  left k v hmem := by
    obtain ⟨x, hx, hR⟩ := h.left (key k) (p v) (List.mem_map.mpr ⟨(k, v), hmem, rfl⟩)
    obtain ⟨⟨k', w⟩, hmem', heq⟩ := List.mem_map.mp hx
    obtain ⟨hk, rfl⟩ := Prod.mk.inj heq
    exact ⟨w, hkey hk ▸ hmem', hR⟩
  right k w hmem := by
    obtain ⟨x, hx, hR⟩ := h.right (key k) (p w) (List.mem_map.mpr ⟨(k, w), hmem, rfl⟩)
    obtain ⟨⟨k', v⟩, hmem', heq⟩ := List.mem_map.mp hx
    obtain ⟨hk, rfl⟩ := Prod.mk.inj heq
    exact ⟨v, hkey hk ▸ hmem', hR⟩

theorem InStep.imp_of_mem {κ : Type} {R S : Value → Value → Prop} {members others : List (κ × Value)}
    (h : InStep R members others)
    (hS : ∀ k v w, (k, v) ∈ members → (k, w) ∈ others → R v w → S v w) :
    InStep S members others where
  left k v hmem := by
    obtain ⟨w, hw, hR⟩ := h.left k v hmem
    exact ⟨w, hw, hS k v w hmem hw hR⟩
  right k w hmem := by
    obtain ⟨v, hv, hR⟩ := h.right k w hmem
    exact ⟨v, hv, hS k v w hv hmem hR⟩

theorem ofString_injective : Function.Injective Literal.ofString := by
  intro s t h
  have hplain := congrArg Literal.plain? h
  rw [Literal.plain?_ofString, Literal.plain?_ofString] at hplain
  exact Option.some.inj hplain

/-- Records are reordered like objects. -/
theorem Value.Reordered.record {entries inner others : List (String × Value)}
    (hkeys : entries.map Prod.fst = inner.map Prod.fst)
    (hvalues : List.Forall₂ Value.Reordered (entries.map Prod.snd) (inner.map Prod.snd))
    (horder : inner.Perm others) : (Value.record entries).Reordered (.record others) := by
  refine .object ?_ ?_ (horder.map _)
  · have hliterals := congrArg (List.map Literal.ofString) hkeys
    rw [List.map_map, List.map_map] at hliterals ⊢
    exact hliterals
  · rw [List.map_map, List.map_map]
    exact hvalues

/-- **Records in another order have entries in step.** -/
theorem Value.Reordered.inStep {entries others : List (String × Value)}
    (h : (Value.record entries).Reordered (.record others)) :
    InStep Value.Reordered entries others := by
  have hobject : ∀ {members members' : List (Literal × Value)},
      (Value.object members).Reordered (.object members') →
        InStep Value.Reordered members members' := by
    rintro members members' ⟨⟩
    next hkeys hvalues horder => exact (inStep_of_forall₂ hkeys hvalues).of_perm horder
  exact InStep.of_map ofString_injective (p := id) (hobject h)

end Itinerary.Json
