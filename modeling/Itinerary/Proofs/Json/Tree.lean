import Itinerary.Json.Tree
import Itinerary.Proofs.Json.Token

/-!
# Values that are read back

A value is read back from its text. Its tokens can be told apart, since a value ends at a mark or
at the end of the text and either closes a number (`readable_tokens`), and the tokens of a value
make that value and leave what follows them (`takeValue_tokens`). Both go along the tree, with lists
of items and members beside it.

`Value.Written` are the values of which this holds: those that the library writes.
-/

namespace Itinerary.Json.Value

/-- The values that are written in the grammar: their numbers are, and their texts have no
faults. -/
inductive Written : Value → Prop where
  | null : Written .null
  | bool (b : Bool) : Written (.bool b)
  /-- a number in the grammar -/
  | number {n : Numeral} (h : n.WellFormed) : Written (.number n)
  /-- a text without faults -/
  | string (s : String) : Written (.string s)
  /-- a list of written values -/
  | list {items : List Value} (h : ∀ v ∈ items, Written v) : Written (.list items)
  /-- an object with texts as its keys and written values -/
  | object {members : List (Literal × Value)} (hkey : ∀ m ∈ members, ∃ s, m.1 = Literal.ofString s)
    (h : ∀ m ∈ members, Written m.2) : Written (.object members)

/-! ### What is written -/

@[simp] theorem written_string (s : String) : (string s).Written := .string s

@[simp] theorem written_bool (b : Bool) : (bool b).Written := .bool b

@[simp] theorem written_int (n : Int) : (int n).Written := .number (Numeral.wellFormed_ofInt n)

@[simp] theorem written_float (x : Float) : (float x).Written := by
  rw [Value.float]
  split
  · exact .number (Numeral.wellFormed_ofFloat x)
  · exact .null

@[simp] theorem written_optional {α : Type} {write : α → Value} (h : ∀ a, (write a).Written)
    (o : Option α) : (optional write o).Written := by
  cases o with
  | none => exact .null
  | some a => exact h a

@[simp] theorem written_list {items : List Value} :
    (list items).Written ↔ ∀ v ∈ items, v.Written := by
  constructor
  · intro h
    cases h with
    | list h => exact h
  · exact .list

@[simp] theorem written_listOf {α : Type} {write : α → Value} (h : ∀ a, (write a).Written)
    (items : List α) : (listOf write items).Written := by
  refine .list fun v hv => ?_
  obtain ⟨a, -, rfl⟩ := List.mem_map.mp hv
  exact h a

@[simp] theorem written_record_nil : (record []).Written :=
  .object (fun _ h => nomatch h) fun _ h => nomatch h

@[simp] theorem written_record_cons {k : String} {v : Value} {members : List (String × Value)} :
    (record ((k, v) :: members)).Written ↔ v.Written ∧ (record members).Written := by
  constructor
  · intro h
    cases h with
    | object hkey h =>
      refine ⟨h _ List.mem_cons_self, .object (fun m hm => ?_) fun m hm => ?_⟩
      · exact hkey m (List.mem_cons_of_mem _ hm)
      · exact h m (List.mem_cons_of_mem _ hm)
  · rintro ⟨hv, hrest⟩
    cases hrest with
    | object hkey h =>
      refine .object (fun m hm => ?_) fun m hm => ?_
      · rcases List.mem_cons.mp hm with rfl | hm
        · exact ⟨k, rfl⟩
        · exact hkey m hm
      · rcases List.mem_cons.mp hm with rfl | hm
        · exact hv
        · exact h m hm

/-! ### Tokens that can be told apart -/

/-- Whether some tokens may stand behind a value: they can be told apart, and they close a
number. -/
def MayFollow (rest : List Token) : Prop :=
  Token.Readable rest ∧ IsClosed (sourceOf (rest.flatMap Token.write))

theorem mayFollow_nil : MayFollow [] := ⟨trivial, fun _ h => nomatch h⟩

/-- The marks that end a value may stand behind it. -/
theorem mayFollow_cons (mark : Token) (hmark : mark ∈ [.comma, .closeList, .closeObject])
    {rest : List Token} (h : Token.Readable rest) : MayFollow (mark :: rest) := by
  simp only [List.mem_cons, List.not_mem_nil, or_false] at hmark
  rcases hmark with rfl | rfl | rfl
  · refine ⟨⟨.comma, fun h => (nomatch h), h⟩, ?_⟩
    rintro c ⟨⟩
    decide
  · refine ⟨⟨.closeList, fun h => (nomatch h), h⟩, ?_⟩
    rintro c ⟨⟩
    decide
  · refine ⟨⟨.closeObject, fun h => (nomatch h), h⟩, ?_⟩
    rintro c ⟨⟩
    decide

mutual

/-- The tokens of a value can be told apart, and from what may follow them. -/
theorem readable_tokens : (v : Value) → v.Written → ∀ {rest : List Token}, MayFollow rest →
    Token.Readable (tokens v ++ rest)
  | .null, _, _, h => ⟨.null, fun h => (nomatch h), h.1⟩
  | .bool b, _, _, h => ⟨.bool b, fun h => (nomatch h), h.1⟩
  | .number n, .number hn, _, h => ⟨.number hn, fun _ => h.2, h.1⟩
  | .text _, .string s, _, h => ⟨.text s, fun h => (nomatch h), h.1⟩
  | .list items, .list hitems, rest, h => by
    rw [tokens, List.cons_append, List.append_assoc]
    exact ⟨.openList, fun h => (nomatch h),
      readable_itemTokens items hitems (mayFollow_cons .closeList (by simp) h.1)⟩
  | .object members, .object hkey hmembers, rest, h => by
    rw [tokens, List.cons_append, List.append_assoc]
    exact ⟨.openObject, fun h => (nomatch h),
      readable_memberTokens members hkey hmembers (mayFollow_cons .closeObject (by simp) h.1)⟩

/-- The tokens of the items of a list can be told apart. -/
theorem readable_itemTokens : (items : List Value) → (∀ v ∈ items, v.Written) →
    ∀ {rest : List Token}, MayFollow rest → Token.Readable (itemTokens items ++ rest)
  | [], _, _, h => h.1
  | [v], hitems, _, h => readable_tokens v (hitems v List.mem_cons_self) h
  | v :: w :: items, hitems, rest, h => by
    have hrest := readable_itemTokens (w :: items)
      (fun u hu => hitems u (List.mem_cons_of_mem v hu)) h
    rw [itemTokens, List.append_assoc]
    exact readable_tokens v (hitems v List.mem_cons_self) (mayFollow_cons .comma (by simp) hrest)

/-- The tokens of the members of an object can be told apart. -/
theorem readable_memberTokens : (members : List (Literal × Value)) →
    (∀ m ∈ members, ∃ s, m.1 = Literal.ofString s) → (∀ m ∈ members, m.2.Written) →
    ∀ {rest : List Token}, MayFollow rest → Token.Readable (memberTokens members ++ rest)
  | [], _, _, _, h => h.1
  | [(k, v)], hkey, hmembers, rest, h => by
    obtain ⟨s, rfl⟩ : ∃ s, k = Literal.ofString s := hkey _ List.mem_cons_self
    have hv := readable_tokens v (hmembers _ List.mem_cons_self) h
    exact ⟨.text s, fun h => (nomatch h), .colon, fun h => (nomatch h), hv⟩
  | (k, v) :: m :: members, hkey, hmembers, rest, h => by
    obtain ⟨s, rfl⟩ : ∃ s, k = Literal.ofString s := hkey _ List.mem_cons_self
    have hrest := readable_memberTokens (m :: members)
      (fun n hn => hkey n (List.mem_cons_of_mem _ hn))
      (fun n hn => hmembers n (List.mem_cons_of_mem _ hn)) h
    have hv := readable_tokens v (hmembers _ List.mem_cons_self)
      (mayFollow_cons .comma (by simp) hrest)
    rw [memberTokens, List.cons_append, List.cons_append, List.append_assoc]
    exact ⟨.text s, fun h => (nomatch h), .colon, fun h => (nomatch h), hv⟩

end

/-! ### Tokens of a value -/

theorem exists_tokens_eq_cons (v : Value) : ∃ t ts, tokens v = t :: ts ∧ t ≠ .closeList := by
  cases v <;> exact ⟨_, _, rfl, by simp⟩

/-- The items of a list start with a token that does not end it. -/
theorem exists_itemTokens_eq_cons {items : List Value} (h : items ≠ []) :
    ∃ t ts, itemTokens items = t :: ts ∧ t ≠ .closeList := by
  match items, h with
  | [v], _ =>
    rw [itemTokens]
    exact exists_tokens_eq_cons v
  | v :: w :: items, _ =>
    obtain ⟨t, ts, htokens, ht⟩ := exists_tokens_eq_cons v
    rw [itemTokens, htokens]
    exact ⟨t, _, rfl, ht⟩

theorem exists_memberTokens_eq_cons {members : List (Literal × Value)} (h : members ≠ []) :
    ∃ k ts, memberTokens members = .text k :: ts := by
  match members, h with
  | [(k, v)], _ => exact ⟨k, _, rfl⟩
  | (k, v) :: m :: members, _ => exact ⟨k, _, rfl⟩

mutual

/-- The tokens of a value make the value and leave what follows. -/
theorem takeValue_tokens : (v : Value) → ∀ (fuel : Nat) (rest : List Token),
    2 * (tokens v).length ≤ fuel → takeValue fuel (tokens v ++ rest) = some (v, rest)
  | .null, fuel + 1, rest, _ => by rw [tokens, List.singleton_append, takeValue]
  | .bool b, fuel + 1, rest, _ => by rw [tokens, List.singleton_append, takeValue]
  | .number n, fuel + 1, rest, _ => by rw [tokens, List.singleton_append, takeValue]
  | .text l, fuel + 1, rest, _ => by rw [tokens, List.singleton_append, takeValue]
  | .list items, fuel + 1, rest, h => by
    by_cases hne : items = []
    · subst hne
      rfl
    · -- the list is not taken for an empty one, since its first token does not end it
      obtain ⟨t, ts, htokens, ht⟩ := exists_itemTokens_eq_cons hne
      rw [tokens, List.length_cons, List.length_append, List.length_singleton] at h
      have hitems := takeItems_itemTokens items hne fuel rest (by omega)
      rw [tokens, List.cons_append, List.append_assoc, List.singleton_append]
      rw [htokens, List.cons_append] at hitems ⊢
      rw [takeValue, hitems]
      · rfl
      · rintro _ ⟨⟩
        exact ht rfl
  | .object members, fuel + 1, rest, h => by
    by_cases hne : members = []
    · subst hne
      rfl
    · -- the first token of a member is its key, which does not end an object either
      obtain ⟨k, ts, htokens⟩ := exists_memberTokens_eq_cons hne
      rw [tokens, List.length_cons, List.length_append, List.length_singleton] at h
      have hmembers := takeMembers_memberTokens members hne fuel rest (by omega)
      rw [tokens, List.cons_append, List.append_assoc, List.singleton_append]
      rw [htokens, List.cons_append] at hmembers ⊢
      rw [takeValue, hmembers]
      · rfl
      · rintro _ ⟨⟩

/-- The tokens of some items and the end of their list make the items. -/
theorem takeItems_itemTokens : (items : List Value) → items ≠ [] →
    ∀ (fuel : Nat) (rest : List Token), 2 * (itemTokens items).length < fuel →
      takeItems fuel (itemTokens items ++ .closeList :: rest) = some (items, rest)
  | [v], _, fuel + 1, rest, h => by
    rw [itemTokens] at h ⊢
    rw [takeItems, takeValue_tokens v _ _ (by omega)]
  | v :: w :: items, _, fuel + 1, rest, h => by
    rw [itemTokens, List.length_append, List.length_cons] at h
    have hrest := takeItems_itemTokens (w :: items) (List.cons_ne_nil _ _) fuel rest (by omega)
    rw [itemTokens, List.append_assoc, List.cons_append, takeItems,
      takeValue_tokens v _ _ (by omega)]
    simp only
    rw [hrest]
    rfl

/-- The tokens of some members and the end of their object make the members. -/
theorem takeMembers_memberTokens : (members : List (Literal × Value)) → members ≠ [] →
    ∀ (fuel : Nat) (rest : List Token), 2 * (memberTokens members).length < fuel →
      takeMembers fuel (memberTokens members ++ .closeObject :: rest) = some (members, rest)
  | [(k, v)], _, fuel + 1, rest, h => by
    rw [memberTokens, List.length_cons, List.length_cons] at h
    rw [memberTokens, List.cons_append, List.cons_append, takeMembers,
      takeValue_tokens v _ _ (by omega)]
  | (k, v) :: m :: members, _, fuel + 1, rest, h => by
    rw [memberTokens, List.length_cons, List.length_cons, List.length_append, List.length_cons] at h
    have hrest :=
      takeMembers_memberTokens (m :: members) (List.cons_ne_nil _ _) fuel rest (by omega)
    rw [memberTokens, List.cons_append, List.cons_append, List.append_assoc, List.cons_append,
      takeMembers, takeValue_tokens v _ _ (by omega)]
    simp only
    rw [hrest]
    rfl

end

/-! ### Texts -/

@[simp] theorem ofTokens?_tokens (v : Value) : ofTokens? (tokens v) = some v := by
  have htake := takeValue_tokens v _ [] (Nat.le_refl _)
  rw [List.append_nil] at htake
  rw [ofTokens?, htake]

/-- **A value is read back** from the text it is written as. -/
theorem ofSource?_writeChars {v : Value} (h : v.Written) :
    ofSource? (sourceOf v.writeChars) = some v := by
  have hreadable := readable_tokens v h mayFollow_nil
  rw [List.append_nil] at hreadable
  rw [ofSource?, writeChars, Token.all_write hreadable]
  exact ofTokens?_tokens v

theorem ofString?_write {v : Value} (h : v.Written) : ofString? v.write = some v := by
  rw [ofString?, write, String.toList_ofList]
  exact ofSource?_writeChars h

end Itinerary.Json.Value
