import Itinerary.Line
import Itinerary.Proofs.Text.Hex

/-!
# Which texts are colours

Three or six hexadecimal digits are a colour, whatever blanks stand around them and with or without
a `#` in front. What counts is what is left without these (`digitsOf`): the six digits are the
number of the colour, and three are so when each is written twice (`Denotes`). Digits are read one
by one and only then counted, so a text with a character that is no digit is refused for that
character, however long it is.

The canonical text of a colour fills its six digits, so that none of the zeros in front is lost,
and has no blanks that a reader would trim off (`trim_hex`). What is read from it is the colour
(`ofHex_hex`), and so texts are of one colour just if their colours have one canonical text.
-/

namespace Itinerary.Color

open Text

-- powers are those of the core library, whatever else is imported
attribute [local instance (high)] instPowNat

/-- The canonical text of a colour has six digits, which make up the colour. -/
theorem exists_values (c : Color) :
    ∃ values, (Hex.padded 6 c.rgb.val).mapM Hex.value? = some values ∧ values.length = 6 ∧
      Hex.number values = c.rgb.val := by
  obtain ⟨values, hvalues, hnumber⟩ := Hex.exists_values_padded 6 c.rgb.val
  have hlength : (Hex.padded 6 c.rgb.val).length = 6 := Hex.length_padded (by decide) c.rgb.isLt
  exact ⟨values, hvalues, (mapM_eq_some_iff.mp hvalues).length_eq ▸ hlength, hnumber⟩

/-- Nothing is trimmed off the canonical text of a colour. -/
theorem trim_hex (c : Color) : trimChars c.hex.toList = c.hex.toList := by
  obtain ⟨values, hvalues, -, -⟩ := c.exists_values
  refine trimChars_of_forall fun ch hch => ?_
  rw [hex, String.toList_ofList] at hch
  rcases List.mem_cons.mp hch with rfl | hdigit
  · decide
  · obtain ⟨d, -, hd⟩ := exists_mem_of_forall₂ (mapM_eq_some_iff.mp hvalues) hdigit
    exact Hex.isBlank_of_value? hd

/-- **A colour is read back** from its canonical text. -/
@[simp] theorem ofHex_hex (c : Color) : ofHex c.hex = .ok c := by
  obtain ⟨values, hvalues, hlength, hnumber⟩ := c.exists_values
  have hchars : ofHexChars c.hex.toList = .ok c := by
    rw [ofHexChars, trim_hex, hex, String.toList_ofList, dropHash, hvalues]
    match values, hlength with
    | [r, r', g, g', b, b'], _ =>
      show Except.ok (ofRgb (Hex.number [r, r', g, g', b, b'])) = .ok c
      rw [hnumber, ofRgb, Fin.ofNat_val_eq_self]
  rw [ofHex, hchars]

/-! ### Texts of colours -/

/-- What is left of a text to be read as digits. -/
def digitsOf (s : String) : List Char := dropHash (trimChars s.toList)

/-- A list with each item twice. -/
def twice {α : Type} (as : List α) : List α := as.flatMap fun a => [a, a]

theorem length_twice {α : Type} (as : List α) : (twice as).length = 2 * as.length := by
  induction as with
  | nil => rfl
  | cons a rest ih =>
    have hcons : (twice (a :: rest)).length = (twice rest).length + 2 := rfl
    rw [hcons, ih, List.length_cons]
    omega

/-- Of an item that stands twice the same comes twice. -/
theorem mapM_twice {α β : Type} (f : α → Option β) (as : List α) :
    (twice as).mapM f = (as.mapM f).map twice := by
  induction as with
  | nil => rfl
  | cons a rest ih =>
    have hcons : twice (a :: rest) = a :: a :: twice rest := rfl
    rw [hcons, List.mapM_cons, List.mapM_cons, List.mapM_cons, ih]
    cases f a with
    | none => rfl
    | some b => cases rest.mapM f <;> rfl

/-- The number that some characters denote: that of six digits, or of three with each written
twice. -/
inductive Denotes : List Char → Nat → Prop
  | six {cs : List Char} {n : Nat} (hlength : cs.length = 6) (h : Hex.Spells cs n) : Denotes cs n
  | three {cs : List Char} {n : Nat} (hlength : cs.length = 3) (h : Hex.Spells (twice cs) n) :
    Denotes cs n

/-- Six digits are of 24 bits. -/
theorem lt_of_spells {cs : List Char} {n : Nat} (hlength : cs.length = 6) (h : Hex.Spells cs n) :
    n < 16777216 := by
  obtain ⟨values, hvalues, rfl⟩ := h
  have hsmall : ∀ d ∈ values.reverse, d < 16 := by
    intro d hd
    obtain ⟨c, -, hdigit⟩ := exists_mem_of_forall₂ hvalues.flip (List.mem_reverse.mp hd)
    exact hdigit.1
  have hlt := Nat.ofDigits_lt_base_pow_length (by decide : 1 < 16) hsmall
  rwa [List.length_reverse, ← hvalues.length_eq, hlength] at hlt

theorem Denotes.lt {cs : List Char} {n : Nat} (h : Denotes cs n) : n < 16777216 := by
  cases h with
  | six hlength h => exact lt_of_spells hlength h
  | three hlength h => exact lt_of_spells (by rw [length_twice, hlength]) h

/-- What is read comes down to the values of the digits, and how many there are. -/
theorem ofHexChars_eq (cs : List Char) :
    ofHexChars cs =
      ((dropHash (trimChars cs)).mapM Hex.value?).elim (.error .nonHex) fun values =>
        if values.length = 3 then .ok (ofRgb (Hex.number (twice values)))
        else if values.length = 6 then .ok (ofRgb (Hex.number values))
        else .error .length := by
  rw [ofHexChars]
  split
  · next hnone =>
    rw [hnone]
    rfl
  · next hthree =>
    rw [hthree]
    rfl
  · next hsix =>
    rw [hsix]
    rfl
  · -- the lengths that are left are those of no pattern
    next values hthree hsix hvalues =>
    have hne : values.length ≠ 3 := by
      intro hlength
      obtain ⟨r, g, b, rfl⟩ := List.length_eq_three.mp hlength
      exact hthree r g b rfl
    have hne' : values.length ≠ 6 := by
      intro hlength
      match values, hlength with
      | [r, r', g, g', b, b'], _ => exact hsix r r' g g' b b' rfl
    rw [hvalues, Option.elim_some, if_neg hne, if_neg hne']

theorem ofRgb_eq_iff {n : Nat} (h : n < 16777216) {c : Color} : ofRgb n = c ↔ n = c.rgb.val := by
  have hval : (ofRgb n).rgb.val = n := Nat.mod_eq_of_lt h
  constructor
  · rintro rfl
    exact hval.symm
  · intro heq
    rw [heq, ofRgb, Fin.ofNat_val_eq_self]

theorem denotes_iff_of_mapM {cs : List Char} {values : List Nat}
    (h : cs.mapM Hex.value? = some values) {n : Nat} :
    Denotes cs n ↔ values.length = 3 ∧ Hex.number (twice values) = n ∨
      values.length = 6 ∧ Hex.number values = n := by
  have hlength := (mapM_eq_some_iff.mp h).length_eq
  constructor
  · rintro (⟨hsix, hspells⟩ | ⟨hthree, hspells⟩)
    · obtain ⟨values', hvalues', rfl⟩ := Hex.spells_iff.mp hspells
      obtain rfl := Option.some.inj (h.symm.trans hvalues')
      exact .inr ⟨hlength.symm.trans hsix, rfl⟩
    · obtain ⟨values', hvalues', rfl⟩ := Hex.spells_iff.mp hspells
      -- three digits denote what they do when each stands twice
      rw [mapM_twice, h, Option.map_some] at hvalues'
      obtain rfl := Option.some.inj hvalues'
      exact .inl ⟨hlength.symm.trans hthree, rfl⟩
  · rintro (⟨hthree, hnumber⟩ | ⟨hsix, hnumber⟩)
    · refine .three (hlength.trans hthree) (Hex.spells_iff.mpr ⟨twice values, ?_, hnumber⟩)
      rw [mapM_twice, h, Option.map_some]
    · exact .six (hlength.trans hsix) (Hex.spells_iff.mpr ⟨values, h, hnumber⟩)

theorem not_denotes_of_mapM {cs : List Char} (h : cs.mapM Hex.value? = none) (n : Nat) :
    ¬ Denotes cs n := by
  rintro (⟨-, hspells⟩ | ⟨-, hspells⟩)
  · obtain ⟨values, hvalues, -⟩ := Hex.spells_iff.mp hspells
    rw [h] at hvalues
    cases hvalues
  · obtain ⟨values, hvalues, -⟩ := Hex.spells_iff.mp hspells
    rw [mapM_twice, h] at hvalues
    cases hvalues

/-- **Digits are read as the colour that they denote.** -/
theorem ofHexChars_eq_ok_iff {cs : List Char} {c : Color} :
    ofHexChars cs = .ok c ↔ Denotes (dropHash (trimChars cs)) c.rgb.val := by
  rw [ofHexChars_eq]
  cases h : (dropHash (trimChars cs)).mapM Hex.value? with
  | none => exact ⟨nofun, fun hdenotes => absurd hdenotes (not_denotes_of_mapM h _)⟩
  | some values =>
    rw [Option.elim_some]
    -- the number is below the bound, so it is not cut when it is made a colour
    have hbound : ∀ n, Denotes (dropHash (trimChars cs)) n → n < 16777216 := fun n hn => hn.lt
    simp only [denotes_iff_of_mapM h] at hbound ⊢
    split
    · next hthree =>
      rw [Except.ok.injEq, ofRgb_eq_iff (hbound _ (.inl ⟨hthree, rfl⟩))]
      exact ⟨fun hnumber => .inl ⟨hthree, hnumber⟩, fun hor => hor.elim And.right fun hsix =>
        absurd (hthree.symm.trans hsix.1) (by decide)⟩
    · -- six digits, or a length that denotes nothing
      next hthree =>
      split
      · next hsix =>
        rw [Except.ok.injEq, ofRgb_eq_iff (hbound _ (.inr ⟨hsix, rfl⟩))]
        exact ⟨fun hnumber => .inr ⟨hsix, hnumber⟩, fun hor => hor.elim (fun h => absurd h.1 hthree)
          And.right⟩
      · next hsix =>
        exact ⟨nofun, fun hor => hor.elim (fun h => absurd h.1 hthree) fun h => absurd h.1 hsix⟩

/-- **The fault is a character that is no digit**, if there is one, however many characters there
are. -/
theorem ofHexChars_eq_nonHex_iff {cs : List Char} :
    ofHexChars cs = .error .nonHex ↔ ∃ ch ∈ dropHash (trimChars cs), ¬ Hex.IsDigit ch := by
  have hdigits := @Hex.forall_isDigit_iff (dropHash (trimChars cs))
  rw [ofHexChars_eq]
  cases h : (dropHash (trimChars cs)).mapM Hex.value? with
  | none =>
    refine ⟨fun _ => ?_, fun _ => rfl⟩
    by_contra! hall
    obtain ⟨values, hvalues⟩ := hdigits.mp hall
    rw [h] at hvalues
    cases hvalues
  | some values =>
    -- all are digits, so the fault can only be how many
    rw [Option.elim_some]
    have hall := hdigits.mpr ⟨values, h⟩
    refine ⟨fun herror => ?_, fun ⟨ch, hch, hnot⟩ => absurd (hall ch hch) hnot⟩
    split at herror
    · cases herror
    · split at herror <;> cases herror

/-- Something is denoted by three digits and by six. -/
theorem exists_denotes_iff {cs : List Char} :
    (∃ n, Denotes cs n) ↔ (∀ ch ∈ cs, Hex.IsDigit ch) ∧ (cs.length = 3 ∨ cs.length = 6) := by
  rw [Hex.forall_isDigit_iff]
  cases h : cs.mapM Hex.value? with
  | none =>
    refine ⟨fun ⟨n, hn⟩ => absurd hn (not_denotes_of_mapM h n), ?_⟩
    rintro ⟨⟨values, ⟨⟩⟩, -⟩
  | some values =>
    simp only [denotes_iff_of_mapM h, (mapM_eq_some_iff.mp h).length_eq]
    constructor
    · rintro ⟨n, ⟨hthree, -⟩ | ⟨hsix, -⟩⟩
      · exact ⟨⟨values, rfl⟩, .inl hthree⟩
      · exact ⟨⟨values, rfl⟩, .inr hsix⟩
    · rintro ⟨-, hthree | hsix⟩
      · exact ⟨_, .inl ⟨hthree, rfl⟩⟩
      · exact ⟨_, .inr ⟨hsix, rfl⟩⟩

theorem ofHex_eq_ok_iff {s : String} {c : Color} :
    ofHex s = .ok c ↔ Denotes (digitsOf s) c.rgb.val := by
  rw [digitsOf, ← ofHexChars_eq_ok_iff, ofHex]
  cases ofHexChars s.toList with
  | ok c' =>
    show Except.ok c' = Except.ok c ↔ Except.ok c' = Except.ok c
    rw [Except.ok.injEq, Except.ok.injEq]
  | error fault => exact ⟨nofun, nofun⟩

/-- A colour has no other canonical text, nor any other colour the same one. -/
theorem hex_injective : Function.Injective hex := by
  intro c c' h
  have hread : ofHex c.hex = ofHex c'.hex := congrArg ofHex h
  rw [ofHex_hex, ofHex_hex] at hread
  exact Except.ok.inj hread

/-- **Which texts are colours, and which colour each of them is.** A text is a colour if three or
six hexadecimal digits are left of it, and no other is. The colour is the number of 24 bits that
they denote, and it is read back from its canonical text; so two texts are of one colour exactly if
they come to one canonical text. Of a text that is no colour it is said that it has a character that
is no digit whenever it does, and if not, that it has not as many as it should. -/
theorem ofHex_exact (s : String) :
    ((∃ c, ofHex s = .ok c) ↔ (∀ ch ∈ digitsOf s, Hex.IsDigit ch) ∧
      ((digitsOf s).length = 3 ∨ (digitsOf s).length = 6)) ∧
    (∀ c, ofHex s = .ok c ↔ Denotes (digitsOf s) c.rgb.val) ∧
    (∀ n, Denotes (digitsOf s) n → n < 16777216 ∧ ∃ c, ofHex s = .ok c ∧ c.rgb.val = n) ∧
    (∀ c, ofHex s = .ok c → ofHex c.hex = .ok c) ∧
    (∀ s' c c', ofHex s = .ok c → ofHex s' = .ok c' → (c = c' ↔ c.hex = c'.hex)) ∧
    ∀ e, ofHex s = .error e → e.input = s ∧
      (e.fault = .nonHex ↔ ∃ ch ∈ digitsOf s, ¬ Hex.IsDigit ch) := by
  -- a number that is denoted is below the bound of a colour, and so it is one
  have hvalue : ∀ n, Denotes (digitsOf s) n → ∃ c, ofHex s = .ok c ∧ c.rgb.val = n :=
    fun n hn => ⟨⟨⟨n, hn.lt⟩⟩, ofHex_eq_ok_iff.mpr hn, rfl⟩
  refine ⟨?accepted, fun c => ofHex_eq_ok_iff, fun n hn => ⟨hn.lt, hvalue n hn⟩,
    fun c _ => ofHex_hex c, fun s' c c' _ _ => hex_injective.eq_iff.symm, ?fault⟩
  case accepted =>
    rw [← exists_denotes_iff]
    constructor
    · rintro ⟨c, hc⟩
      exact ⟨_, ofHex_eq_ok_iff.mp hc⟩
    · rintro ⟨n, hn⟩
      obtain ⟨c, hc, -⟩ := hvalue n hn
      exact ⟨c, hc⟩
  case fault =>
    intro e he
    rw [ofHex] at he
    cases hchars : ofHexChars s.toList with
    | ok c =>
      rw [hchars] at he
      cases he
    | error fault =>
      rw [hchars] at he
      cases he
      refine ⟨rfl, ?_⟩
      rw [digitsOf, ← ofHexChars_eq_nonHex_iff, hchars, Except.error.injEq]

example : ofHex " #0aF" = .ok ⟨0x00aaff⟩ := by decide

end Itinerary.Color
