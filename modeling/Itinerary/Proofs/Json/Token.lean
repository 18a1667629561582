import Itinerary.Json.Token
import Itinerary.Proofs.Decimal.Layout

/-!
# Tokens that are read back

A token is read back from its characters. Most tokens end by themselves, at a mark, at the end of a
word or at the quote that closes a text. A number goes on as long as its grammar lets it, so it has
to be *closed*: what follows it is none of the characters that a number goes on with.

`read_write` is the statement for one token with anything behind it, `all_write` that for a list of
them in which every number is closed.
-/

namespace Itinerary.Json

/-- The characters of a text without faults. -/
def sourceOf (cs : List Char) : Source := cs.map some

@[simp] theorem sourceOf_cons (c : Char) (cs : List Char) :
    sourceOf (c :: cs) = some c :: sourceOf cs := rfl

@[simp] theorem sourceOf_append (cs ds : List Char) :
    sourceOf (cs ++ ds) = sourceOf cs ++ sourceOf ds := List.map_append

/-! ### Texts -/

namespace Literal

/-- What a character is before surrogate pairs are joined. Controls without a short escape are
units. -/
def partOf (c : Char) : Part :=
  if c.toNat < 0x20 && !(['\x08', '\x0c', '\n', '\r', '\t'].contains c) then .unit c.toNat
  else .place (some c)

/-- A control is written as a unit that has its number. -/
theorem unit?_padded {n : Nat} (h : n < 0x20) :
    ∃ a b c d, Text.Hex.padded 4 n = [a, b, c, d] ∧ unit? a b c d = some n := by
  have all : ∀ k : Fin 0x20,
      let digit := fun i => (Text.Hex.padded 4 k.val).getD i '0'
      Text.Hex.padded 4 k.val = [digit 0, digit 1, digit 2, digit 3] ∧
        unit? (digit 0) (digit 1) (digit 2) (digit 3) = some k.val := by
    decide
  exact ⟨_, _, _, _, all ⟨n, h⟩⟩

theorem parts_shortEscape {e c : Char} (he : e ≠ 'u') (h : shortEscape? e = some c)
    (rest : Source) :
    parts (some '\\' :: some e :: rest) =
      (parts rest).map fun (ps, r) => (.place (some c) :: ps, r) := by
  rw [parts, h]
  · cases parts rest <;> rfl
  · exact fun _ _ _ _ _ _ hu => he hu

theorem parts_unitEscape {n : Nat} (h : n < 0x20) (rest : Source) :
    parts (sourceOf (unitEscape n) ++ rest) =
      (parts rest).map fun (ps, r) => (.unit n :: ps, r) := by
  obtain ⟨a, b, c, d, hpadded, hunit⟩ := unit?_padded h
  rw [unitEscape, hpadded]
  show parts (some '\\' :: some 'u' :: some a :: some b :: some c :: some d :: rest) = _
  rw [parts, hunit]
  cases parts rest <;> rfl

theorem parts_plain {c : Char} (hquote : c ≠ '"') (hslash : c ≠ '\\') (hcontrol : ¬ c.toNat < 0x20)
    (rest : Source) :
    parts (some c :: rest) = (parts rest).map fun (ps, r) => (.place (some c) :: ps, r) := by
  rw [parts, if_neg]
  · simp [hslash, hcontrol]
  · exact hquote
  · exact fun _ _ _ _ _ _ hc => hslash hc
  · exact fun _ _ _ hc => hslash hc

/-- A character of a text is one part of it. -/
theorem parts_writeChar (c : Char) (rest : Source) :
    parts (sourceOf (writeChar c) ++ rest) =
      (parts rest).map fun (ps, r) => (partOf c :: ps, r) := by
  -- the characters with an escape of their own, one after the other
  by_cases hquote : c = '"'
  · subst hquote
    exact parts_shortEscape (by decide) rfl rest
  by_cases hslash : c = '\\'
  · subst hslash
    exact parts_shortEscape (by decide) rfl rest
  by_cases hb : c = '\x08'
  · subst hb
    exact parts_shortEscape (by decide) rfl rest
  by_cases hf : c = '\x0c'
  · subst hf
    exact parts_shortEscape (by decide) rfl rest
  by_cases hn : c = '\n'
  · subst hn
    exact parts_shortEscape (by decide) rfl rest
  by_cases hr : c = '\r'
  · subst hr
    exact parts_shortEscape (by decide) rfl rest
  by_cases ht : c = '\t'
  · subst ht
    exact parts_shortEscape (by decide) rfl rest
  -- any other character is a control or stands for itself
  rw [writeChar, if_neg hquote, if_neg hslash, if_neg hb, if_neg hf, if_neg hn, if_neg hr,
    if_neg ht]
  have hshort : ['\x08', '\x0c', '\n', '\r', '\t'].contains c = false := by
    simp [hb, hf, hn, hr, ht]
  by_cases hcontrol : c.toNat < 0x20
  · rw [if_pos hcontrol, parts_unitEscape hcontrol, partOf, hshort, if_pos (by simp [hcontrol])]
  · rw [if_neg hcontrol, partOf, hshort, if_neg (by simp [hcontrol])]
    exact parts_plain hquote hslash hcontrol rest

/-- The parts of a text are those of its characters, up to the closing quote. -/
theorem parts_write (cs : List Char) (rest : Source) :
    parts (sourceOf (cs.flatMap writeChar) ++ some '"' :: rest) = some (cs.map partOf, rest) := by
  induction cs with
  | nil => rfl
  | cons c cs ih =>
    rw [List.flatMap_cons, sourceOf_append, List.append_assoc, parts_writeChar, ih]
    rfl

/-- No part of a text is half of a surrogate pair, so none are joined. -/
theorem join_map_partOf (cs : List Char) : join (cs.map partOf) = cs.map some := by
  induction cs with
  | nil => rfl
  | cons c cs ih =>
    rw [List.map_cons, List.map_cons, partOf]
    split
    · -- a control is a unit below all surrogates, so what follows it is left alone
      rename_i hcontrol
      have hc : c.toNat < 0x20 := by simpa using (Bool.and_eq_true_iff.mp hcontrol).1
      have hhigh : isHigh c.toNat = false := by simp [isHigh]; omega
      have hlow : isLow c.toNat = false := by simp [isLow]; omega
      -- the next part has no influence, though the equations of the join look at it
      cases hparts : cs.map partOf with
      | nil =>
        rw [hparts] at ih
        rw [join, hhigh, hlow, Bool.or_self, if_neg Bool.false_ne_true, Char.ofNat_toNat, ih]
        exact fun _ _ h => nomatch h
      | cons part parts =>
        rw [hparts] at ih
        cases part with
        | place p =>
          rw [join, hhigh, hlow, Bool.or_self, if_neg Bool.false_ne_true, Char.ofNat_toNat, ih]
          exact fun _ _ h => nomatch h
        | unit m =>
          rw [join, hhigh, hlow, Bool.false_and, if_neg Bool.false_ne_true, Bool.or_self,
            if_neg Bool.false_ne_true, Char.ofNat_toNat, ih]
    · rw [join, ih]

/-- **A text is read back from its literal.** -/
theorem read_ofString (s : String) (rest : Source) :
    read (sourceOf (s.toList.flatMap writeChar) ++ some '"' :: rest) = some (ofString s, rest) := by
  rw [read, parts_write]
  show some (join (s.toList.map partOf), rest) = _
  rw [join_map_partOf, ofString]

end Literal

/-! ### Numbers -/

/-- Whether a number is written as the grammar wants it. -/
structure Numeral.WellFormed (n : Numeral) : Prop where
  /-- the digits in front of the point may stand there -/
  whole : Decimal.IsWhole n.whole
  /-- there are only digits behind the point -/
  decimals : ∀ c ∈ n.decimals, c.isDigit = true
  /-- a power has a digit -/
  power_ne_nil : ∀ sign digits, n.power = some (sign, digits) → digits ≠ []
  /-- a power has only digits -/
  power : ∀ sign digits, n.power = some (sign, digits) → ∀ c ∈ digits, c.isDigit = true

theorem Numeral.wellFormed_ofInt (n : Int) : (ofInt n).WellFormed where
  whole := Decimal.isWhole_toDigits n.natAbs
  decimals _ h := nomatch h
  power_ne_nil _ _ h := nomatch h
  power _ _ h := nomatch h

theorem Numeral.wellFormed_ofFloat (x : Float) : (ofFloat x).WellFormed where
  whole := (Decimal.wellFormed_layStored x).whole
  decimals := (Decimal.wellFormed_layStored x).decimals
  power_ne_nil sign digits h := by
    obtain ⟨p, -, hp⟩ := Option.map_eq_some_iff.mp h
    cases hp
    exact Nat.toDigits_ne_nil
  power sign digits h := by
    obtain ⟨p, -, hp⟩ := Option.map_eq_some_iff.mp h
    cases hp
    exact fun c => Decimal.isDigit_of_mem_toDigits

/-- The decimals of a number with their point. -/
def Numeral.decimalsText (decimals : List Char) : List Char :=
  if decimals.isEmpty then [] else '.' :: decimals

/-- The power of a number with its mark. -/
def Numeral.powerText : Option (PowerSign × List Char) → List Char
  | none => []
  | some (sign, digits) => 'e' :: (signText sign ++ digits)

/-- The characters of a number after its sign. -/
def Numeral.magnitudeText (n : Numeral) : List Char :=
  n.whole ++ (decimalsText n.decimals ++ powerText n.power)

theorem Numeral.write_eq (n : Numeral) :
    n.write = (if n.negative then ['-'] else []) ++ n.magnitudeText := by
  rw [magnitudeText, ← List.append_assoc, ← List.append_assoc]
  rfl

/-- Whether no number goes on with what follows. -/
def IsClosed (rest : Source) : Prop :=
  ∀ c, rest.head? = some (some c) → c.isDigit = false ∧ c ≠ '.' ∧ c ≠ 'e' ∧ c ≠ 'E'

namespace Token

/-- Digits are read to their end. -/
theorem digits_append {ds : List Char} (h : ∀ c ∈ ds, c.isDigit = true) {rest : Source}
    (hrest : ∀ c, rest.head? = some (some c) → c.isDigit = false) :
    digits (sourceOf ds ++ rest) = (ds, rest) := by
  induction ds with
  | nil =>
    show digits rest = _
    match rest with
    | [] | none :: rest => rfl
    | some c :: rest => rw [digits, hrest c rfl, if_neg Bool.false_ne_true]
  | cons d ds ih =>
    rw [sourceOf_cons, List.cons_append, digits, h d List.mem_cons_self, if_pos rfl,
      ih fun c hc => h c (List.mem_cons_of_mem d hc)]

/-- The digits in front of the point are read. -/
theorem readWhole_append {ds : List Char} (h : Decimal.IsWhole ds) {rest : Source}
    (hrest : ∀ c, rest.head? = some (some c) → c.isDigit = false) :
    readWhole (sourceOf ds ++ rest) = some (ds, rest) := by
  obtain ⟨d, ds, rfl⟩ := List.exists_cons_of_ne_nil h.ne_nil
  rw [readWhole, digits_append h.isDigit hrest]
  -- a zero in front is the only digit, so the number is not refused for it
  have hzero : (d = '0' && !ds.isEmpty) = false := by
    by_cases hd : d = '0'
    · subst hd
      obtain rfl : ds = [] := List.length_eq_zero_iff.mp (Nat.succ.inj (h.zero rfl))
      rfl
    · simp [hd]
  simp only [hzero, Bool.false_eq_true, if_false]

/-- The digits behind the point are read, and nothing if there are none. -/
theorem readDecimals_append {ds : List Char} (h : ∀ c ∈ ds, c.isDigit = true) {rest : Source}
    (hrest : ∀ c, rest.head? = some (some c) → c.isDigit = false ∧ c ≠ '.') :
    readDecimals (sourceOf (Numeral.decimalsText ds) ++ rest) = some (ds, rest) := by
  cases ds with
  | nil =>
    show readDecimals rest = _
    rw [readDecimals]
    rintro r rfl
    exact (hrest '.' rfl).2 rfl
  | cons d ds =>
    show readDecimals (some '.' :: (sourceOf (d :: ds) ++ rest)) = _
    rw [readDecimals, digits_append h fun c hc => (hrest c hc).1]

/-- The sign of a power is read in front of a digit. -/
theorem readSign_append (sign : PowerSign) {d : Char} (h : d.isDigit = true) (rest : Source) :
    readSign (sourceOf (Numeral.signText sign) ++ some d :: rest) = (sign, some d :: rest) := by
  cases sign with
  | plus => rfl
  | minus => rfl
  | bare =>
    show readSign (some d :: rest) = _
    rw [readSign]
    · rintro r ⟨⟩
      cases h
    · rintro r ⟨⟩
      cases h

/-- A power is read, and nothing if there is none. -/
theorem readPower_append {n : Numeral} (h : n.WellFormed) {rest : Source} (hrest : IsClosed rest) :
    readPower (sourceOf (Numeral.powerText n.power) ++ rest) = some (n.power, rest) := by
  cases hpower : n.power with
  | none =>
    show readPower rest = _
    match rest, hrest with
    | [], _ | none :: rest, _ => rfl
    | some c :: rest, hrest =>
      -- a number that is closed is not followed by the mark of a power
      obtain ⟨-, -, he, hE⟩ := hrest c rfl
      rw [readPower, if_neg (by simp [he, hE])]
  | some power =>
    obtain ⟨sign, ds⟩ := power
    obtain ⟨d, ds, rfl⟩ := List.exists_cons_of_ne_nil (h.power_ne_nil sign ds hpower)
    have hdigits := h.power sign (d :: ds) hpower
    have hread := digits_append hdigits fun c hc => (hrest c hc).1
    show readPower (some 'e' :: (sourceOf (Numeral.signText sign ++ d :: ds) ++ rest)) = _
    have hsign : readSign (sourceOf (Numeral.signText sign) ++ (sourceOf (d :: ds) ++ rest)) =
        (sign, sourceOf (d :: ds) ++ rest) :=
      readSign_append sign (hdigits d List.mem_cons_self) (sourceOf ds ++ rest)
    rw [readPower, if_pos (by decide), sourceOf_append, List.append_assoc, hsign]
    simp only [hread]

/-- Behind the decimals of a number stands its power or what closes it. -/
theorem head?_powerText (power : Option (PowerSign × List Char)) {rest : Source}
    (hrest : IsClosed rest) :
    ∀ c, (sourceOf (Numeral.powerText power) ++ rest).head? = some (some c) →
      c.isDigit = false ∧ c ≠ '.' := by
  cases power with
  | none => exact fun c hc => ⟨(hrest c hc).1, (hrest c hc).2.1⟩
  | some power =>
    rintro c ⟨⟩
    decide

/-- Behind the whole digits of a number stands no digit. -/
theorem head?_decimalsText (decimals : List Char) {rest : Source}
    (hrest : ∀ c, rest.head? = some (some c) → c.isDigit = false ∧ c ≠ '.') :
    ∀ c, (sourceOf (Numeral.decimalsText decimals) ++ rest).head? = some (some c) →
      c.isDigit = false := by
  cases decimals with
  | nil => exact fun c hc => (hrest c hc).1
  | cons d ds =>
    rintro c ⟨⟩
    decide

/-- **A number is read back** after its sign, if it is closed. -/
theorem readMagnitude_append {n : Numeral} (h : n.WellFormed) {rest : Source}
    (hrest : IsClosed rest) :
    readMagnitude n.negative (sourceOf n.magnitudeText ++ rest) = some (.number n, rest) := by
  -- from behind: what closes the number closes its power, and so on to the front
  have hpower := head?_powerText n.power hrest
  have hdecimals := head?_decimalsText n.decimals hpower
  rw [Numeral.magnitudeText, sourceOf_append, sourceOf_append, List.append_assoc, List.append_assoc]
  simp only [readMagnitude, readWhole_append h.whole hdecimals,
    readDecimals_append h.decimals hpower, readPower_append h hrest, Option.bind_eq_bind,
    Option.bind_some]
  rfl

/-! ### One token -/

/-- Whether a token is written as the grammar wants it. -/
inductive WellFormed : Token → Prop where
  | openList : WellFormed .openList
  | closeList : WellFormed .closeList
  | openObject : WellFormed .openObject
  | closeObject : WellFormed .closeObject
  | comma : WellFormed .comma
  | colon : WellFormed .colon
  | null : WellFormed .null
  | bool (b : Bool) : WellFormed (.bool b)
  /-- a number in the grammar -/
  | number {n : Numeral} (h : n.WellFormed) : WellFormed (.number n)
  /-- a text without faults -/
  | text (s : String) : WellFormed (.text (Literal.ofString s))

/-- Whether a token is a number. -/
def isNumber : Token → Bool
  | .number _ => true
  | _ => false

theorem read_digit {d : Char} (h : d.isDigit = true) (rest : Source) :
    read (some d :: rest) = readMagnitude false (some d :: rest) := by
  -- every other way to read a token starts with a character that is no digit
  rw [read] <;> rintro _ ⟨⟩ <;> exact absurd h (by decide)

/-- **A token is read back** with anything behind it, a number if it is closed. -/
theorem read_write {t : Token} (h : t.WellFormed) {rest : Source}
    (hrest : t.isNumber = true → IsClosed rest) :
    read (sourceOf t.write ++ rest) = some (t, rest) := by
  cases h with
  | openList | closeList | openObject | closeObject | comma | colon | null => rfl
  | bool b => cases b <;> rfl
  | text s =>
    have hwrite : (text (Literal.ofString s)).write =
        '"' :: (s.toList.flatMap Literal.writeChar ++ ['"']) := by
      rw [write, Literal.write, Literal.ofString, List.flatMap_map]
      rfl
    -- between quotes the text is read back whatever stands behind the second one
    rw [hwrite, sourceOf_cons, sourceOf_append, List.cons_append, List.append_assoc]
    show (Literal.read (_ ++ some '"' :: rest)).map _ = _
    rw [Literal.read_ofString]
    rfl
  | @number n h =>
    -- a number has no end of its own, so what follows has to close it
    have hmagnitude := readMagnitude_append h (hrest rfl)
    show read (sourceOf n.write ++ rest) = _
    rw [Numeral.write_eq]
    cases hsign : n.negative with
    | true =>
      rw [hsign] at hmagnitude
      exact hmagnitude
    | false =>
      rw [hsign] at hmagnitude
      -- without a sign it is its first digit that shows that it is a number
      obtain ⟨d, ds, hwhole⟩ := List.exists_cons_of_ne_nil h.whole.ne_nil
      have hd : d.isDigit = true := h.whole.isDigit d (hwhole ▸ List.mem_cons_self)
      have htext : sourceOf n.magnitudeText ++ rest =
          some d :: (sourceOf (ds ++ (Numeral.decimalsText n.decimals ++
            Numeral.powerText n.power)) ++ rest) := by
        rw [Numeral.magnitudeText, hwhole]
        rfl
      show read (sourceOf n.magnitudeText ++ rest) = _
      rw [htext, read_digit hd, ← htext]
      exact hmagnitude

/-! ### All tokens -/

/-- A token starts with a character that is no blank. -/
theorem exists_write_eq_cons {t : Token} (h : t.WellFormed) :
    ∃ c cs, t.write = c :: cs ∧ isBlank c = false := by
  cases h with
  | openList | closeList | openObject | closeObject | comma | colon | null =>
    exact ⟨_, _, rfl, by decide⟩
  | bool b => cases b <;> exact ⟨_, _, rfl, by decide⟩
  | text s => exact ⟨_, _, rfl, by decide⟩
  | @number n h =>
    obtain ⟨d, ds, hwhole⟩ := List.exists_cons_of_ne_nil h.whole.ne_nil
    have hd : d.isDigit = true := h.whole.isDigit d (hwhole ▸ List.mem_cons_self)
    -- a number starts with its sign or with a digit
    show ∃ c cs, n.write = c :: cs ∧ isBlank c = false
    rw [Numeral.write_eq, Numeral.magnitudeText, hwhole]
    cases n.negative with
    | true => exact ⟨_, _, rfl, by decide⟩
    | false =>
      refine ⟨d, _, rfl, ?_⟩
      have hne : ∀ c : Char, c.isDigit = false → d ≠ c := fun c hc heq => by
        rw [← heq, hd] at hc
        cases hc
      simp [isBlank, hne ' ' (by decide), hne '\t' (by decide), hne '\n' (by decide),
        hne '\r' (by decide)]

/-- Whether some tokens can be told apart once they are written: each is written as the grammar
wants it, and what follows a number closes it. -/
def Readable : List Token → Prop
  | [] => True
  | t :: ts =>
    t.WellFormed ∧ (t.isNumber = true → IsClosed (sourceOf (ts.flatMap write))) ∧ Readable ts

/-- There are no more tokens than characters. -/
theorem length_le_of_readable {ts : List Token} (h : Readable ts) :
    ts.length ≤ (ts.flatMap write).length := by
  induction ts with
  | nil => exact Nat.le_refl 0
  | cons t ts ih =>
    obtain ⟨c, cs, hwrite, -⟩ := exists_write_eq_cons h.1
    have hrest := ih h.2.2
    rw [List.flatMap_cons, hwrite, List.length_append, List.length_cons, List.length_cons]
    omega

/-- As many steps as there are tokens read them. -/
theorem readAll_write {ts : List Token} (h : Readable ts) {fuel : Nat} (hfuel : ts.length ≤ fuel) :
    readAll fuel (sourceOf (ts.flatMap write)) = some ts := by
  -- each step takes one token off, and its first character is no blank
  induction ts generalizing fuel with
  | nil => rw [List.flatMap_nil, sourceOf, List.map_nil, readAll]
  | cons t ts ih =>
    obtain ⟨hwell, hclosed, hrest⟩ := h
    obtain ⟨c, cs, hwrite, hblank⟩ := exists_write_eq_cons hwell
    have hread := read_write hwell hclosed
    rw [List.length_cons] at hfuel
    obtain ⟨fuel, rfl⟩ := Nat.exists_eq_succ_of_ne_zero (show fuel ≠ 0 by omega)
    rw [List.flatMap_cons, sourceOf_append]
    rw [hwrite, sourceOf_cons, List.cons_append] at hread ⊢
    rw [readAll, Option.any_some, hblank, if_neg Bool.false_ne_true, hread]
    simp only
    rw [ih hrest (by omega)]
    rfl

/-- **Tokens are read back** from what they are written as. -/
theorem all_write {ts : List Token} (h : Readable ts) :
    all (sourceOf (ts.flatMap write)) = some ts := by
  refine readAll_write h ?_
  rw [sourceOf, List.length_map]
  exact length_le_of_readable h

end Token

end Itinerary.Json
