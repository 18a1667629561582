import Itinerary.Proofs.Text.Blank
import Itinerary.Proofs.Text.Utf8
import Itinerary.Text.Base64

/-!
# Bytes behind base64

What `encode` writes, `decode` reads. Three bytes make four symbols and a whole group; what is left
at the end makes two symbols or three, never one, so the last group is never alone and never
padded. `decodeGroups_symbols` follows the groups as they are written.
-/

namespace Itinerary.Text.Base64

/-! ### Symbols -/

/-- The byte of the symbol for a value. -/
def symbolByte (n : Nat) : UInt8 := (symbol n).toNat.toUInt8

theorem symbolByte_ne_pad {n : Nat} (h : n < 64) : symbolByte n ≠ pad := by
  have all : ∀ k : Fin 64, symbolByte k.val ≠ pad := by decide
  exact all ⟨n, h⟩

theorem valueAt_symbolByte {n : Nat} (h : n < 64) (offset : Nat) :
    valueAt offset (symbolByte n) = .ok n := by
  rw [valueAt, symbolByte, value?_symbol h]

theorem lastValues_cons {n : Nat} (h : n < 64) (start i : Nat) (rest : List UInt8) :
    lastValues start i (symbolByte n :: rest) =
      (lastValues start (i + 1) rest).map (n :: ·) := by
  rw [lastValues, if_neg (symbolByte_ne_pad h), valueAt_symbolByte h]
  rfl

/-! ### Bytes -/

theorem firstByte_eq (a : UInt8) {k : Nat} (h : k < 16) :
    firstByte (a.toNat / 4) (a.toNat % 4 * 16 + k) = a := by
  rw [firstByte, show a.toNat / 4 * 4 + (a.toNat % 4 * 16 + k) / 16 = a.toNat by omega]
  exact UInt8.ofNat_toNat

theorem secondByte_eq (b : UInt8) (j : Nat) {k : Nat} (h : k < 4) :
    secondByte (j * 16 + b.toNat / 16) (b.toNat % 16 * 4 + k) = b := by
  have hb := b.toNat_lt
  rw [secondByte, show (j * 16 + b.toNat / 16) % 16 * 16 + (b.toNat % 16 * 4 + k) / 4 = b.toNat by
    omega]
  exact UInt8.ofNat_toNat

theorem thirdByte_eq (c : UInt8) (j : Nat) :
    thirdByte (j * 4 + c.toNat / 64) (c.toNat % 64) = c := by
  have hc := c.toNat_lt
  rw [thirdByte, show (j * 4 + c.toNat / 64) % 4 * 64 + c.toNat % 64 = c.toNat by omega]
  exact UInt8.ofNat_toNat

/-! ### Groups -/

/-- The symbols of some bytes, as bytes. -/
def symbols (bytes : List UInt8) : List UInt8 := (encodeChars bytes).map fun c => c.toNat.toUInt8

theorem decodeLast_two {x y : Nat} (hx : x < 64) (hy : y < 64) (h : y % 16 = 0) (start : Nat) :
    decodeLast start [symbolByte x, symbolByte y] = .ok [firstByte x y] := by
  rw [decodeLast, lastValues_cons hx, lastValues_cons hy]
  exact if_pos h

/-- A last group of three symbols holds two bytes. -/
theorem decodeLast_three {x y z : Nat} (hx : x < 64) (hy : y < 64) (hz : z < 64) (h : z % 4 = 0)
    (start : Nat) :
    decodeLast start [symbolByte x, symbolByte y, symbolByte z] =
      .ok [firstByte x y, secondByte y z] := by
  rw [decodeLast, lastValues_cons hx, lastValues_cons hy, lastValues_cons hz]
  exact if_pos h

/-- A whole group holds three bytes, also if it is the last. -/
theorem decodeGroups_four {x y z w : Nat} (hx : x < 64) (hy : y < 64) (hz : z < 64) (hw : w < 64)
    (start : Nat) {rest : List UInt8} {bytes : List UInt8}
    (h : decodeGroups (start + 4) rest = .ok bytes) :
    decodeGroups start
        (symbolByte x :: symbolByte y :: symbolByte z :: symbolByte w :: rest) =
      .ok (firstByte x y :: secondByte y z :: thirdByte z w :: bytes) := by
  cases rest with
  | nil =>
    -- the last group is read by a function of its own, which comes to the same
    obtain rfl : [] = bytes := Except.ok.inj h
    rw [decodeGroups, decodeLast, lastValues_cons hx, lastValues_cons hy, lastValues_cons hz,
      lastValues_cons hw]
    · rfl
    · rintro _ _ _ _ _ _ ⟨⟩
  | cons e rest =>
    rw [decodeGroups, valueAt_symbolByte hx, valueAt_symbolByte hy, valueAt_symbolByte hz,
      valueAt_symbolByte hw, h]
    rfl

/-- What is written in groups is read in groups. -/
theorem decodeGroups_symbols (start : Nat) (bytes : List UInt8) :
    decodeGroups start (symbols bytes) = .ok bytes := by
  -- along the encoder: nothing, one byte, two bytes, or three and what follows them
  induction bytes using encodeChars.induct generalizing start with
  | case1 => rfl
  | case2 a =>
    have ha := a.toNat_lt
    show decodeLast start [symbolByte (a.toNat / 4), symbolByte (a.toNat % 4 * 16 + 0)] = _
    rw [decodeLast_two (by omega) (by omega) (by omega), firstByte_eq a (by omega)]
  | case3 a b =>
    have ha := a.toNat_lt
    have hb := b.toNat_lt
    show decodeLast start [symbolByte (a.toNat / 4), symbolByte (a.toNat % 4 * 16 + b.toNat / 16),
      symbolByte (b.toNat % 16 * 4 + 0)] = _
    rw [decodeLast_three (by omega) (by omega) (by omega) (by omega), firstByte_eq a (by omega),
      secondByte_eq b _ (by omega)]
  | case4 a b c rest ih =>
    have ha := a.toNat_lt
    have hb := b.toNat_lt
    have hc := c.toNat_lt
    show decodeGroups start (symbolByte (a.toNat / 4) ::
      symbolByte (a.toNat % 4 * 16 + b.toNat / 16) ::
      symbolByte (b.toNat % 16 * 4 + c.toNat / 64) :: symbolByte (c.toNat % 64) :: symbols rest) = _
    rw [decodeGroups_four (by omega) (by omega) (by omega) (by omega) start (ih (start + 4)),
      firstByte_eq a (by omega), secondByte_eq b _ (by omega), thirdByte_eq c]

/-! ### Texts -/

/-- No symbol stands alone in its group. -/
theorem length_encodeChars (bytes : List UInt8) : (encodeChars bytes).length % 4 ≠ 1 := by
  induction bytes using encodeChars.induct with
  | case1 => decide
  | case2 a => exact (by decide : 2 % 4 ≠ 1)
  | case3 a b => exact (by decide : 3 % 4 ≠ 1)
  | case4 a b c rest ih =>
    rw [encodeChars, List.length_cons, List.length_cons, List.length_cons, List.length_cons]
    omega

/-- What holds of every symbol holds of every character of a base64 text. -/
theorem forall_mem_encodeChars {P : Char → Prop} (h : ∀ k : Fin 64, P (symbol k))
    {bytes : List UInt8} {c : Char} (hc : c ∈ encodeChars bytes) : P c := by
  have hsymbol : ∀ n, n < 64 → P (symbol n) := fun n hn => h ⟨n, hn⟩
  -- three bytes at a time, each of which is below 256, so every index is below 64
  induction bytes using encodeChars.induct with
  | case1 => exact absurd hc List.not_mem_nil
  | case2 a =>
    have ha := a.toNat_lt
    rw [encodeChars] at hc
    simp only [List.mem_cons, List.not_mem_nil, or_false] at hc
    rcases hc with rfl | rfl <;> exact hsymbol _ (by omega)
  | case3 a b =>
    have ha := a.toNat_lt
    have hb := b.toNat_lt
    rw [encodeChars] at hc
    simp only [List.mem_cons, List.not_mem_nil, or_false] at hc
    rcases hc with rfl | rfl | rfl <;> exact hsymbol _ (by omega)
  | case4 a b c rest ih =>
    have ha := a.toNat_lt
    have hb := b.toNat_lt
    have hc' := c.toNat_lt
    rw [encodeChars] at hc
    simp only [List.mem_cons] at hc
    rcases hc with rfl | rfl | rfl | rfl | hc
    · exact hsymbol _ (by omega)
    · exact hsymbol _ (by omega)
    · exact hsymbol _ (by omega)
    · exact hsymbol _ (by omega)
    · exact ih hc

theorem toNat_lt_of_mem_encodeChars {bytes : List UInt8} {c : Char} (h : c ∈ encodeChars bytes) :
    c.toNat < 0x80 :=
  forall_mem_encodeChars (P := fun c => c.toNat < 0x80) (by decide) h

/-- **Base64 is read back.** The text of some bytes is decoded to the bytes. -/
theorem decode_encode (bytes : List UInt8) : decode (Utf8.encode (encode bytes)) = .ok bytes := by
  have hsymbols : Utf8.encode (encode bytes) = symbols bytes := by
    rw [Utf8.encode, encode, String.toList_ofList,
      Utf8.encodeChars_of_forall_lt fun c => toNat_lt_of_mem_encodeChars]
    rfl
  -- the check for a symbol that stands alone finds none
  have hlone : loneLast? (symbols bytes) = none := by
    rw [loneLast?, symbols, List.length_map, if_neg (length_encodeChars bytes)]
  rw [hsymbols, decode, hlone]
  exact decodeGroups_symbols 0 bytes

theorem trim_encode (bytes : List UInt8) : trim (encode bytes) = encode bytes := by
  refine trim_of_forall fun c hc => ?_
  rw [encode, String.toList_ofList] at hc
  exact forall_mem_encodeChars (P := fun c => isBlank c = false) (by decide) hc

end Itinerary.Text.Base64
