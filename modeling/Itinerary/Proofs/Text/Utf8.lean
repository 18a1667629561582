import Itinerary.Text.Utf8

/-!
# Bytes that are read back

What is written in UTF-8 is read back as it was: no character has a fault among its bytes, and the
bytes of one never run into those of the next. `scan_encodeChar_append` is the statement for one
character with anything behind it, by the number of its bytes, and the whole text follows from left
to right. ASCII is its own encoding, one byte for each character.
-/

namespace Itinerary.Text.Utf8

/-! ### Bytes -/

theorem toNat_toUInt8 {n : Nat} (h : n < 256) : n.toUInt8.toNat = n := by
  rw [Nat.toUInt8, UInt8.toNat_ofNat']
  exact Nat.mod_eq_of_lt h

/-- A byte within the range of the next one is taken. -/
theorem finish_succ {n : Nat} (due acc : Nat) {range : Nat × Nat} (rest : List UInt8)
    (hn : n < 256) (hlow : range.1 ≤ n) (hhigh : n ≤ range.2) :
    finish (due + 1) acc range (n.toUInt8 :: rest) =
      finish due (acc * 0x40 + n % 0x40) (0x80, 0xBF) rest := by
  have hrange : inRange range n.toUInt8 = true := by
    rw [inRange, toNat_toUInt8 hn, Bool.and_eq_true, decide_eq_true_eq, decide_eq_true_eq]
    exact ⟨hlow, hhigh⟩
  rw [finish, if_pos hrange, payload, toNat_toUInt8 hn]

theorem finish_zero (c : Char) {acc : Nat} (h : acc = c.toNat) (range : Nat × Nat)
    (rest : List UInt8) : finish 0 acc range rest = (some c, rest) := by
  rw [finish, h, Char.ofNat_toNat]

/-- A first byte that starts a character of several bytes. -/
theorem next_of_lead {n due bits : Nat} (hn : n < 256) (h : lead n = some (due, bits))
    (rest : List UInt8) :
    next n.toUInt8 rest = finish due bits (secondRange n) rest := by
  -- only bytes above ASCII lead
  have hlow : ¬ n < 0x80 := by
    intro hlow
    rw [lead] at h
    simp only [Bool.and_eq_true, decide_eq_true_eq] at h
    split at h
    · omega
    · split at h
      · omega
      · split at h
        · omega
        · cases h
  rw [next, toNat_toUInt8 hn, if_neg hlow, h]

/-- A second byte is in its range if it continues a character and, behind the four first bytes that
ask for more, lies on the right side of what they ask. -/
theorem mem_secondRange (first second : Nat) (hlow : 0x80 ≤ second) (hhigh : second ≤ 0xBF)
    (hE0 : first = 0xE0 → 0xA0 ≤ second) (hED : first = 0xED → second ≤ 0x9F)
    (hF0 : first = 0xF0 → 0x90 ≤ second) (hF4 : first = 0xF4 → second ≤ 0x8F) :
    (secondRange first).1 ≤ second ∧ second ≤ (secondRange first).2 := by
  rw [secondRange]
  split
  · exact ⟨hE0 ‹_›, hhigh⟩
  · split
    · exact ⟨hlow, hED ‹_›⟩
    · split
      · exact ⟨hF0 ‹_›, hhigh⟩
      · split
        · exact ⟨hlow, hF4 ‹_›⟩
        · exact ⟨hlow, hhigh⟩

/-! ### Characters -/

/-- **The bytes of a character are read back**, whatever follows them. -/
theorem scan_encodeChar_append (c : Char) (rest : List UInt8) :
    scan (encodeChar c ++ rest) = some c :: scan rest := by
  -- no character is half of a surrogate pair
  have hc : c.toNat < 0xD800 ∨ 0xDFFF < c.toNat ∧ c.toNat < 0x110000 := c.valid
  rw [encodeChar]
  by_cases h₁ : c.toNat < 0x80
  · -- one byte
    simp only [if_pos h₁, List.cons_append, List.nil_append]
    rw [scan, next, toNat_toUInt8 (by omega), if_pos h₁, Char.ofNat_toNat]
  by_cases h₂ : c.toNat < 0x800
  · -- two bytes
    have hlead : lead (0xC0 + c.toNat / 0x40) = some (1, c.toNat / 0x40) := by
      rw [lead, if_pos (by simp; omega)]
      congr 2
      omega
    obtain ⟨hlow, hhigh⟩ := mem_secondRange (0xC0 + c.toNat / 0x40) (0x80 + c.toNat % 0x40)
      (by omega) (by omega) (by omega) (by omega) (by omega) (by omega)
    simp only [if_neg h₁, if_pos h₂, List.cons_append, List.nil_append]
    rw [scan, next_of_lead (by omega) hlead, finish_succ _ _ _ (by omega) hlow hhigh,
      finish_zero c (by omega)]
  by_cases h₃ : c.toNat < 0x10000
  · -- three bytes; the second one keeps clear of surrogates and of what two bytes would do for
    have hlead : lead (0xE0 + c.toNat / 0x1000) = some (2, c.toNat / 0x1000) := by
      rw [lead, if_neg (by simp; omega), if_pos (by simp; omega)]
      congr 2
      omega
    obtain ⟨hlow, hhigh⟩ := mem_secondRange (0xE0 + c.toNat / 0x1000)
      (0x80 + c.toNat / 0x40 % 0x40) (by omega) (by omega) (by omega) (by omega) (by omega)
      (by omega)
    simp only [if_neg h₁, if_neg h₂, if_pos h₃, List.cons_append, List.nil_append]
    rw [scan, next_of_lead (by omega) hlead, finish_succ _ _ _ (by omega) hlow hhigh,
      finish_succ _ _ _ (by omega) (by omega) (by omega), finish_zero c (by omega)]
  · -- four bytes; the second one keeps within the range of characters
    have hlead : lead (0xF0 + c.toNat / 0x40000) = some (3, c.toNat / 0x40000) := by
      rw [lead, if_neg (by simp; omega), if_neg (by simp; omega), if_pos (by simp; omega)]
      congr 2
      omega
    obtain ⟨hlow, hhigh⟩ := mem_secondRange (0xF0 + c.toNat / 0x40000)
      (0x80 + c.toNat / 0x1000 % 0x40) (by omega) (by omega) (by omega) (by omega) (by omega)
      (by omega)
    simp only [if_neg h₁, if_neg h₂, if_neg h₃, List.cons_append, List.nil_append]
    rw [scan, next_of_lead (by omega) hlead, finish_succ _ _ _ (by omega) hlow hhigh,
      finish_succ _ _ _ (by omega) (by omega) (by omega),
      finish_succ _ _ _ (by omega) (by omega) (by omega), finish_zero c (by omega)]

theorem encodeChar_of_lt {c : Char} (h : c.toNat < 0x80) : encodeChar c = [c.toNat.toUInt8] := by
  simp only [encodeChar, if_pos h]

/-! ### Texts -/

theorem encodeChars_of_forall_lt {cs : List Char} (h : ∀ c ∈ cs, c.toNat < 0x80) :
    encodeChars cs = cs.map fun c => c.toNat.toUInt8 := by
  induction cs with
  | nil => rfl
  | cons c rest ih =>
    rw [encodeChars, List.flatMap_cons, encodeChar_of_lt (h c List.mem_cons_self), List.map_cons]
    exact congrArg _ (ih fun d hd => h d (List.mem_cons_of_mem c hd))

/-- The bytes of some characters are read back as the characters. -/
@[simp] theorem scan_encodeChars (cs : List Char) : scan (encodeChars cs) = cs.map some := by
  induction cs with
  | nil => rw [encodeChars, List.flatMap_nil, scan, List.map_nil]
  | cons c rest ih =>
    rw [encodeChars, List.flatMap_cons, scan_encodeChar_append, List.map_cons]
    exact congrArg _ ih

@[simp] theorem scan_encode (s : String) : scan (encode s) = s.toList.map some :=
  scan_encodeChars s.toList

/-- Nothing is lost where faults are shown, if there are none. -/
@[simp] theorem decodeLossy_encode (s : String) : decodeLossy (encode s) = s := by
  rw [decodeLossy, scan_encode, List.map_map]
  show String.ofList (s.toList.map fun c => c) = s
  rw [List.map_id', String.ofList_toList]

/-! ### Order -/

/-- Of two lists of bytes that start alike the one with the lesser rest is less. -/
theorem cons_lt_cons {n m : Nat} {as bs : List UInt8} (hm : m < 256) (hle : n ≤ m)
    (h : n = m → as < bs) : n.toUInt8 :: as < m.toUInt8 :: bs := by
  rw [List.cons_lt_cons_iff]
  rcases Nat.lt_or_eq_of_le hle with hlt | rfl
  · refine .inl (UInt8.lt_iff_toNat_lt.mpr ?_)
    rwa [toNat_toUInt8 (by omega), toNat_toUInt8 hm]
  · exact .inr ⟨rfl, h rfl⟩

/-- **A lesser character has lesser bytes**, whatever follows either. -/
theorem encodeChar_append_lt {c d : Char} (h : c.toNat < d.toNat) (as bs : List UInt8) :
    encodeChar c ++ as < encodeChar d ++ bs := by
  have hd : d.toNat < 0x110000 := by
    have hvalid : d.toNat < 0xD800 ∨ 0xDFFF < d.toNat ∧ d.toNat < 0x110000 := d.valid
    omega
  rw [encodeChar, encodeChar]
  -- by the length of the greater one: a shorter encoding has a lesser first byte, and of two of one
  -- length the first byte that differs decides
  by_cases h₁ : d.toNat < 0x80
  · -- one byte for each
    simp only [if_pos h₁, if_pos (Nat.lt_trans h h₁), List.cons_append, List.nil_append]
    exact cons_lt_cons (by omega) (by omega) fun heq => by omega
  by_cases h₂ : d.toNat < 0x800
  · simp only [if_neg h₁, if_pos h₂, if_pos (Nat.lt_trans h h₂)]
    split
    · exact cons_lt_cons (by omega) (by omega) fun heq => by omega
    · -- both have two bytes
      refine cons_lt_cons (by omega) (by omega) fun hfirst => ?_
      exact cons_lt_cons (by omega) (by omega) fun heq => by omega
  by_cases h₃ : d.toNat < 0x10000
  · simp only [if_neg h₁, if_neg h₂, if_pos h₃, if_pos (Nat.lt_trans h h₃)]
    split
    · exact cons_lt_cons (by omega) (by omega) fun heq => by omega
    · split
      · exact cons_lt_cons (by omega) (by omega) fun heq => by omega
      · -- both have three
        refine cons_lt_cons (by omega) (by omega) fun hfirst => ?_
        refine cons_lt_cons (by omega) (by omega) fun hsecond => ?_
        exact cons_lt_cons (by omega) (by omega) fun heq => by omega
  · simp only [if_neg h₁, if_neg h₂, if_neg h₃]
    split
    · exact cons_lt_cons (by omega) (by omega) fun heq => by omega
    · split
      · exact cons_lt_cons (by omega) (by omega) fun heq => by omega
      · split
        · exact cons_lt_cons (by omega) (by omega) fun heq => by omega
        · -- both have four
          refine cons_lt_cons (by omega) (by omega) fun hfirst => ?_
          refine cons_lt_cons (by omega) (by omega) fun hsecond => ?_
          refine cons_lt_cons (by omega) (by omega) fun hthird => ?_
          exact cons_lt_cons (by omega) (by omega) fun heq => by omega

theorem encodeChars_lt_encodeChars {cs ds : List Char} (h : cs < ds) :
    encodeChars cs < encodeChars ds := by
  induction cs generalizing ds with
  | nil =>
    cases ds with
    | nil => exact absurd h (List.lt_irrefl _)
    | cons d ds =>
      -- a character has a byte at least
      obtain ⟨b, bs, hbytes⟩ : ∃ b bs, encodeChar d = b :: bs := by
        rw [encodeChar]
        split
        · exact ⟨_, _, rfl⟩
        · split
          · exact ⟨_, _, rfl⟩
          · split <;> exact ⟨_, _, rfl⟩
      rw [encodeChars, encodeChars, List.flatMap_nil, List.flatMap_cons, hbytes]
      exact List.nil_lt_cons _ _
  | cons c cs ih =>
    cases ds with
    | nil => exact absurd h (List.not_lt_nil _)
    | cons d ds =>
      rw [encodeChars, encodeChars, List.flatMap_cons, List.flatMap_cons]
      rcases List.cons_lt_cons_iff.mp h with hlt | ⟨rfl, hrest⟩
      · exact encodeChar_append_lt (UInt32.lt_iff_toNat_lt.mp hlt) _ _
      · exact List.append_left_lt (ih hrest)

/-- **Texts and their bytes are in one order.** -/
theorem encode_lt_encode {s t : String} (h : s < t) : encode s < encode t :=
  encodeChars_lt_encodeChars (String.lt_iff.mp h)

end Itinerary.Text.Utf8
