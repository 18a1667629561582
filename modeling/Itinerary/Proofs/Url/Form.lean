import Itinerary.Proofs.Text.Utf8
import Itinerary.Url

/-!
# Parameters that are read back

The parameters written into a query are read off it as they were. A part of a parameter is written
in characters of ASCII of which none is `&` or `=`, so the joints cut a query where they joined it
(`decode_encode`), and within a part every escape stands for its byte (`decodePart_encodePart`).
Parameters that are added behind a query leave those in front of them as they are.
-/

namespace Itinerary.Url

open Text

/-! ### Escapes -/

/-- A character of ASCII as its byte. -/
def byteOf (c : Char) : UInt8 := c.toNat.toUInt8

theorem Percent.digit?_upper {n : Nat} (h : n < 16) :
    Percent.digit? (byteOf (Hex.upper n)) = some n := by
  have all : ∀ k : Fin 16, Percent.digit? (byteOf (Hex.upper k.val)) = some k.val := by decide
  exact all ⟨n, h⟩

/-- An escape is read as its byte. -/
theorem Percent.decode_encodeByte (b : UInt8) (rest : List UInt8) :
    Percent.decode ((Percent.encodeByte b).map byteOf ++ rest) = b :: Percent.decode rest := by
  have hb := b.toNat_lt
  rw [Percent.encodeByte, List.map_cons, List.map_cons, List.map_cons, List.map_nil,
    List.cons_append, List.cons_append, List.cons_append, List.nil_append, Percent.decode,
    if_pos (by decide), Percent.digit?_upper (by omega), Percent.digit?_upper (by omega)]
  simp only
  rw [show b.toNat / 16 * 16 + b.toNat % 16 = b.toNat by omega]
  exact congrArg (· :: _) UInt8.ofNat_toNat

/-- Escapes are read as their bytes. -/
theorem Percent.decode_encodeBytes (bytes rest : List UInt8) :
    Percent.decode ((bytes.flatMap Percent.encodeByte).map byteOf ++ rest) =
      bytes ++ Percent.decode rest := by
  induction bytes with
  | nil => rfl
  | cons b bytes ih =>
    rw [List.flatMap_cons, List.map_append, List.append_assoc, Percent.decode_encodeByte, ih,
      List.cons_append]

namespace Form

/-! ### What stands in a part -/

/-- Letters and digits lie in ASCII. -/
theorem toNat_of_isAlphanum {c : Char} (h : c.isAlphanum = true) :
    0x30 ≤ c.toNat ∧ c.toNat ≤ 0x7A := by
  have hbounds : ∀ low high : Char, low.val ≤ c.val ∧ c.val ≤ high.val →
      low.toNat ≤ c.toNat ∧ c.toNat ≤ high.toNat := fun _ _ h =>
    ⟨UInt32.le_iff_toNat_le.mp h.1, UInt32.le_iff_toNat_le.mp h.2⟩
  rcases Bool.or_eq_true_iff.mp h with halpha | hdigit
  · rcases Bool.or_eq_true_iff.mp halpha with hupper | hlower
    · have h : 0x41 ≤ c.toNat ∧ c.toNat ≤ 0x5A :=
        hbounds 'A' 'Z' (of_decide_eq_true hupper)
      omega
    · obtain ⟨hlow, hhigh⟩ := Bool.and_eq_true_iff.mp hlower
      have h : 0x61 ≤ c.toNat ∧ c.toNat ≤ 0x7A :=
        hbounds 'a' 'z' ⟨of_decide_eq_true hlow, of_decide_eq_true hhigh⟩
      omega
  · obtain ⟨hlow, hhigh⟩ := Bool.and_eq_true_iff.mp hdigit
    have h : 0x30 ≤ c.toNat ∧ c.toNat ≤ 0x39 :=
      hbounds '0' '9' ⟨of_decide_eq_true hlow, of_decide_eq_true hhigh⟩
    omega

/-- A character that stands for itself lies in ASCII. -/
theorem toNat_of_isPlain {c : Char} (h : isPlain c = true) : 0x2A ≤ c.toNat ∧ c.toNat ≤ 0x7A := by
  simp only [isPlain, Bool.or_eq_true, beq_iff_eq] at h
  -- a letter or a digit, or one of the four signs
  rcases h with (((halphanum | rfl) | rfl) | rfl) | rfl
  · have hc := toNat_of_isAlphanum halphanum
    omega
  all_goals decide

/-- Whether a character may be written in a part: it stands for itself, for a space or in an
escape. -/
def isWritten (c : Char) : Bool := isPlain c || c == '+' || c == '%'

/-- What is written in a part is ASCII without a joint. -/
theorem ne_joint_of_isWritten {c : Char} (h : isWritten c = true) :
    c.toNat < 0x80 ∧ byteOf c ≠ pairMark ∧ byteOf c ≠ valueMark := by
  rw [isWritten, Bool.or_eq_true, Bool.or_eq_true, beq_iff_eq, beq_iff_eq] at h
  rcases h with (h | rfl) | rfl
  · have hc := toNat_of_isPlain h
    have hne : ∀ n : Nat, n < 0x80 → isPlain (Char.ofNat n) = true →
        n.toUInt8 ≠ pairMark ∧ n.toUInt8 ≠ valueMark := by
      decide
    refine ⟨by omega, hne c.toNat (by omega) ?_⟩
    rwa [Char.ofNat_toNat]
  · decide
  · decide

theorem isWritten_of_mem_encodeByte {b : UInt8} {c : Char} (h : c ∈ Percent.encodeByte b) :
    isWritten c = true := by
  have hdigit : ∀ k : Fin 16, isWritten (Hex.upper k.val) = true := by decide
  have hb := b.toNat_lt
  rw [Percent.encodeByte] at h
  simp only [List.mem_cons, List.not_mem_nil, or_false] at h
  rcases h with rfl | rfl | rfl
  · decide
  · exact hdigit ⟨b.toNat / 16, by omega⟩
  · exact hdigit ⟨b.toNat % 16, by omega⟩

theorem isWritten_of_mem_encodePart {s : String} {c : Char} (h : c ∈ encodePart s) :
    isWritten c = true := by
  obtain ⟨d, -, hd⟩ := List.mem_flatMap.mp h
  rw [encodeChar] at hd
  by_cases hspace : d = ' '
  · rw [if_pos hspace, List.mem_singleton] at hd
    subst hd
    decide
  · rw [if_neg hspace, Percent.encodeChar] at hd
    by_cases hplain : isPlain d = true
    · rw [if_pos hplain, List.mem_singleton] at hd
      rw [hd, isWritten, hplain]
      rfl
    · rw [if_neg hplain] at hd
      obtain ⟨b, -, hb⟩ := List.mem_flatMap.mp hd
      exact isWritten_of_mem_encodeByte hb

/-! ### Parts -/

/-- A character that stands for itself is read as itself. -/
theorem byteOf_of_isPlain {c : Char} (h : isPlain c = true) :
    spaced (byteOf c) = byteOf c ∧ byteOf c ≠ Percent.mark ∧ Utf8.encodeChar c = [byteOf c] := by
  have hc := toNat_of_isPlain h
  have hne : ∀ n : Nat, n < 0x80 → isPlain (Char.ofNat n) = true →
      spaced n.toUInt8 = n.toUInt8 ∧ n.toUInt8 ≠ Percent.mark := by
    decide
  obtain ⟨hspaced, hmark⟩ := hne c.toNat (by omega) (by rwa [Char.ofNat_toNat])
  exact ⟨hspaced, hmark, Utf8.encodeChar_of_lt (by omega)⟩

/-- No escape has a `+` in it. -/
theorem spaced_encodeByte (b : UInt8) :
    ((Percent.encodeByte b).map byteOf).map spaced = (Percent.encodeByte b).map byteOf := by
  have hdigit : ∀ k : Fin 16, spaced (byteOf (Hex.upper k.val)) = byteOf (Hex.upper k.val) := by
    decide
  have hb := b.toNat_lt
  have hhigh := hdigit ⟨b.toNat / 16, by omega⟩
  have hlow := hdigit ⟨b.toNat % 16, by omega⟩
  simp only [Percent.encodeByte, List.map_cons, List.map_nil]
  rw [hhigh, hlow]
  rfl

/-- A character of a part is read as its bytes. -/
theorem decode_encodeChar (c : Char) (rest : List UInt8) :
    Percent.decode (((encodeChar c).map byteOf).map spaced ++ rest) =
      Utf8.encodeChar c ++ Percent.decode rest := by
  rw [encodeChar]
  by_cases hspace : c = ' '
  · -- a space is written as `+` and read as a space before escapes are
    subst hspace
    exact Percent.decode_cons_of_ne (by decide) rest
  · rw [if_neg hspace, Percent.encodeChar]
    by_cases hplain : isPlain c = true
    · -- what stands for itself is neither a `+` nor the mark of an escape
      obtain ⟨hspaced, hmark, hbytes⟩ := byteOf_of_isPlain hplain
      rw [if_pos hplain, List.map_singleton, List.map_singleton, hspaced, hbytes]
      exact Percent.decode_cons_of_ne hmark rest
    · -- all else is escaped byte by byte, and escapes are no spaces
      rw [if_neg hplain, ← Percent.decode_encodeBytes]
      congr 2
      induction Utf8.encodeChar c with
      | nil => rfl
      | cons b bytes ih =>
        rw [List.flatMap_cons, List.map_append, List.map_append, ih, spaced_encodeByte]

/-- **A part is read back.** -/
theorem decodePart_encodePart (s : String) : decodePart ((encodePart s).map byteOf) = s := by
  have hbytes : ∀ cs : List Char,
      Percent.decode (((cs.flatMap encodeChar).map byteOf).map spaced) = Utf8.encodeChars cs := by
    intro cs
    induction cs with
    | nil => rfl
    | cons c rest ih =>
      rw [List.flatMap_cons, List.map_append, List.map_append, decode_encodeChar, ih]
      rfl
  rw [decodePart, encodePart, hbytes]
  exact Utf8.decodeLossy_encode s

/-! ### Parameters -/

/-- No joint stands in a part. -/
theorem not_mem_encodePart (s : String) :
    pairMark ∉ (encodePart s).map byteOf ∧ valueMark ∉ (encodePart s).map byteOf := by
  constructor
  · intro h
    obtain ⟨c, hc, hmark⟩ := List.mem_map.mp h
    exact (ne_joint_of_isWritten (isWritten_of_mem_encodePart hc)).2.1 hmark
  · intro h
    obtain ⟨c, hc, hmark⟩ := List.mem_map.mp h
    exact (ne_joint_of_isWritten (isWritten_of_mem_encodePart hc)).2.2 hmark

theorem bytes_encodePair (p : String × String) :
    (encodePair p).map byteOf =
      (encodePart p.1).map byteOf ++ valueMark :: (encodePart p.2).map byteOf := by
  rw [encodePair, List.map_append, List.map_cons]
  rfl

/-- A parameter is read back. -/
theorem decodePair_encodePair (p : String × String) :
    decodePair ((encodePair p).map byteOf) = p := by
  -- the first joint is the one behind the name, since none stands in the name
  have hname : ∀ b ∈ (encodePart p.1).map byteOf, decide (b ≠ valueMark) = true := fun b hb =>
    decide_eq_true fun h => (not_mem_encodePart p.1).2 (h ▸ hb)
  rw [bytes_encodePair, decodePair, List.takeWhile_append_of_pos hname,
    List.dropWhile_append_of_pos hname, List.takeWhile_cons_of_neg (by simp),
    List.dropWhile_cons_of_neg (by simp), List.append_nil, List.drop_one, List.tail_cons,
    decodePart_encodePart, decodePart_encodePart]

/-- A parameter has no joint to the next one in it. -/
theorem pairMark_not_mem_encodePair (p : String × String) :
    pairMark ∉ (encodePair p).map byteOf := by
  rw [bytes_encodePair, List.mem_append, List.mem_cons]
  rintro (h | h | h)
  · exact (not_mem_encodePart p.1).1 h
  · exact absurd h (by decide)
  · exact (not_mem_encodePart p.2).1 h

/-- A written list of parameters is ASCII. -/
theorem toNat_lt_of_mem_encode {ps : List (String × String)} {c : Char} (h : c ∈ encode ps) :
    c.toNat < 0x80 := by
  -- a character of a pair is written for one of its halves, or joins them
  have hpair : ∀ p : String × String, c ∈ encodePair p → c.toNat < 0x80 := by
    intro p hp
    rcases List.mem_append.mp hp with hp | hp
    · exact (ne_joint_of_isWritten (isWritten_of_mem_encodePart hp)).1
    · rcases List.mem_cons.mp hp with rfl | hp
      · decide
      · exact (ne_joint_of_isWritten (isWritten_of_mem_encodePart hp)).1
  induction ps using encode.induct with
  | case1 => exact absurd h List.not_mem_nil
  | case2 p => exact hpair p h
  | case3 p q rest ih =>
    rcases List.mem_append.mp h with h | h
    · exact hpair p h
    · rcases List.mem_cons.mp h with rfl | h
      · decide
      · exact ih h

theorem utf8_encode (ps : List (String × String)) :
    Utf8.encode (String.ofList (encode ps)) = (encode ps).map byteOf := by
  rw [Utf8.encode, String.toList_ofList,
    Utf8.encodeChars_of_forall_lt fun c => toNat_lt_of_mem_encode]
  rfl

/-- Parameters are cut apart where they were joined. -/
theorem splitOn_encode {ps : List (String × String)} (h : ps ≠ []) :
    splitOn pairMark ((encode ps).map byteOf) = ps.map fun p => (encodePair p).map byteOf := by
  induction ps using encode.induct with
  | case1 => exact absurd rfl h
  | case2 p =>
    rw [encode, splitOn_eq_singleton (pairMark_not_mem_encodePair p)]
    rfl
  | case3 p q rest ih =>
    have hjoint : (encode (p :: q :: rest)).map byteOf =
        (encodePair p).map byteOf ++ pairMark :: (encode (q :: rest)).map byteOf := by
      rw [encode, List.map_append, List.map_cons]
      rfl
    rw [hjoint, splitOn_append_cons (pairMark_not_mem_encodePair p), ih (List.cons_ne_nil _ _)]
    rfl

/-- **Parameters are read back** from the query they are written into. -/
theorem decode_encode (ps : List (String × String)) :
    decode (Utf8.encode (String.ofList (encode ps))) = ps := by
  rw [utf8_encode]
  by_cases hps : ps = []
  · rw [hps]
    rfl
  · -- no parameter is skipped, not even one of two empty parts
    have hskip : (ps.map fun p => (encodePair p).map byteOf).filter (fun part => !part.isEmpty) =
        ps.map fun p => (encodePair p).map byteOf := by
      refine List.filter_eq_self.mpr fun part hpart => ?_
      obtain ⟨p, -, rfl⟩ := List.mem_map.mp hpart
      rw [bytes_encodePair, Bool.not_eq_true', List.isEmpty_eq_false_iff]
      exact List.append_ne_nil_of_right_ne_nil _ (List.cons_ne_nil _ _)
    rw [decode, splitOn_encode hps, hskip, List.map_map]
    exact (List.map_congr_left fun p _ => decodePair_encodePair p).trans (List.map_id ps)

/-- What is written between the joints of a query: the parts between two `=`, of each of the parts
between two `&`. -/
def parts (query : List UInt8) : List (List String) :=
  (splitOn pairMark query).map fun pair => (splitOn valueMark pair).map decodePart

/-- **The joints of a query are those between its parameters and in them**: none stands in a name or
a value. -/
theorem parts_encode {ps : List (String × String)} (h : ps ≠ []) :
    parts (Utf8.encode (String.ofList (encode ps))) = ps.map fun p => [p.1, p.2] := by
  rw [utf8_encode, parts, splitOn_encode h, List.map_map]
  refine List.map_congr_left fun p _ => ?_
  show (splitOn valueMark ((encodePair p).map byteOf)).map decodePart = _
  rw [bytes_encodePair, splitOn_append_cons (not_mem_encodePart p.1).2,
    splitOn_eq_singleton (not_mem_encodePart p.2).2, List.map_cons, List.map_singleton,
    decodePart_encodePart, decodePart_encodePart]

/-- The parameters of a query that another is added to come before those of the other. -/
theorem decode_append (as bs : List UInt8) :
    decode (as ++ pairMark :: bs) = decode as ++ decode bs := by
  rw [decode, splitOn_append_separator, List.filter_append, List.map_append]
  rfl

end Form

/-! ### Addresses -/

/-- The parameters in the query of an address. -/
def parameters (u : Url) : List (String × String) :=
  Form.decode (Utf8.encode (u.query.getD ""))

/-- Added parameters stand behind those that are there, and change nothing else of an address. -/
theorem parameters_withParameters (u : Url) (ps : List (String × String)) :
    (u.withParameters ps).parameters = u.parameters ++ ps := by
  rw [parameters, parameters, withParameters]
  cases hquery : u.query with
  | none => exact Form.decode_encode ps
  | some q =>
    -- an empty query has no parameter that the joint could be put behind
    by_cases hempty : q.isEmpty = true
    · rw [String.isEmpty_iff] at hempty
      subst hempty
      exact Form.decode_encode ps
    · have hjoint : Utf8.encode (q ++ "&" ++ String.ofList (Form.encode ps)) =
          Utf8.encode q ++ Form.pairMark :: Utf8.encode (String.ofList (Form.encode ps)) := by
        simp only [Utf8.encode, Utf8.encodeChars, String.toList_append, List.flatMap_append,
          List.append_assoc]
        rfl
      simp only [Option.getD_some, if_neg hempty]
      rw [hjoint, Form.decode_append, Form.decode_encode]

end Itinerary.Url
