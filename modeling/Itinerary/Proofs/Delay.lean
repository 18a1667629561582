import Itinerary.Delay
import Itinerary.Proofs.Decimal.Whole
import Itinerary.Proofs.Text.Blank

/-!
# What a delay text says

Once the blanks around it are trimmed, a text reports minutes if an integer is left, and a cancelled
call if the mark is. All else counts as no delay. No text is two of these, since neither the mark
nor an empty text spells an integer, so it makes no difference in which order they are tried
(`ofText_eq_minutes_iff`). In particular the text of an integer reports that many minutes.
-/

namespace Itinerary.Delay

/-- A text reports a cancelled call exactly if it is the mark, blanks around it aside. -/
theorem isCancelled_ofText {s : String} :
    (Delay.ofText s).isCancelled = true ↔ Text.trim s = "X" := by
  have hmark : Text.trim s = "X" ↔ Text.trimChars s.toList = Delay.cancelMark := by
    rw [← String.toList_inj, Text.toList_trim]
    rfl
  rw [hmark]
  unfold Delay.ofText
  dsimp only
  split
  · next h => exact ⟨fun _ => h, fun _ => rfl⟩
  · next h =>
    -- nothing else comes to be cancelled
    refine ⟨fun hc => ?_, fun hc => absurd hc h⟩
    split at hc
    · cases hc
    · split at hc <;> cases hc

/-- **A text reports minutes exactly if it is read as an integer**, blanks around it aside. -/
theorem ofText_eq_minutes_iff {s : String} {n : Int} :
    ofText s = .minutes n ↔ Decimal.readInt (Text.trimChars s.toList) = some n := by
  rw [ofText]
  generalize Text.trimChars s.toList = cs
  split
  · -- the mark is no digit and no sign
    next hmark =>
    subst hmark
    exact ⟨nofun, nofun⟩
  · split
    · -- nothing is left, which has no digits
      next hempty =>
      obtain rfl := List.isEmpty_iff.mp hempty
      exact ⟨nofun, nofun⟩
    · cases Decimal.readInt cs with
      | none => exact ⟨nofun, nofun⟩
      | some m =>
        dsimp only
        rw [Delay.minutes.injEq, Option.some_inj]

/-- The minutes of a text are those it reports, and none if it reports none. -/
theorem offset_ofText (s : String) :
    (ofText s).offset = (Decimal.readInt (Text.trimChars s.toList)).getD 0 := by
  cases hread : Decimal.readInt (Text.trimChars s.toList) with
  | some n =>
    rw [ofText_eq_minutes_iff.mpr hread]
    rfl
  | none =>
    cases hdelay : ofText s with
    | minutes n =>
      rw [ofText_eq_minutes_iff.mp hdelay] at hread
      cases hread
    | _ => rfl

/-- What a delay has to be for a text to report it. -/
structure IsOf (s : String) (d : Delay) : Prop where
  minutes : ∀ n, Decimal.Spells (Text.trimChars s.toList) n → Decimal.minInt64 ≤ n →
    n ≤ Decimal.maxInt64 → d = .minutes n
  cancelled : Text.trim s = "X" → d = .cancelled
  /-- a text that is neither moves no time and cancels nothing -/
  otherwise : (∀ n, Decimal.Spells (Text.trimChars s.toList) n →
    ¬ (Decimal.minInt64 ≤ n ∧ n ≤ Decimal.maxInt64)) → Text.trim s ≠ "X" →
    d.offset = 0 ∧ d.isCancelled = false

/-- **A text reports what it says.** -/
theorem isOf_ofText (s : String) : IsOf s (ofText s) where
  minutes n hspells hleast hmost :=
    ofText_eq_minutes_iff.mpr (Decimal.readInt_eq_some_iff.mpr ⟨hspells, hleast, hmost⟩)
  cancelled hmark := by
    have hcancelled := isCancelled_ofText.mpr hmark
    cases hdelay : ofText s with
    | cancelled => rfl
    | _ =>
      rw [hdelay] at hcancelled
      cases hcancelled
  otherwise hspells hmark := by
    constructor
    · rw [offset_ofText]
      cases hread : Decimal.readInt (Text.trimChars s.toList) with
      | none => rfl
      | some n =>
        obtain ⟨hn, hbounds⟩ := Decimal.readInt_eq_some_iff.mp hread
        exact absurd hbounds (hspells n hn)
    · rw [Bool.eq_false_iff]
      exact fun h => hmark (isCancelled_ofText.mp h)

theorem isBlank_of_mem_intText {n : Int} {c : Char} (h : c ∈ Decimal.intText n) :
    Text.isBlank c = false := by
  cases n with
  | ofNat n => exact Text.isBlank_of_isDigit (Decimal.isDigit_of_mem_toDigits h)
  | negSucc n =>
    rcases List.mem_cons.mp h with rfl | h
    · decide
    · exact Text.isBlank_of_isDigit (Decimal.isDigit_of_mem_toDigits h)

theorem ofText_intText {n : Int} (h : Decimal.fit64 n = some n) :
    ofText (String.ofList (Decimal.intText n)) = .minutes n := by
  rw [ofText_eq_minutes_iff, String.toList_ofList,
    Text.trimChars_of_forall fun c hc => isBlank_of_mem_intText hc]
  exact Decimal.readInt_intText h

/-! ### Every text -/

/-- The delay of a text, by what is left of it once it is trimmed. -/
theorem ofText_eq (s : String) :
    ofText s =
      if Text.trim s = "X" then .cancelled
      else if Text.trim s = "" then .absent
      else (Decimal.readInt (Text.trim s).toList).elim (.unreadable s) .minutes := by
  have hmark : Text.trim s = "X" ↔ Text.trimChars s.toList = cancelMark := by
    rw [← String.toList_inj, Text.toList_trim]
    rfl
  have hempty : Text.trim s = "" ↔ (Text.trimChars s.toList).isEmpty = true := by
    rw [← String.toList_inj, Text.toList_trim, List.isEmpty_iff]
    rfl
  rw [ofText, Text.toList_trim, ite_congr (propext hmark) (fun _ => rfl) fun _ =>
    ite_congr (propext hempty) (fun _ => rfl) fun _ => rfl]
  cases Decimal.readInt (Text.trimChars s.toList) <;> rfl

/-- Nothing is reported exactly if nothing is left. -/
theorem ofText_eq_absent_iff {s : String} : ofText s = .absent ↔ Text.trim s = "" := by
  rw [ofText_eq]
  split
  · next hmark =>
    rw [hmark]
    exact ⟨nofun, fun h => absurd h (by decide)⟩
  · split
    · next hempty => exact ⟨fun _ => hempty, fun _ => rfl⟩
    · next hempty =>
      refine ⟨fun h => ?_, fun h => absurd h hempty⟩
      cases hread : Decimal.readInt (Text.trim s).toList <;> rw [hread] at h <;> cases h

/-- **A text is kept as it came** if it is neither the mark nor empty nor read as an integer. -/
theorem ofText_eq_unreadable_iff {s raw : String} :
    ofText s = .unreadable raw ↔ raw = s ∧ Text.trim s ≠ "X" ∧ Text.trim s ≠ "" ∧
      Decimal.readInt (Text.trim s).toList = none := by
  rw [ofText_eq]
  split
  · next hmark => exact ⟨nofun, fun h => absurd hmark h.2.1⟩
  · next hmark =>
    split
    · next hempty => exact ⟨nofun, fun h => absurd hempty h.2.2.1⟩
    · next hempty =>
      -- the mark and the empty text are tried first, and what is left is an integer or kept
      cases Decimal.readInt (Text.trim s).toList with
      | some n => exact ⟨nofun, fun h => nomatch h.2.2.2⟩
      | none =>
        rw [Option.elim_none, Delay.unreadable.injEq]
        exact ⟨fun h => ⟨h.symm, hmark, hempty, rfl⟩, fun h => h.1.symm⟩

/-- Whether some characters are an integer as it is commonly written: in decimal, and if it is not
negative perhaps with a sign. -/
inductive Writes : List Char → Int → Prop
  | plain (n : Int) : Writes (Decimal.intText n) n
  | signed {n : Int} (h : 0 ≤ n) : Writes ('+' :: Decimal.intText n) n

theorem Writes.spells {cs : List Char} {n : Int} (h : Writes cs n) : Decimal.Spells cs n := by
  cases h with
  | plain => exact Decimal.spells_intText n
  | signed h => exact Decimal.spells_plus_intText h

theorem Writes.isBlank {cs : List Char} {n : Int} (h : Writes cs n) :
    ∀ c ∈ cs, Text.isBlank c = false := by
  intro c hc
  cases h with
  | plain => exact isBlank_of_mem_intText hc
  | signed =>
    rcases List.mem_cons.mp hc with rfl | hc
    · decide
    · exact isBlank_of_mem_intText hc

/-- Blanks around an integer that fits change nothing about the minutes it reports. -/
theorem ofText_append {before text after : String} {n : Int}
    (hbefore : Text.isBlankText before = true) (htext : Writes text.toList n)
    (hafter : Text.isBlankText after = true) (hleast : Decimal.minInt64 ≤ n)
    (hmost : n ≤ Decimal.maxInt64) : ofText (before ++ text ++ after) = .minutes n := by
  have htrim : Text.trim (before ++ text ++ after) = text :=
    Text.trim_append hbefore htext.isBlank hafter
  rw [ofText_eq_minutes_iff, ← Text.toList_trim, htrim, Decimal.readInt_eq_some_iff]
  exact ⟨htext.spells, hleast, hmost⟩

/-- **What each text reports.** With the blanks around it taken off, the mark alone is a cancelled
call, an empty text is no delay, and one or more digits, with or without a sign, are as many minutes
as they say, zeros in front included, if the number fits in 64 bits. Any other text is kept, and
kept with its blanks. So however an integer that fits is written, it is read as that many minutes, and no
text moves a time but by minutes that it spells. -/
theorem ofText_exact (s : String) :
    (ofText s = .cancelled ↔ Text.trim s = "X") ∧
    (ofText s = .absent ↔ Text.trim s = "") ∧
    (∀ n, ofText s = .minutes n ↔ Decimal.Spells (Text.trim s).toList n ∧
      Decimal.minInt64 ≤ n ∧ n ≤ Decimal.maxInt64) ∧
    (∀ raw, ofText s = .unreadable raw ↔ raw = s ∧ Text.trim s ≠ "X" ∧ Text.trim s ≠ "" ∧
      ∀ n, Decimal.Spells (Text.trim s).toList n →
        ¬ (Decimal.minInt64 ≤ n ∧ n ≤ Decimal.maxInt64)) ∧
    ((ofText s).offset ≠ 0 → ofText s = .minutes (ofText s).offset) ∧
    ∀ n before text after, Decimal.minInt64 ≤ n → n ≤ Decimal.maxInt64 →
      Text.isBlankText before = true → Writes text.toList n → Text.isBlankText after = true →
        s = before ++ text ++ after → ofText s = .minutes n := by
  refine ⟨?cancelled, ofText_eq_absent_iff, ?minutes, ?unreadable, ?offset, ?written⟩
  case cancelled =>
    rw [← isCancelled_ofText]
    cases ofText s with
    | cancelled => exact ⟨fun _ => rfl, fun _ => rfl⟩
    | _ => exact ⟨nofun, nofun⟩
  case minutes =>
    -- the digits are spelled independently of how they are read
    intro n
    rw [ofText_eq_minutes_iff, ← Text.toList_trim, Decimal.readInt_eq_some_iff]
  case unreadable =>
    intro raw
    rw [ofText_eq_unreadable_iff, Decimal.readInt_eq_none_iff]
  case offset =>
    -- only minutes move a time
    intro hoffset
    cases hdelay : ofText s with
    | minutes n => rfl
    | _ =>
      rw [hdelay] at hoffset
      exact absurd rfl hoffset
  case written =>
    rintro n before text after hleast hmost hbefore htext hafter rfl
    exact ofText_append hbefore htext hafter hleast hmost

/-- The range of 64 bits has one integer more below zero than above. -/
example : ofText " -9223372036854775808" = .minutes (-9223372036854775808) ∧
    ofText "9223372036854775808 " = .unreadable "9223372036854775808 " := by decide

end Itinerary.Delay
