/-!
# Blank characters and trimming

Every text the service reads — station terms, delay marks, timestamps, colours, tokens — is
trimmed first. What counts as blank is the Unicode property White_Space: 25 code points,
among them the no-break and ideographic spaces, but neither the zero-width space nor the
byte-order mark.

Trimming is stated on lists of characters, where proofs happen, and lifted to `String`.
-/

namespace Itinerary.Text

/-- The Unicode property White_Space. -/
def isBlank (c : Char) : Bool :=
  let n := c.toNat
  (0x09 ≤ n && n ≤ 0x0D) || n == 0x20 || n == 0x85 || n == 0xA0 || n == 0x1680 ||
    (0x2000 ≤ n && n ≤ 0x200A) || n == 0x2028 || n == 0x2029 || n == 0x202F || n == 0x205F ||
    n == 0x3000

/-- The characters without the blanks they start with. -/
def trimStart (cs : List Char) : List Char := cs.dropWhile isBlank

/-- The characters without the blanks they start and end with. -/
def trimChars (cs : List Char) : List Char := (trimStart (trimStart cs).reverse).reverse

/-- The text without the blanks it starts and ends with. -/
def trim (s : String) : String := String.ofList (trimChars s.toList)

/-- A text is blank when nothing is left of it after trimming. -/
def isBlankText (s : String) : Bool := s.toList.all isBlank

@[simp] theorem toList_trim (s : String) : (trim s).toList = trimChars s.toList := by
  simp [trim]

/-- A non-blank text keeps its first character under `trimStart`. -/
theorem trimStart_cons_of_not_isBlank {c : Char} (h : isBlank c = false) (cs : List Char) :
    trimStart (c :: cs) = c :: cs := by
  simp [trimStart, h]

/-- A list of blanks leaves nothing. -/
theorem trimStart_eq_nil {cs : List Char} (h : ∀ c ∈ cs, isBlank c = true) :
    trimStart cs = [] := by
  induction cs with
  | nil => rfl
  | cons c r ih =>
    have hc := h c (by simp)
    have := ih fun d hd => h d (by simp [hd])
    simpa [trimStart, hc] using this

end Itinerary.Text
