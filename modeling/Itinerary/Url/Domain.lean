import Itinerary.Text.Composed
import Itinerary.Url.Domain.Direction
import Itinerary.Url.Domain.Spelling
import Itinerary.Url.Punycode

/-!
# Domains

A domain is made of labels with dots between them and is written in ASCII and lower case. A name
in any characters becomes a domain in three steps: the spelling of each character is settled, the
whole is put into its composed form, and every label that is not in ASCII is written as `xn--` and
its text in ASCII. A label may also be given in that way; it then has to stand for a text that
the first two steps leave as it is.

Labels that could be taken for something else are refused: one that begins with a mark, one with
a joiner that is not seen, and in a name with letters from right to left one that does not hold
together.

Main definitions:

* `Label`: a label with its text and the way it is written.
* `toAscii?`: a name as a domain.
-/

namespace Itinerary.Url.Domain

open Text

/-! ### Labels -/

/-- A label of a domain. -/
structure Label where
  /-- what it stands for -/
  text : List Char
  /-- how it is written in a domain -/
  written : List Char
deriving DecidableEq, Repr

/-- Whether all characters are in ASCII. -/
def isAscii (cs : List Char) : Bool := cs.all fun c => c.toNat < 0x80

/-- What a label in ASCII starts with that stands for another text. -/
def mark : List Char := ['x', 'n', '-', '-']

/-- The greatest number of characters in a text that is written in ASCII. -/
def maxText : Nat := 1000

/-- The greatest number of characters behind the mark of a label. -/
def maxCode : Nat := 2000

/-- Whether a text is spelled and composed as in a domain. -/
def isNormal (text : List Char) : Bool := text.all isSettled && compose text == text

/-- The text that the characters behind the mark of a label stand for. -/
def decodeLabel? (code : List Char) : Option (List Char) :=
  -- what ends in a hyphen is ASCII and would need no mark
  if !isAscii code || code.isEmpty || code.getLast? = some '-' || maxCode < code.length then none
  else (Punycode.decode? code).filter isNormal

/-- Whether a text can be that of a label. -/
def isLabelText (text : List Char) : Bool :=
  !text.head?.any isMark && joinersAreSeen text && (isAscii text || text.length ≤ maxText)

/-- A text as it is written in a domain. -/
def writeText (text : List Char) : List Char :=
  if isAscii text then text else mark ++ Punycode.encode text

/-- The label of some characters in their settled spelling. -/
def Label.of? (cs : List Char) : Option Label :=
  let label? :=
    if mark.isPrefixOf cs then (decodeLabel? (cs.drop mark.length)).map (⟨·, cs⟩)
    else some ⟨cs, writeText cs⟩
  label?.filter fun label => isLabelText label.text

/-! ### Names -/

/-- A name with the spelling of each character settled and the whole in composed form. -/
def spelled? (name : List Char) : Option (List Char) :=
  (name.mapM spelling?).map fun forms => compose forms.flatten

/-- The labels of a name. -/
def labels? (name : List Char) : Option (List Label) :=
  (spelled? name).bind fun cs => (splitOn '.' cs).mapM Label.of?

/-- A name as a domain. -/
def toAscii? (name : List Char) : Option (List Char) :=
  ((labels? name).filter fun labels => isOrdered (labels.map Label.text)).map fun labels =>
    ['.'].intercalate (labels.map Label.written)

end Itinerary.Url.Domain
