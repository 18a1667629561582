import Itinerary.Text.Mark
import Itinerary.Text.Printable

/-!
# Characters that are shown as they are

A quoted text shows a character as itself only if something is drawn for it and it stands on its
own. The rest is *hidden*: the unprintable code points, the marks that extend the character
before them, and the fillers, letters of Korean that stand for a missing one and are drawn as
nothing.

Main definition:

* `isHidden`: whether a character is hidden.
-/

namespace Itinerary.Text

/-- The letters of Korean that stand for a missing letter, two of each width. -/
def fillers : List Char := ['\u115F', '\u1160', '\u3164', '\uFFA0']

/-- Whether a character is hidden in a quoted text. -/
def isHidden (c : Char) : Bool :=
  unprintable.contains c || isExtender c || fillers.contains c

end Itinerary.Text
