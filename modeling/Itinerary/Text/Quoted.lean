import Itinerary.Text.Hidden

/-!
# Quoted texts

Messages quote the text they complain about, so that blanks and invisible characters in it can
be seen. A quoted text stands between double quotes; quotes and backslashes are escaped, the
common controls have short escapes, and every other hidden character is written by its code
point in lower-case hexadecimal.
-/

namespace Itinerary.Text

/-- A character by its code point: a backslash, `u`, and the hexadecimal number in braces. -/
def codePoint (c : Char) : List Char :=
  '\\' :: 'u' :: '\x7b' :: (Nat.toDigits 16 c.toNat ++ ['\x7d'])

/-- A character as it stands in a quoted text. -/
def quoteChar (c : Char) : List Char :=
  match c with
  | '"' => ['\\', '"']
  | '\\' => ['\\', '\\']
  | '\n' => ['\\', 'n']
  | '\r' => ['\\', 'r']
  | '\t' => ['\\', 't']
  | '\x00' => ['\\', '0']
  | c => if isHidden c then codePoint c else [c]

/-- The text in double quotes, with what would not show in it escaped. -/
def quote (s : String) : String :=
  String.ofList ('"' :: (s.toList.flatMap quoteChar ++ ['"']))

/-- Several quoted texts in square brackets, separated by a comma and a space. -/
def quoteList (texts : List String) : String :=
  "[" ++ String.intercalate ", " (texts.map quote) ++ "]"

end Itinerary.Text
