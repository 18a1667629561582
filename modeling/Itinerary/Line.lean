import Itinerary.Text.Blank
import Itinerary.Text.Hex
import Itinerary.Text.Quoted

/-!
# Lines

A ride is on a line: a trip number, an operator, a mode of transport and a label with its
colours. Modes come from a fixed table of product codes; colours from three or six hexadecimal
digits. `Color.hex` is the canonical text of a colour, and every accepted text of the colour has
the same one.
-/

namespace Itinerary

/-! ### Products -/

/-- A mode of transport. -/
inductive Product where
  | highSpeedTrain
  | regionalTrain
  | suburbanTrain
  | subway
  | tram
  | bus
  | ferry
  /-- cable cars and funiculars -/
  | cablecar
  /-- a code that is not in the table -/
  | unknown
deriving DecidableEq, Repr

namespace Product

/-- The product codes. -/
def codes : List (String × Product) := [
  ("ICE", highSpeedTrain), ("TGV", highSpeedTrain), ("RJ", highSpeedTrain),
  ("RJX", highSpeedTrain), ("EC", highSpeedTrain), ("IC", highSpeedTrain),
  ("ICN", highSpeedTrain), ("EN", highSpeedTrain), ("NJ", highSpeedTrain),
  ("IR", regionalTrain), ("RE", regionalTrain), ("R", regionalTrain), ("PE", regionalTrain),
  ("D", regionalTrain),
  ("S", suburbanTrain), ("SN", suburbanTrain),
  ("M", subway),
  ("T", tram),
  ("B", bus), ("BUS", bus), ("NFB", bus),
  ("BAT", ferry), ("FAE", ferry),
  ("cablecar", cablecar), ("FUN", cablecar)]

/-- The product of a code, blanks around it aside. -/
def ofCode (code : String) : Product := (codes.lookup (Text.trim code)).getD unknown

/-- The name by which a product is stored and shown. -/
def name : Product → String
  | highSpeedTrain => "high_speed_train"
  | regionalTrain => "regional_train"
  | suburbanTrain => "suburban_train"
  | subway => "subway"
  | tram => "tram"
  | bus => "bus"
  | ferry => "ferry"
  | cablecar => "cablecar"
  | unknown => "unknown"

/-- The product of a stored name. -/
def ofName? : String → Option Product
  | "high_speed_train" => some highSpeedTrain
  | "regional_train" => some regionalTrain
  | "suburban_train" => some suburbanTrain
  | "subway" => some subway
  | "tram" => some tram
  | "bus" => some bus
  | "ferry" => some ferry
  | "cablecar" => some cablecar
  | "unknown" => some unknown
  | _ => none

@[simp] theorem ofName?_name (p : Product) : ofName? p.name = some p := by
  cases p <;> rfl

end Product

/-! ### Colours -/

/-- A colour of 24 bits: red, green and blue. -/
structure Color where
  /-- the colour as one number -/
  rgb : Fin 16777216
deriving DecidableEq, Repr

/-- Why a text is no colour. -/
inductive ColorFault where
  /-- a character is no hexadecimal digit -/
  | nonHex
  /-- the number of digits is neither three nor six -/
  | length
deriving DecidableEq, Repr

/-- The wording of a fault. -/
def ColorFault.reason : ColorFault → String
  | .nonHex => "must contain only hex digits"
  | .length => "must be 3 or 6 hex digits"

/-- A text that is no colour. -/
structure ColorError where
  /-- the text as it was given -/
  input : String
  fault : ColorFault
deriving DecidableEq, Repr

/-- The wording of a colour error. -/
def ColorError.message (e : ColorError) : String :=
  "invalid color " ++ Text.quote e.input ++ ": " ++ e.fault.reason

namespace Color

/-- Black, the default background. -/
def black : Color := ⟨0⟩

/-- White, the default foreground. -/
def white : Color := ⟨0xFFFFFF⟩

/-- The colour of the lowest 24 bits of a number. -/
def ofRgb (n : Nat) : Color := ⟨Fin.ofNat 16777216 n⟩

/-- Drops one `#` from the front. -/
def dropHash : List Char → List Char
  | '#' :: cs => cs
  | cs => cs

/-- Reads three or six hexadecimal digits, with blanks around them and a `#` in front aside. Of
three digits each stands for two equal ones. -/
def ofHexChars (cs : List Char) : Except ColorFault Color :=
  match (dropHash (Text.trimChars cs)).mapM Text.Hex.value? with
  | none => .error .nonHex
  | some [r, g, b] => .ok (ofRgb (Text.Hex.number [r, r, g, g, b, b]))
  | some [r, r', g, g', b, b'] => .ok (ofRgb (Text.Hex.number [r, r', g, g', b, b']))
  | some _ => .error .length

/-- Reads a colour. -/
def ofHex (s : String) : Except ColorError Color :=
  match ofHexChars s.toList with
  | .ok c => .ok c
  | .error fault => .error ⟨s, fault⟩

/-- The canonical text of a colour: `#` and six lower-case digits. -/
def hex (c : Color) : String := String.ofList ('#' :: Text.Hex.padded 6 c.rgb.val)

end Color

/-! ### Lines -/

/-- The shape of the badge that shows a label. -/
inductive Shape where
  | rect
deriving DecidableEq, Repr

/-- How a label is drawn. -/
structure Style where
  shape : Shape
  background : Color
  /-- the colour of the text -/
  foreground : Color
deriving DecidableEq, Repr

/-- White on black. -/
def Style.plain : Style := ⟨.rect, .black, .white⟩

/-- A service of public transport. -/
structure Line where
  /-- the trip number within the operator's timetable -/
  tripNumber : Option String
  operator : Option String
  product : Product
  /-- the label shown to riders -/
  label : Option String
  style : Style
deriving DecidableEq, Repr

/-- A line of which nothing is known. -/
def Line.unknown : Line := ⟨none, none, .unknown, none, .plain⟩

end Itinerary
