import Itinerary.Url.Domain
import Itinerary.Url.Percent

/-!
# Hosts of addresses

A host is a domain, a number of 32 bits given as four bytes or in a shorter way, or a number of
128 bits in brackets. Where addresses name hosts of the internet (`Host.parse`), a domain is
unescaped and written in ASCII, and a domain that ends in a number has to be an IPv4 address in
full. Elsewhere (`Host.parseNamed`) any text without separators is a name of its own.
-/

namespace Itinerary.Url

open Text

/-- Why a text is no address. -/
inductive Fault where
  /-- there is no scheme -/
  | relative
  /-- there is no host where one is needed -/
  | emptyHost
  /-- a character that no domain has -/
  | domain
  /-- a character that no name of a host has -/
  | hostName
  /-- the host ends in a number and is no IPv4 address -/
  | ipv4
  /-- the host is in brackets and no IPv6 address -/
  | ipv6
  /-- the port is no number of 16 bits -/
  | port
deriving DecidableEq, Repr

/-- The wording of a fault. -/
def Fault.message : Fault → String
  | .relative => "relative URL without a base"
  | .emptyHost => "empty host"
  | .domain => "invalid international domain name"
  | .hostName => "invalid domain character"
  | .ipv4 => "invalid IPv4 address"
  | .ipv6 => "invalid IPv6 address"
  | .port => "invalid port number"

/-- The host of an address. -/
inductive Host where
  | domain (name : String)
  /-- a number of 32 bits -/
  | ipv4 (address : UInt32)
  /-- eight numbers of 16 bits -/
  | ipv6 (pieces : List UInt16)
deriving DecidableEq, Repr

namespace Host

/-! ### Numbers of 32 bits -/

/-- A number in octal, decimal or hexadecimal, by what it starts with. -/
def readNumber (cs : List Char) : Option Nat :=
  match cs with
  | [] => none
  | '0' :: 'x' :: ds => (ds.mapM Hex.value?).map Hex.number
  | '0' :: 'X' :: ds => (ds.mapM Hex.value?).map Hex.number
  | '0' :: d :: ds =>
    if (d :: ds).all fun c => '0' ≤ c && c ≤ '7' then some (Nat.ofDigitChars 8 (d :: ds) 0)
    else none
  | ds => if ds.all Char.isDigit then some (Nat.ofDigitChars 10 ds 0) else none

/-- The parts of a domain between dots; a dot at the end is no separator. -/
def labels (name : List Char) : List (List Char) :=
  match (splitOn '.' name).reverse with
  -- the empty part behind a dot at the end
  | [] :: before => if before.isEmpty then [[]] else before.reverse
  | parts => parts.reverse

/-- Whether the last part of a domain is a number. -/
def endsInNumber (name : List Char) : Bool :=
  match (labels name).getLast? with
  | some last => (!last.isEmpty && last.all Char.isDigit) || (readNumber last).isSome
  | none => false

/-- The number of some parts, of which the last fills the bytes that the others leave. -/
def joinParts : Nat → List Nat → Option Nat
  | _, [] => none
  | room, [last] => if last < 256 ^ room then some last else none
  | room, n :: rest =>
    if n < 256 then (joinParts (room - 1) rest).map (n * 256 ^ (room - 1) + ·) else none

/-- Reads an IPv4 address of up to four parts. -/
def readIpv4 (name : List Char) : Option UInt32 :=
  let parts := labels name
  if 4 < parts.length then none
  else
    match parts.mapM readNumber with
    | some numbers => (joinParts 4 numbers).map Nat.toUInt32
    | none => none

/-- An IPv4 address as four numbers. -/
def writeIpv4 (address : UInt32) : String :=
  let n := address.toNat
  String.intercalate "."
    ([n / 16777216, n / 65536 % 256, n / 256 % 256, n % 256].map (toString ·))

/-! ### Numbers of 128 bits -/

/-- One to four hexadecimal digits. -/
def readPiece (cs : List Char) : Option UInt16 :=
  if 1 ≤ cs.length ∧ cs.length ≤ 4 then
    (cs.mapM Hex.value?).map fun values => (Hex.number values).toUInt16
  else none

/-- A byte in decimal without a zero in front. -/
def readByte (cs : List Char) : Option Nat :=
  if cs.isEmpty || !cs.all Char.isDigit || (cs.head? = some '0' && 1 < cs.length) then none
  else
    let n := Nat.ofDigitChars 10 cs 0
    if n < 256 then some n else none

/-- Four bytes in decimal, as two pieces. -/
def readQuad (cs : List Char) : Option (List UInt16) :=
  match (splitOn '.' cs).mapM readByte with
  | some [a, b, c, d] => some [(a * 256 + b).toUInt16, (c * 256 + d).toUInt16]
  | _ => none

/-- Pieces between colons, of which the last may be four bytes if `quad` allows it. -/
def readPieces (quad : Bool) : List (List Char) → Option (List UInt16)
  | [] => some []
  | [last] =>
    match readPiece last with
    | some p => some [p]
    | none => if quad then readQuad last else none
  | part :: rest => do return (← readPiece part) :: (← readPieces quad rest)

/-- The pieces of a text, of which nothing has none. -/
def piecesOf (quad : Bool) (cs : List Char) : Option (List UInt16) :=
  if cs.isEmpty then some [] else readPieces quad (splitOn ':' cs)

/-- The characters before and after the first double colon. -/
def cutGap : List Char → Option (List Char × List Char)
  | ':' :: ':' :: rest => some ([], rest)
  | c :: rest => (cutGap rest).map fun (before, after) => (c :: before, after)
  | [] => none

/-- Reads an IPv6 address: eight pieces, or fewer with a double colon for those left out. -/
def readIpv6 (cs : List Char) : Option (List UInt16) :=
  match cutGap cs with
  | none =>
    match piecesOf true cs with
    | some pieces => if pieces.length = 8 then some pieces else none
    | none => none
  | some (before, after) =>
    match piecesOf false before, piecesOf true after with
    | some left, some right =>
      -- the double colon stands for at least one piece
      if left.length + right.length ≤ 7 then
        some (left ++ List.replicate (8 - left.length - right.length) 0 ++ right)
      else none
    | _, _ => none

/-- How many zeros stand at the front. -/
def zerosAt (pieces : List UInt16) : Nat := (pieces.takeWhile (· = 0)).length

/-- The start and the length of the first longest run of zeros. -/
def longestZeros (pieces : List UInt16) : Nat × Nat :=
  (List.range pieces.length).foldl
    (fun best start =>
      -- only a longer run replaces the best one, so of equals the first stays
      let run := zerosAt (pieces.drop start)
      if best.2 < run then (start, run) else best)
    (0, 0)

/-- Pieces in hexadecimal with colons between them. -/
def writePieces (pieces : List UInt16) : String :=
  String.intercalate ":" (pieces.map fun p => String.ofList (Hex.padded 1 p.toNat))

/-- An IPv6 address, with a double colon for the longest run of two or more zeros. -/
def writeIpv6 (pieces : List UInt16) : String :=
  let (start, run) := longestZeros pieces
  if run < 2 then writePieces pieces
  else writePieces (pieces.take start) ++ "::" ++ writePieces (pieces.drop (start + run))

/-! ### Hosts -/

/-- A host as it stands in an address. -/
def write : Host → String
  | .domain name => name
  | .ipv4 address => writeIpv4 address
  | .ipv6 pieces => "[" ++ writeIpv6 pieces ++ "]"

/-- Whether a character may stand in a domain. -/
def isDomainChar : Char → Bool :=
  Percent.isVisibleBut ['%', '#', '/', ':', '<', '>', '?', '@', '[', '\\', ']', '^', '|']

/-- Whether a character may stand in a name of another kind. -/
def isNameChar (c : Char) : Bool :=
  ['\x00', '\t', '\n', '\r', ' ', '#', '/', ':', '<', '>', '?', '@', '[', '\\', ']', '^',
    '|'].all (· ≠ c)

/-- The address between brackets. -/
def parseBracketed (cs : List Char) : Except Fault Host :=
  match cs.getLast?, readIpv6 cs.dropLast with
  | some ']', some pieces => .ok (.ipv6 pieces)
  | _, _ => .error .ipv6

/-- A host that has to be a domain or an address. -/
def parse (cs : List Char) : Except Fault Host :=
  match cs with
  | '[' :: rest => parseBracketed rest
  | cs =>
    let text := Utf8.decode? (Percent.decode (Utf8.encodeChars cs))
    match text.bind fun t => Domain.toAscii? t.toList with
    | none => .error .domain
    | some name =>
      if name.isEmpty then .error .emptyHost
      else if !name.all isDomainChar then .error .domain
      else if endsInNumber name then
        match readIpv4 name with
        | some address => .ok (.ipv4 address)
        | none => .error .ipv4
      else .ok (.domain (String.ofList name))

/-- A host that may have any name. -/
def parseNamed (cs : List Char) : Except Fault Host :=
  match cs with
  | '[' :: rest => parseBracketed rest
  | cs =>
    if cs.all isNameChar then
      .ok (.domain (String.ofList
        (Percent.encodeChars (fun c => c = ' ' || Percent.isVisible c) cs)))
    else .error .hostName

end Host

end Itinerary.Url
