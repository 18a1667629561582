import Itinerary.Url.Path

/-!
# Authorities of addresses

An authority says who serves an address: perhaps a user with a password in front of an `@`, then
a host, and behind a colon perhaps a port.

Main definitions:

* `Authority`, `Authority.write`: authorities, and how they stand in an address.
* `readAuthority`: the authority at the front of some characters.
-/

namespace Itinerary.Url

/-- Who serves an address. -/
structure Authority where
  /-- the name of a user, escaped -/
  user : String
  /-- the password of the user, escaped -/
  password : String
  /-- the host, if it is named -/
  host : Option Host
  /-- the port, unless it is the default one -/
  port : Option Nat
deriving DecidableEq, Repr

/-- Whether a character stands for itself in the name or password of a user. -/
def isUserChar (c : Char) : Bool :=
  isPathChar c && Percent.isVisibleBut ['/', ':', ';', '=', '@', '[', '\\', ']', '^', '|'] c

/-! ### Reading -/

/-- The characters before the last `@` and those behind it. -/
def cutUser (cs : List Char) : Option (List Char × List Char) :=
  if cs.contains '@' then
    -- the last `@` counts: those before it belong to the user
    let behind := cs.reverse.takeWhile (· ≠ '@')
    some (cs.take (cs.length - behind.length - 1), behind.reverse)
  else none

/-- The characters of a host, which a colon outside brackets ends, and the rest. -/
def cutHost : Bool → List Char → List Char × List Char
  | _, [] => ([], [])
  | inside, c :: cs =>
    if c = ':' && !inside then ([], c :: cs)
    else
      -- an opening bracket goes inside, a closing one outside
      let (host, rest) := cutHost ((inside || c = '[') && c ≠ ']') cs
      (c :: host, rest)

/-- A port of at most 16 bits; no digits are no port, and nor is the default. -/
def readPort (default : Option Nat) (cs : List Char) : Except Fault (Option Nat) :=
  if cs.all Char.isDigit then
    let n := Nat.ofDigitChars 10 cs 0
    if 65535 < n then .error .port
    else .ok (if cs.isEmpty || some n = default then none else some n)
  else .error .port

/-- The port behind a host, and what follows it: a `\` ends a port even where it is no slash. -/
def readPortPart (default : Option Nat) (cs : List Char) :
    Except Fault (Option Nat × List Char) :=
  match cs with
  | ':' :: rest =>
    (readPort default (rest.takeWhile (· ≠ '\\'))).map (·, rest.dropWhile (· ≠ '\\'))
  | cs => .ok (none, cs)

/-- The host and port of an authority without its user, and what follows them. -/
def readHostPort (kind : SchemeKind) (cs : List Char) :
    Except Fault (Option Host × Option Nat × List Char) :=
  let (host, port) := cutHost false cs
  match kind with
  | .network default => do
    if host.isEmpty then .error .emptyHost
    else return (some (← Host.parse host), ← readPortPart (some default) port)
  | _ =>
    if host.isEmpty then if port.isEmpty then .ok (none, none, []) else .error .emptyHost
    else do return (some (← Host.parseNamed host), ← readPortPart none port)

/-- An authority, and what of the characters belongs to the path. A user needs a host, and so does
an `@` with more of the address behind it. -/
def readAuthority (kind : SchemeKind) (more : Bool) (cs : List Char) :
    Except Fault (Authority × List Char) :=
  let (info, rest) := (cutUser cs).getD ([], cs)
  let user := Percent.escape isUserChar (info.takeWhile (· ≠ ':'))
  let password := Percent.escape isUserChar ((info.dropWhile (· ≠ ':')).drop 1)
  -- an `@` alone, at the end of the address, is an authority without anything
  if rest.isEmpty && (cutUser cs).isSome && info.isEmpty && more then .error .emptyHost
  else do
    let (host, port, rest) ← readHostPort kind rest
    if host.isNone && !(user.isEmpty && password.isEmpty) then .error .emptyHost
    else return (⟨user, password, host, port⟩, rest)

/-! ### Writing -/

/-- An authority as it stands in an address. -/
def Authority.write (a : Authority) : String :=
  let user :=
    if a.user.isEmpty && a.password.isEmpty then ""
    else a.user ++ (if a.password.isEmpty then "" else ":" ++ a.password) ++ "@"
  let host := (a.host.map Host.write).getD ""
  let port := (a.port.map fun n => ":" ++ toString n).getD ""
  user ++ host ++ port

end Itinerary.Url
