/-
Addresses of requests. A text is read as browsers read one: blanks and
control characters at its ends and line breaks and tabs anywhere are left
out, a backslash is a slash, dot segments are resolved, and what may not
stand in an address is escaped, while escapes already there are kept.
-/
import Fleetkeeper.Http.Percent
import Fleetkeeper.Text.Utf8

namespace Fleetkeeper.Http

/-- Who is addressed. -/
inductive Host where
  | ipv4 (address : Nat)
  | named (name : String)
deriving DecidableEq, Repr

/-- An address. -/
structure Url where
  secure : Bool
  host : Host
  port : Nat
  /-- The path, escaped, a slash in front. -/
  path : String
  /-- The query, escaped, without its question mark. -/
  query : Option String := none
deriving DecidableEq, Repr

namespace Url

-- =================================================================== hosts

/-- One part of a numeric host: decimal, octal behind a `0`, hexadecimal
behind `0x`. -/
def numericPart? (cs : List Char) : Option Nat :=
  match cs with
  | '0' :: 'x' :: r | '0' :: 'X' :: r => Text.numberFrom? 16 0 r
  | '0' :: c :: r => Text.number? 8 (c :: r)
  | _ => Text.number? 10 cs

/-- The parts of a host, an empty one at the end left out. -/
def hostParts (cs : List Char) : List (List Char) :=
  let parts := cs.splitOn '.'
  match parts.reverse with
  | [] :: rest => if rest.isEmpty then parts else rest.reverse
  | _ => parts

/-- Whether a host has to be numeric: its last part is a number. -/
def endsInNumber (cs : List Char) : Bool :=
  match (hostParts cs).getLast? with
  | some part =>
    (!part.isEmpty && part.all Char.isDigit)
      || (match part with
        | '0' :: 'x' :: _ | '0' :: 'X' :: _ => (numericPart? part).isSome
        | _ => false)
  | none => false

/-- The value of a numeric host: every part but the last is a byte, and the
last one fills what is left. -/
def ipv4? (cs : List Char) : Option Nat := do
  let parts ← (hostParts cs).mapM numericPart?
  match parts.reverse with
  | [] => none
  | last :: front =>
    let front := front.reverse
    if 4 < parts.length || front.any (255 < ·)
        || Nat.pow 256 (5 - parts.length) ≤ last then none
    else
      let places := front.zipIdx.map fun (b, i) => b * Nat.pow 256 (3 - i)
      some (places.foldr (· + ·) last)

/-- Characters that no host holds. -/
def forbidden (c : Char) : Bool :=
  c.toNat ≤ 0x20 || c.toNat = 0x7F
    || ['#', '%', '/', ':', '<', '>', '?', '@', '[', '\\', ']', '^',
      '|'].contains c

/-- The host of a text. -/
def host? (cs : List Char) : Option Host :=
  if cs.head? = some '[' then
    if cs.getLast? = some ']' then some (.named (String.ofList cs)) else none
  else
    let bytes := Percent.decode (cs.flatMap String.utf8EncodeChar)
    let name := (Text.Utf8.decodeLossy bytes).map Char.toLower
    if name.isEmpty || name.any forbidden then none
    else if endsInNumber name then (ipv4? name).map Host.ipv4
    else some (.named (String.ofList name))

-- =================================================================== paths

/-- Whether a segment stands for the place it is in. -/
def isSingleDot (seg : List Char) : Bool :=
  let s := String.ofList (seg.map Char.toLower)
  s = "." || s = "%2e"

/-- Whether a segment stands for the place above. -/
def isDoubleDot (seg : List Char) : Bool :=
  let s := String.ofList (seg.map Char.toLower)
  s = ".." || s = ".%2e" || s = "%2e." || s = "%2e%2e"

/-- Segments with the dots resolved; `done` are those so far, the last one
first. A dot segment at the end leaves a slash there. -/
def resolve (done : List (List Char)) : List (List Char) → List (List Char)
  | [] => done.reverse
  | seg :: rest =>
    let atEnd := if rest.isEmpty then [[]] else []
    if isDoubleDot seg then resolve (atEnd ++ done.drop 1) rest
    else if isSingleDot seg then resolve (atEnd ++ done) rest
    else resolve (seg :: done) rest

/-- A slash, in either writing. -/
def isSlash (c : Char) : Bool := c = '/' || c = '\\'

/-- The path of a text. -/
def pathOf (cs : List Char) : String :=
  let cs := match cs with
    | c :: rest => if isSlash c then rest else cs
    | [] => []
  let segments := (cs.splitOnP isSlash).map (Percent.encode Percent.inPath)
  String.ofList ((resolve [] segments).flatMap fun seg => '/' :: seg)

-- =============================================================== addresses

/-- The characters of a text that count in an address. -/
def clean (s : String) : List Char :=
  let outer (c : Char) : Bool := c.toNat ≤ 0x20
  let trimmed := ((s.toList.dropWhile outer).reverse.dropWhile outer).reverse
  trimmed.filter fun c => c ≠ '\t' && c ≠ '\n' && c ≠ '\r'

/-- What follows a word in front, in any case. -/
def after? (word : String) (cs : List Char) : Option (List Char) :=
  if (cs.take word.length).map Char.toLower = word.toList then
    some (cs.drop word.length)
  else none

/-- The port of a text; `default` where nothing is said. -/
def port? (default : Nat) (cs : List Char) : Option Nat :=
  if cs.isEmpty then some default
  else if cs.all Char.isDigit then
    let n := cs.foldl (fun n c => n * 10 + (c.toNat - 48)) 0
    if n ≤ 65535 then some n else none
  else none

/-- Host and port of an authority; who asks is said before its last `@`. -/
def authority? (default : Nat) (cs : List Char) : Option (Host × Nat) := do
  let place := (cs.reverse.takeWhile (· ≠ '@')).reverse
  let name :=
    if place.head? = some '[' then
      let inner := place.takeWhile (· ≠ ']')
      inner ++ (place.drop inner.length).take 1
    else place.takeWhile (· ≠ ':')
  let host ← host? name
  match place.drop name.length with
  | [] => some (host, default)
  | ':' :: r => (port? default r).map fun p => (host, p)
  | _ => none

/-- The address of a text. -/
def parse? (s : String) : Option Url := do
  let cs := clean s
  let (secure, rest) ←
    match after? "https:" cs with
    | some r => some (true, r)
    | none => (after? "http:" cs).map fun r => (false, r)
  let rest := rest.dropWhile isSlash
  let stop (c : Char) : Bool := isSlash c || c = '?' || c = '#'
  let name := rest.takeWhile (!stop ·)
  let (host, port) ← authority? (if secure then 443 else 80) name
  let plain := (rest.drop name.length).takeWhile (· ≠ '#')
  let path := plain.takeWhile (· ≠ '?')
  let query := match plain.drop path.length with
    | _ :: q => some (String.ofList (Percent.encode Percent.inQuery q))
    | [] => none
  pure { secure, host, port, path := pathOf path, query }

/-- The address with a pair at the end of its query. -/
def withPair (u : Url) (key value : String) : Url :=
  let pair := String.ofList (Percent.form key ++ '=' :: Percent.form value)
  { u with query := some (match u.query with
      | some q => if q = "" then pair else q ++ "&" ++ pair
      | none => pair) }

/-- The address with pairs at the end of its query. -/
def withPairs (u : Url) (pairs : List (String × String)) : Url :=
  pairs.foldl (fun u p => u.withPair p.1 p.2) u

/-- What a request line names: the path and the query. -/
def target (u : Url) : String :=
  u.path ++ (match u.query with
    | some q => "?" ++ q
    | none => "")

end Url

end Fleetkeeper.Http
