/-
Dates as they are written down: year to fraction of a second in UTC, with a
`Z`. A stamp may fall into a leap second, which an instant cannot. Writing
uses the fewest of 0, 3, 6 or 9 fraction digits; reading takes any offset,
one or two digits per field, and blanks between the parts.
-/
import Fleetkeeper.Json.Decode
import Fleetkeeper.Text.Blank
import Fleetkeeper.Time.Calendar
import Fleetkeeper.Time.Instant

namespace Fleetkeeper

/-- An instant as written down; `leap` puts it into the leap second that
follows its own second. -/
structure Stamp where
  instant : Instant
  leap : Bool
deriving DecidableEq, Repr, Inhabited

namespace Stamp

def ofInstant (t : Instant) : Stamp := ⟨t, false⟩

-- ============================================================== writing

/-- A number with at least so many digits. -/
def padded (width : Nat) (n : Nat) : String :=
  let s := toString n
  "".pushn '0' (width - s.length) ++ s

/-- A year: four digits, with a sign outside 0 to 9999. -/
def yearText (y : Int) : String :=
  if 0 ≤ y ∧ y ≤ 9999 then padded 4 y.toNat
  else (if y < 0 then "-" else "+") ++ padded 4 y.natAbs

/-- A fraction of a second, as short as three, six or nine digits allow. -/
def fractionText (nanos : Nat) : String :=
  if nanos = 0 then ""
  else if nanos % 1000000 = 0 then "." ++ padded 3 (nanos / 1000000)
  else if nanos % 1000 = 0 then "." ++ padded 6 (nanos / 1000)
  else "." ++ padded 9 nanos

/-- A stamp as text. -/
def toText (s : Stamp) : String :=
  let secs := s.instant.seconds
  let nanos := (s.instant.nanos - secs * 1000000000).toNat
  let days := secs.fdiv 86400
  let clock := (secs - days * 86400).toNat
  let date := Calendar.Date.ofDays days
  let second := clock % 60 + (if s.leap then 1 else 0)
  yearText date.year ++ "-" ++ padded 2 date.month ++ "-" ++ padded 2 date.day
    ++ "T" ++ padded 2 (clock / 3600) ++ ":" ++ padded 2 (clock / 60 % 60)
    ++ ":" ++ padded 2 second ++ fractionText nanos ++ "Z"

-- ============================================================== reading

/-- A number of at most `width` digits, at least one, and what follows. -/
def number (width : Nat) (cs : List Char) : Option (Nat × List Char) :=
  let ds := (cs.take width).takeWhile Char.isDigit
  if ds = [] then none
  else some (ds.foldl (fun n c => n * 10 + (c.toNat - 48)) 0,
    cs.drop ds.length)

/-- A field of one or two digits, blanks before it skipped. -/
def field (cs : List Char) : Option (Nat × List Char) :=
  number 2 (Text.dropBlank cs)

/-- A fixed character, blanks before it skipped. -/
def mark (c : Char) (cs : List Char) : Option (List Char) :=
  match Text.dropBlank cs with
  | d :: r => if d = c then some r else none
  | [] => none

/-- A year: up to four digits, or a sign and any number of them. -/
def yearField (cs : List Char) : Option (Int × List Char) :=
  match Text.dropBlank cs with
  | '-' :: r => (number r.length r).map fun (n, r) => (-(n : Int), r)
  | '+' :: r => (number r.length r).map fun (n, r) => ((n : Int), r)
  | r => (number 4 r).map fun (n, r) => ((n : Int), r)

/-- A fraction, if one follows: nine digits count, further ones are cut. -/
def fractionField : List Char → Option (Nat × List Char)
  | '.' :: r =>
    (number 9 r).map fun (n, rest) =>
      let taken := r.length - rest.length
      (n * Nat.pow 10 (9 - taken), rest.dropWhile Char.isDigit)
  | r => some (0, r)

/-- Two digits. -/
def twoDigits : List Char → Option (Nat × List Char)
  | a :: b :: r =>
    if a.isDigit && b.isDigit then
      some ((a.toNat - 48) * 10 + (b.toNat - 48), r)
    else none
  | _ => none

/-- Whether a text starts with `utc`, in any case. -/
def startsUtc : List Char → Bool
  | a :: b :: c :: _ =>
    a.toLower = 'u' && b.toLower = 't' && c.toLower = 'c'
  | _ => false

/-- An offset from UTC in seconds and what follows it. -/
def offsetField (cs : List Char) : Option (Int × List Char) :=
  let signed (negative : Bool) (r : List Char) : Option (Int × List Char) := do
    let (h, r) ← twoDigits r
    let r := r.dropWhile fun c => c = ':' || Text.isBlank c
    let (m, r) ← twoDigits r
    if 60 ≤ m then none
    else
      let secs : Int := h * 3600 + m * 60
      some (if negative then -secs else secs, r)
  let cs := Text.dropBlank cs
  if startsUtc cs then some (0, cs.drop 3)
  else
    match cs with
    | 'Z' :: r | 'z' :: r => some (0, r)
    | '+' :: r => signed false r
    | '-' :: r => signed true r
    | c :: r => if c.toNat = 0x2212 then signed true r else none
    | [] => none

/-- The stamp that a text denotes. -/
def parse (text : String) : Option Stamp := do
  let (year, cs) ← yearField text.toList
  let cs ← mark '-' cs
  let (month, cs) ← field cs
  let cs ← mark '-' cs
  let (day, cs) ← field cs
  let cs ← match cs with
    | 'T' :: r | 't' :: r | ' ' :: r => some r
    | _ => none
  let (hour, cs) ← field cs
  let cs ← mark ':' cs
  let (minute, cs) ← field cs
  let cs ← mark ':' cs
  let (second, cs) ← field cs
  let (nanos, cs) ← fractionField cs
  let (offset, cs) ← offsetField cs
  let date : Calendar.Date := ⟨year, month, day⟩
  if !(Text.dropBlank cs).isEmpty || !date.valid || 23 < hour || 59 < minute
      || 60 < second || 86400 ≤ offset.natAbs
      || year < -262143 || 262142 < year then none
  else
    let leap := second = 60
    let clock : Int :=
      hour * 3600 + minute * 60 + (if leap then 59 else second)
    let secs := date.toDays * 86400 + clock - offset
    let instant ← Instant.ofNanos? (secs * 1000000000 + nanos)
    pure ⟨instant, leap⟩

-- ====================================================== as a structured value

def toJson (s : Stamp) : Json := .str s.toText

def ofJson : Json.Decoder Stamp
  | .str s =>
    match parse s with
    | some d => .ok d
    | none => .error .badDate
  | j =>
    .error (.wrongType j.describe "an RFC 3339 formatted date and time string")

end Stamp

end Fleetkeeper
