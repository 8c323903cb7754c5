/-
Text to values, strictly: no comments, no trailing commas, no raw control
characters, nothing after the value. A whole number that fits 64 bits stays
whole; any other numeral becomes a binary64 number. Where a numeral lies
beyond the format or a text holds half a surrogate pair the form is still
checked to the end and the value is `unreadable`, so a record that skips an
unknown member does not mind.
-/
import Fleetkeeper.Json.Basic
import Fleetkeeper.Text.Digit

namespace Fleetkeeper.Json

-- ============================================================== blanks

/-- Blanks between tokens. -/
def isBlank (c : Char) : Bool :=
  c = ' ' || c = '\n' || c = '\t' || c = '\r'

/-- The text after leading blanks. -/
def skipBlank (cs : List Char) : List Char := cs.dropWhile isBlank

-- ============================================================= numerals

/-- Largest 64-bit number. -/
def maxU64 : Nat := 18446744073709551615

/-- A significand that takes digits while they fit 64 bits. -/
structure Significand where
  value : Nat
  /-- Digits left out. -/
  dropped : Nat
  /-- Digits taken. -/
  taken : Nat

/-- Take digits from the left; after the first that does not fit, all are
left out. -/
def Significand.push (s : Significand) (d : Nat) : Significand :=
  if s.dropped = 0 ∧ s.value * 10 + d ≤ maxU64 then
    { s with value := s.value * 10 + d, taken := s.taken + 1 }
  else { s with dropped := s.dropped + 1 }

/-- The value of a digit. -/
def digitValue (c : Char) : Nat := c.toNat - 48

/-- A run of digits as a significand that starts from `value`. -/
def significand (value : Nat) (ds : List Char) : Significand :=
  ds.foldl (fun s c => s.push (digitValue c)) ⟨value, 0, 0⟩

/-- The value of a numeral with a fraction or an exponent, or of a whole
numeral too long for 64 bits. -/
def realOf (negative : Bool) (whole fraction : List Char)
    (exponent : Option (Bool × List Char)) : Json :=
  let w := significand 0 whole
  let f := significand w.value fraction
  let shift : Int := (w.dropped : Int) - f.taken
  let zero : Json := real ⟨negative, 0⟩
  let scaled (e : Int) : Json :=
    match Binary64.ofDecimal negative f.value (shift + e) with
    | some x => real x
    | none => unreadable
  match exponent with
  | none => scaled 0
  | some (down, ds) =>
    let e := ds.foldl (fun n c => n * 10 + digitValue c) 0
    if 2147483647 < e then
      if f.value ≠ 0 ∧ !down then unreadable else zero
    else scaled (if down then -(e : Int) else e)

/-- The value of a whole numeral. Minus zero is no whole number. -/
def wholeOf (negative : Bool) (ds : List Char) : Json :=
  let s := significand 0 ds
  if s.dropped ≠ 0 then realOf negative ds [] none
  else if !negative then int s.value
  else if s.value = 0 ∨ 9223372036854775808 < s.value then
    realOf true ds [] none
  else int (-(s.value : Int))

/-- A run of digits and what follows it. -/
def takeDigits (cs : List Char) : List Char × List Char :=
  (cs.takeWhile Char.isDigit, cs.dropWhile Char.isDigit)

/-- The exponent part of a numeral: whether it is negative, its digits, and
what follows. -/
def exponentPart (cs : List Char) : Option ((Bool × List Char) × List Char) :=
  let (down, cs) := match cs with
    | '-' :: r => (true, r)
    | '+' :: r => (false, r)
    | r => (false, r)
  match takeDigits cs with
  | ([], _) => none
  | (ds, r) => some ((down, ds), r)

/-- A numeral without its sign. -/
def numeral (negative : Bool) (cs : List Char) : Option (Json × List Char) :=
  match takeDigits cs with
  | ([], _) => none
  | (ds, r) =>
    if ds.head? = some '0' ∧ ds.length ≠ 1 then none
    else
      match r with
      | '.' :: r =>
        match takeDigits r with
        | ([], _) => none
        | (fs, r) =>
          match r with
          | 'e' :: r | 'E' :: r =>
            (exponentPart r).map fun (e, r) =>
              (realOf negative ds fs (some e), r)
          | r => some (realOf negative ds fs none, r)
      | 'e' :: r | 'E' :: r =>
        (exponentPart r).map fun (e, r) => (realOf negative ds [] (some e), r)
      | r => some (wholeOf negative ds, r)

-- ================================================================ texts

/-- Four hexadecimal digits. -/
def hex4? : List Char → Option (Nat × List Char)
  | a :: b :: c :: d :: r => do
    let a ← Text.hexValue? a
    let b ← Text.hexValue? b
    let c ← Text.hexValue? c
    let d ← Text.hexValue? d
    pure (((a * 16 + b) * 16 + c) * 16 + d, r)
  | _ => none

/-- What an escape without digits stands for. -/
def simpleEscape? : Char → Option Char
  | '"' => some '"'
  | '\\' => some '\\'
  | '/' => some '/'
  | 'b' => some (Char.ofNat 8)
  | 'f' => some (Char.ofNat 12)
  | 'n' => some '\n'
  | 'r' => some '\r'
  | 't' => some '\t'
  | _ => none

/-- The text after an opening quote: its characters, most recent first, or
`none` in their place once half a surrogate pair was met; and what follows
the closing quote. -/
def textBody : Nat → Option (List Char) → List Char →
    Option (Option (List Char) × List Char)
  | 0, _, _ => none
  | _ + 1, _, [] => none
  | n + 1, acc, c :: r =>
    if c = '"' then some (acc, r)
    else if c = '\\' then
      match r with
      | 'u' :: r =>
        match hex4? r with
        | none => none
        | some (u, r) =>
          if 0xD800 ≤ u ∧ u ≤ 0xDBFF then
            match r with
            | '\\' :: 'u' :: r' =>
              match hex4? r' with
              | none => none
              | some (v, r'') =>
                if 0xDC00 ≤ v ∧ v ≤ 0xDFFF then
                  let code := 0x10000 + (u - 0xD800) * 0x400 + (v - 0xDC00)
                  textBody n (acc.map (Char.ofNat code :: ·)) r''
                else textBody n none r
            | _ => textBody n none r
          else if 0xDC00 ≤ u ∧ u ≤ 0xDFFF then textBody n none r
          else textBody n (acc.map (Char.ofNat u :: ·)) r
      | e :: r =>
        match simpleEscape? e with
        | none => none
        | some x => textBody n (acc.map (x :: ·)) r
      | [] => none
    else if c.toNat < 32 then none
    else textBody n (acc.map (c :: ·)) r

/-- A text after its opening quote. -/
def text (cs : List Char) : Option (Option String × List Char) :=
  (textBody (cs.length + 1) (some []) cs).map fun (acc, r) =>
    (acc.map fun l => String.ofList l.reverse, r)

-- =============================================================== values

/-- The text after a fixed word. -/
def expect (word cs : List Char) : Option (List Char) :=
  if word.isPrefixOf cs then some (cs.drop word.length) else none

mutual

/-- A value and what follows it. -/
def value : Nat → List Char → Option (Json × List Char)
  | 0, _ => none
  | n + 1, cs =>
    match skipBlank cs with
    | '{' :: r =>
      match skipBlank r with
      | '}' :: r => some (obj [], r)
      | r => (members n r).map fun (ms, r) =>
          (match ms with
            | some ms => obj ms
            | none => unreadable, r)
    | '[' :: r =>
      match skipBlank r with
      | ']' :: r => some (arr [], r)
      | r => (items n r).map fun (xs, r) => (arr xs, r)
    | '"' :: r => (text r).map fun (s, r) =>
        (match s with
          | some s => str s
          | none => unreadable, r)
    | 't' :: r => (expect "rue".toList r).map fun r => (bool true, r)
    | 'f' :: r => (expect "alse".toList r).map fun r => (bool false, r)
    | 'n' :: r => (expect "ull".toList r).map fun r => (null, r)
    | '-' :: r => numeral true r
    | r => numeral false r

/-- The items of an array that has some. -/
def items : Nat → List Char → Option (List Json × List Char)
  | 0, _ => none
  | n + 1, cs =>
    match value n cs with
    | none => none
    | some (x, r) =>
      match skipBlank r with
      | ']' :: r => some ([x], r)
      | ',' :: r => (items n r).map fun (xs, r) => (x :: xs, r)
      | _ => none

/-- The members of an object that has some; `none` in their place when a key
cannot be read. -/
def members : Nat → List Char →
    Option (Option (List (String × Json)) × List Char)
  | 0, _ => none
  | n + 1, cs =>
    match skipBlank cs with
    | '"' :: r =>
      match text r with
      | none => none
      | some (k, r) =>
        match skipBlank r with
        | ':' :: r =>
          match value n r with
          | none => none
          | some (v, r) =>
            let here (rest : Option (List (String × Json))) := do
              let k ← k
              let rest ← rest
              pure ((k, v) :: rest)
            match skipBlank r with
            | '}' :: r => some (here (some []), r)
            | ',' :: r => (members n r).map fun (ms, r) => (here ms, r)
            | _ => none
        | _ => none
    | _ => none

end

/-- The value that a text holds, with nothing but blanks around it. -/
def parse (s : String) : Option Json :=
  let cs := s.toList
  match value (cs.length + 1) cs with
  | some (j, r) => if skipBlank r = [] then some j else none
  | none => none

end Fleetkeeper.Json
