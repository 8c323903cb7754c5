/-
Percent encoding: what may not stand in a part of an address is written as
its UTF-8 bytes, each a percent sign and two hexadecimal digits. Which
characters those are depends on the part.
-/
import Fleetkeeper.Text.Digit

namespace Fleetkeeper.Http.Percent

/-- A hexadecimal digit, upper case. -/
def hexDigit (n : Nat) : Char :=
  if n < 10 then Char.ofNat (48 + n) else Char.ofNat (55 + n)

/-- A byte, escaped. -/
def escapeByte (b : UInt8) : List Char :=
  ['%', hexDigit (b.toNat / 16), hexDigit (b.toNat % 16)]

/-- A character, its bytes escaped. -/
def escape (c : Char) : List Char :=
  (String.utf8EncodeChar c).flatMap escapeByte

/-- Characters with those of a set escaped. -/
def encode (set : Char → Bool) (cs : List Char) : List Char :=
  cs.flatMap fun c => if set c then escape c else [c]

/-- Control characters and all beyond ASCII. -/
def isControl (c : Char) : Bool := c.toNat < 0x20 || 0x7E < c.toNat

/-- What is escaped in a path. -/
def inPath (c : Char) : Bool :=
  isControl c
    || [' ', '"', '#', '<', '>', '?', '`', '\x7b', '\x7d'].contains c

/-- What is escaped in a query. -/
def inQuery (c : Char) : Bool :=
  isControl c || [' ', '"', '#', '<', '>', '\''].contains c

/-- What stands for itself in a form. -/
def plainInForm (c : Char) : Bool :=
  c.isAlphanum || ['*', '-', '.', '_'].contains c

/-- A text as a value of a form: a space is a plus sign. -/
def form (s : String) : List Char :=
  s.toList.flatMap fun c =>
    if c = ' ' then ['+'] else if plainInForm c then [c] else escape c

/-- Bytes with escapes resolved; a percent sign that opens none stands for
itself. -/
def decode : List UInt8 → List UInt8
  | 37 :: a :: b :: rest =>
    match Text.hexValue? (Char.ofNat a.toNat),
    Text.hexValue? (Char.ofNat b.toNat) with
    | some x, some y => UInt8.ofNat (x * 16 + y) :: decode rest
    | _, _ => 37 :: decode (a :: b :: rest)
  | b :: rest => b :: decode rest
  | [] => []

end Fleetkeeper.Http.Percent
