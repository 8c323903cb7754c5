/-
Values to domain types: why a value is not what was wanted, and the readers
of scalars, lists, tables and words.
-/
import Fleetkeeper.Fault
import Fleetkeeper.Json.Basic

namespace Fleetkeeper.Json

/-- Why a value could not be read as what was wanted. -/
inductive Mismatch where
  | malformed
  | wrongType (found : String) (expected : String)
  | wrongValue (found : String) (expected : String)
  | missingField (name : String)
  | repeatedField (name : String)
  | unknownVariant (found : String) (known : List String)
  | wrongLength (found : Nat) (expected : String)
  | badDate
deriving Repr

/-- A character of a quoted text; control characters are escaped by their
number, where they have no letter of their own. -/
def describeChar (c : Char) : String :=
  match c with
  | '"' => "\\\""
  | '\\' => "\\\\"
  | '\n' => "\\n"
  | '\r' => "\\r"
  | '\t' => "\\t"
  | c =>
    if c.toNat = 0 then "\\0"
    else if c.toNat < 0x20 ∨ (0x7F ≤ c.toNat ∧ c.toNat < 0xA0) then
      "\\u\x7b" ++ String.ofList (Nat.toDigits 16 c.toNat) ++ "\x7d"
    else c.toString

/-- A text in quotes. -/
def describeText (s : String) : String :=
  "\"" ++ String.join (s.toList.map describeChar) ++ "\""

/-- What a value is called in a complaint. -/
def describe : Json → String
  | null => "null"
  | bool b => "boolean " ++ "`" ++ (if b then "true" else "false") ++ "`"
  | int i => "integer `" ++ toString i ++ "`"
  | real x => "floating point `" ++ x.toText ++ "`"
  | str s => "string " ++ describeText s
  | arr _ => "sequence"
  | obj _ => "map"
  | unreadable => "number"

/-- The choices of a complaint. -/
def choices : List String → String
  | [] => "there are no variants"
  | [a] => "expected `" ++ a ++ "`"
  | [a, b] => "expected `" ++ a ++ "` or `" ++ b ++ "`"
  | l =>
    "expected one of " ++ ", ".intercalate (l.map fun a => "`" ++ a ++ "`")

namespace Mismatch

/-- The wording of a mismatch. -/
def message : Mismatch → String
  | malformed => "malformed text"
  | wrongType found expected =>
    "invalid type: " ++ found ++ ", expected " ++ expected
  | wrongValue found expected =>
    "invalid value: " ++ found ++ ", expected " ++ expected
  | missingField name => "missing field `" ++ name ++ "`"
  | repeatedField name => "duplicate field `" ++ name ++ "`"
  | unknownVariant found known =>
    "unknown variant `" ++ found ++ "`, " ++ choices known
  | wrongLength found expected =>
    "invalid length " ++ toString found ++ ", expected " ++ expected
  | badDate => "input contains invalid characters"

/-- A mismatch as the fault of the operation that met it. -/
def toFault (m : Mismatch) : Fault := .json m.message

end Mismatch

/-- A reading of values as `α`. -/
abbrev Decoder (α : Type) := Json → Except Mismatch α

-- =============================================================== scalars

def asBool : Decoder Bool
  | bool b => .ok b
  | j => .error (.wrongType j.describe "a boolean")

def asText : Decoder String
  | str s => .ok s
  | j => .error (.wrongType j.describe "a string")

/-- A whole number within bounds. -/
def asInt (low high : Int) (what : String) : Decoder Int
  | int i =>
    if low ≤ i ∧ i ≤ high then .ok i
    else .error (.wrongValue (int i).describe what)
  | j => .error (.wrongType j.describe what)

/-- A number of 64 bits. -/
def asU64 : Decoder Nat := fun j =>
  (asInt 0 18446744073709551615 "u64" j).map Int.toNat

/-- A number of 32 bits. -/
def asU32 : Decoder Nat := fun j =>
  (asInt 0 4294967295 "u32" j).map Int.toNat

/-- A signed number of 64 bits. -/
def asI64 : Decoder Int :=
  asInt (-9223372036854775808) 9223372036854775807 "i64"

/-- A binary64 number; a whole number is taken to the nearest one. -/
def asReal : Decoder Binary64
  | real x => .ok x
  | int i =>
    match Binary64.ofInt i with
    | some x => .ok x
    | none => .error (.wrongValue (int i).describe "f64")
  | j => .error (.wrongType j.describe "f64")

-- ============================================================ containers

def asOption {α : Type} (f : Decoder α) : Decoder (Option α)
  | null => .ok none
  | j => (f j).map some

def asList {α : Type} (f : Decoder α) : Decoder (List α)
  | arr items => items.mapM f
  | j => .error (.wrongType j.describe "a sequence")

/-- An object as a table; the last of a repeated key counts. -/
def asTable {α : Type} (f : Decoder α) : Decoder (Table α)
  | obj members => do
    let entries ← members.mapM fun m => (f m.2).map fun v => (m.1, v)
    pure (Table.ofList entries)
  | j => .error (.wrongType j.describe "a map")

/-- One of a few words. It may also stand as the only key of an object, over
`null`. -/
def asWord : Decoder String
  | str s => .ok s
  | obj [(s, null)] => .ok s
  | obj [(_, j)] => .error (.wrongType j.describe "unit")
  | obj _ => .error (.wrongValue "map" "map with a single key")
  | j => .error (.wrongType j.describe "string or map")

/-- A value of a finite type by its word. -/
def asVariant {α : Type} (known : List (String × α)) : Decoder α := fun j => do
  let s ← asWord j
  match known.find? (fun e => e.1 == s) with
  | some e => pure e.2
  | none => throw (.unknownVariant s (known.map Prod.fst))

end Fleetkeeper.Json
