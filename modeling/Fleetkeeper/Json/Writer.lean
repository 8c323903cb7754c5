/-
Values as text: no blanks, members in their order, a control character
escaped and every other character as it is. A written value holds no line
break, so one value per line is a framing that survives any content.
-/
import Fleetkeeper.Json.Basic

namespace Fleetkeeper.Json

/-- A hexadecimal digit, lower case. -/
def hexDigit (n : Nat) : Char :=
  if n < 10 then Char.ofNat (48 + n) else Char.ofNat (87 + n)

/-- A character inside quotes. -/
def escape (c : Char) : List Char :=
  if c = '"' then ['\\', '"']
  else if c = '\\' then ['\\', '\\']
  else if c = '\n' then ['\\', 'n']
  else if c = '\r' then ['\\', 'r']
  else if c = '\t' then ['\\', 't']
  else if c.toNat = 8 then ['\\', 'b']
  else if c.toNat = 12 then ['\\', 'f']
  else if c.toNat < 32 then
    ['\\', 'u', '0', '0', hexDigit (c.toNat / 16), hexDigit (c.toNat % 16)]
  else [c]

/-- A text in quotes. -/
def quote (s : String) : List Char :=
  '"' :: (s.toList.flatMap escape ++ ['"'])

/-- A whole number, base ten. -/
def digits (i : Int) : List Char := (toString i).toList

mutual

/-- A value as characters. -/
def write : Json → List Char
  | null => "null".toList
  | bool true => "true".toList
  | bool false => "false".toList
  | int i => digits i
  | real x => x.toText.toList
  | str s => quote s
  | arr items => '[' :: writeItems items
  | obj members => '{' :: writeMembers members
  | unreadable => "null".toList

/-- What follows the opening bracket of an array. -/
def writeItems : List Json → List Char
  | [] => [']']
  | [x] => write x ++ [']']
  | x :: y :: rest => write x ++ ',' :: writeItems (y :: rest)

/-- What follows the opening brace of an object. -/
def writeMembers : List (String × Json) → List Char
  | [] => ['}']
  | [(k, v)] => quote k ++ ':' :: (write v ++ ['}'])
  | (k, v) :: m :: rest =>
    quote k ++ ':' :: (write v ++ ',' :: writeMembers (m :: rest))

end

/-- A value as text. -/
def render (j : Json) : String := String.ofList (write j)

end Fleetkeeper.Json
