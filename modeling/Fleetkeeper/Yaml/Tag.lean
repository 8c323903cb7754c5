/-
Tags, anchors and directives as they are written.
-/
import Fleetkeeper.Text.Digit
import Fleetkeeper.Text.Utf8
import Fleetkeeper.Yaml.Cursor
import Fleetkeeper.Yaml.Token

namespace Fleetkeeper.Yaml

/-- Characters in front of the first that `p` refuses, and the place after
them. -/
def takeRun (p : Char → Bool) (m : Mark) (cs : List Char) :
    List Char × Mark × List Char :=
  let run := cs.takeWhile p
  (run, m.move run.length, cs.dropWhile p)

/-- The name after the sign of an anchor or an alias. -/
def anchorName (m : Mark) (cs : List Char) :
    Except String (String × Mark × List Char) :=
  let (name, m, rest) := takeRun isNameChar m cs
  if name ≠ [] && (endsWord rest
      || rest.head?.any fun c => "?:,]\x7d%@`".toList.contains c) then
    .ok (String.ofList name, m, rest)
  else .error "did not find expected alphabetic or numeric character"

-- ==================================================================== tags

/-- Characters of a tag; in angle brackets also those of flow sequences. -/
def isTagChar (bracketed : Bool) (c : Char) : Bool :=
  isNameChar c || ";/?:@&=+$.!~*'()".toList.contains c
    || (bracketed && (c = ',' || c = '[' || c = ']'))

/-- Escaped bytes in a row. -/
def octets : List Char → List UInt8 × List Char
  | '%' :: a :: b :: r =>
    match Text.hexValue? a, Text.hexValue? b with
    | some a, some b =>
      let (bytes, rest) := octets r
      (UInt8.ofNat (16 * a + b) :: bytes, rest)
    | _, _ => ([], '%' :: a :: b :: r)
  | cs => ([], cs)

/-- The text of a tag: its characters, with escaped bytes read as UTF-8. -/
def tagText (bracketed : Bool) :
    Nat → Mark → List Char → Except String (List Char × Mark × List Char)
  | 0, m, cs => .ok ([], m, cs)
  | n + 1, m, cs =>
    match cs with
    | [] => .ok ([], m, [])
    | c :: r =>
      if c = '%' then
        match octets cs with
        | ([], _) => .error "did not find URI escaped octet"
        | (bytes, rest) =>
          match Text.Utf8.decode? bytes with
          | none => .error "found an incorrect UTF-8 octet"
          | some text => do
            let (more, m, rest) ← tagText bracketed n
              (m.move (3 * bytes.length)) rest
            pure (text.toList ++ more, m, rest)
      else if isTagChar bracketed c then do
        let (more, m, rest) ← tagText bracketed n (m.move 1) r
        pure (c :: more, m, rest)
      else .ok ([], m, cs)

/-- A handle: an exclamation mark, and a name closed by another, if there is
one. -/
def tagHandle (m : Mark) :
    List Char → Except String (List Char × Mark × List Char)
  | '!' :: r =>
    let (name, m, rest) := takeRun isNameChar (m.move 1) r
    match rest with
    | '!' :: rest => .ok ('!' :: name ++ ['!'], m.move 1, rest)
    | rest => .ok ('!' :: name, m, rest)
  | _ => .error "did not find expected '!'"

/-- The tag that starts here. A tag ends at a gap or a break, and in a flow
collection also at a comma. -/
def readTag (inFlow : Bool) (m : Mark) (cs : List Char) :
    Except String (Token × Mark × List Char) := do
  let (token, m, rest) ← match cs with
    | '!' :: '<' :: r => do
      let (text, m, rest) ← tagText true (r.length + 1) (m.move 2) r
      if text = [] then throw "did not find expected tag URI"
      match rest with
      | '>' :: rest => pure (Token.tag "" (String.ofList text), m.move 1, rest)
      | _ => throw "did not find the expected '>'"
    | cs => do
      let (handle, m, rest) ← tagHandle m cs
      let (text, m, rest) ← tagText false (rest.length + 1) m rest
      if 1 < handle.length && handle.getLast? = some '!' then
        if text = [] then throw "did not find expected tag URI"
        pure (Token.tag (String.ofList handle) (String.ofList text), m, rest)
      else
        let suffix := handle.drop 1 ++ text
        pure (if suffix = [] then Token.tag "" "!"
          else Token.tag "!" (String.ofList suffix), m, rest)
  if endsWord rest || (inFlow && rest.head? = some ',') then
    pure (token, m, rest)
  else throw "did not find expected whitespace or line break"

-- ============================================================== directives

/-- A part of a version number: nine digits at most. -/
def versionPart (m : Mark) (cs : List Char) :
    Except String (Nat × Mark × List Char) :=
  let (digits, m, rest) := takeRun Char.isDigit m cs
  if digits = [] then .error "did not find expected version number"
  else if 9 < digits.length then .error "found extremely long version number"
  else .ok (digits.foldl (fun n c => 10 * n + (c.toNat - 48)) 0, m, rest)

/-- A directive after its percent sign, up to the start of the next line. -/
def directive (m : Mark) (cs : List Char) :
    Except String (Token × Mark × List Char) := do
  let (name, m, rest) := takeRun isNameChar m cs
  if name = [] then throw "could not find expected directive name"
  if !endsWord rest then throw "found unexpected non-alphabetical character"
  let (m, rest) := skipGaps m rest
  let (token, m, rest) ←
    if name = "YAML".toList then do
      let (major, m, rest) ← versionPart m rest
      match rest with
      | '.' :: rest =>
        let (minor, m, rest) ← versionPart (m.move 1) rest
        pure (Token.version major minor, m, rest)
      | _ => throw "did not find expected digit or '.' character"
    else if name = "TAG".toList then do
      let (handle, m, rest) ← tagHandle m rest
      if handle.length ≠ 1 && handle.getLast? ≠ some '!' then
        throw "did not find expected '!'"
      if !(rest.head?.any isGap) then throw "did not find expected whitespace"
      let (m, rest) := skipGaps m rest
      let (stem, m, rest) ← tagText true (rest.length + 1) m rest
      if stem = [] then throw "did not find expected tag URI"
      if !endsWord rest then
        throw "did not find expected whitespace or line break"
      pure (Token.handle (String.ofList handle) (String.ofList stem), m, rest)
    else throw "found unknown directive name"
  let (m, rest) := skipGaps m rest
  let (m, rest) := skipComment m rest
  if !endsLine rest then throw "did not find expected comment or line break"
  let (m, rest) := skipBreak m rest
  pure (token, m, rest)

end Fleetkeeper.Yaml
