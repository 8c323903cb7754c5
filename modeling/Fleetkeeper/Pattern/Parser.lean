/-
Patterns as text. Alternatives are separated by bars and made of items, each
of which may be repeated; an item is a character, an escape, a class in
brackets, a condition on a place or a group. Flags hold to the end of the
group they are set in. Look-around and references to earlier groups are no
patterns, since one pass over the text could not match them.
-/
import Fleetkeeper.Pattern.Size
import Fleetkeeper.Text.Digit

namespace Fleetkeeper.Pattern

/-- How the following text is to be read. -/
structure Flags where
  anyCase : Bool := false
  multiLine : Bool := false
  /-- Whether a dot is a line break too. -/
  dotAll : Bool := false
  /-- Whether blanks and comments are left out. -/
  spaced : Bool := false
  unicode : Bool := true
  /-- Whether a carriage return ends a line too. -/
  returns : Bool := false
deriving DecidableEq, Repr

/-- What is left to read, how, and the names given to groups so far. -/
structure Reading where
  rest : List Char
  flags : Flags := {}
  names : List String := []

namespace Reading

/-- Leave out blanks and comments, at most `fuel` of them. -/
def dropSpace : Nat → List Char → List Char
  | 0, cs => cs
  | fuel + 1, cs =>
    match Text.dropBlank cs with
    | '#' :: r => dropSpace fuel ((r.dropWhile (· ≠ '\n')).drop 1)
    | cs => cs

/-- What is left once blanks and comments are left out, where they do not
count. -/
def skip (r : Reading) : Reading :=
  if r.flags.spaced then { r with rest := dropSpace r.rest.length r.rest }
  else r

/-- What is left after so many characters. -/
def drop (n : Nat) (r : Reading) : Reading := { r with rest := r.rest.drop n }

end Reading

-- ============================================================== characters

/-- Characters with a meaning of their own. -/
def isMeta (c : Char) : Bool :=
  "\\.+*?()|[]\x7b\x7d^$#&-~".toList.contains c

/-- Whether a backslash before the character makes it stand for itself. -/
def isPlainEscape (c : Char) : Bool :=
  isMeta c || (c.toNat < 0x80 && !c.isAlphanum && c ≠ '<' && c ≠ '>')

/-- The ASCII letters of a set in both cases, beside the set. -/
def asciiCase (a : CharSet) : CharSet :=
  .union a (.inter (.anyCase a) (.range '\x00' '\x7f'))

/-- A set under flags. -/
def folded (f : Flags) (a : CharSet) : CharSet :=
  if !f.anyCase then a else if f.unicode then .anyCase a else asciiCase a

/-- A set as a pattern. Without Unicode a set holds ASCII alone. -/
def ofSet? (f : Flags) (a : CharSet) : Option Pattern :=
  if !f.unicode && a.mem '\x80' then none else some (.char a)

/-- A character that stands for itself. -/
def literal (f : Flags) (c : Char) : Pattern :=
  .char (folded f (.single c))

/-- What a dot stands for. -/
def dot (f : Flags) : CharSet :=
  if f.dotAll then .all
  else if f.returns then .compl (.union (.single '\n') (.single '\r'))
  else .compl (.single '\n')

/-- The place that `^` stands for. -/
def startPlace (f : Flags) : Place :=
  if !f.multiLine then .textStart
  else if f.returns then .anyLineStart else .lineStart

/-- The place that `$` stands for. -/
def endPlace (f : Flags) : Place :=
  if !f.multiLine then .textEnd
  else if f.returns then .anyLineEnd else .lineEnd

/-- The class of a letter behind a backslash. -/
def letterClass? (f : Flags) (c : Char) : Option CharSet :=
  let pick (wide : CharSet) (name : String) : CharSet :=
    if f.unicode then wide else (CharSet.asciiClass? name).getD .empty
  match c with
  | 'd' => some (pick .digit "digit")
  | 'D' => some (.compl (pick .digit "digit"))
  | 's' => some (pick .blank "space")
  | 'S' => some (.compl (pick .blank "space"))
  | 'w' => some (pick .word "word")
  | 'W' => some (.compl (pick .word "word"))
  | _ => none

-- ================================================================= escapes

/-- What an escape stands for. -/
inductive Escape where
  | char (c : Char)
  | set (s : CharSet)
  | place (p : Place)

/-- The character of a hexadecimal number. -/
def hexChar? (cs : List Char) : Option Char := do
  if 8 < (cs.dropWhile (· = '0')).length then none
  else
    let n ← Text.number? 16 cs
    if h : n.isValidChar then some (Char.ofNatAux n h) else none

/-- The text up to a closing brace, and what follows it. -/
def braced? (cs : List Char) : Option (List Char × List Char) :=
  let inner := cs.takeWhile (· ≠ '\x7d')
  if inner.length < cs.length then some (inner, cs.drop (inner.length + 1))
  else none

/-- A hexadecimal escape of `width` digits, or of any number in braces. -/
def hexEscape? (width : Nat) (r : Reading) : Option (Escape × Reading) :=
  let r := r.skip
  match r.rest with
  | '\x7b' :: more => do
    let (digits, rest) ← braced? more
    let c ← hexChar? digits
    pure (.char c, { r with rest })
  | cs =>
    let digits := cs.take width
    if digits.length < width then none
    else do
      let c ← hexChar? digits
      if width = 2 && !r.flags.unicode && 0x7F < c.toNat then none
      else pure (.char c, r.drop width)

/-- The set of a property, as it stands between braces. -/
def propertySet? (f : Flags) (negated : Bool) (name : List Char) :
    Option CharSet := do
  let s := String.ofList name
  let (differs, value) ←
    match s.splitOn "!=" with
    | [_, v] => some (true, v)
    | _ =>
      match (s.split fun c => c = '=' || c = ':').toList with
      | [_, v] => some (false, v.copy)
      | _ => some (false, s)
  let a ← CharSet.property? value
  if f.unicode then some (.negatedIf (negated != differs) (folded f a))
  else none

/-- A property escape; `negated` where its letter was a capital. -/
def propertyEscape? (negated : Bool) (r : Reading) :
    Option (Escape × Reading) :=
  let r := r.skip
  match r.rest with
  | '\x7b' :: more => do
    let (name, rest) ← braced? more
    let a ← propertySet? r.flags negated name
    pure (.set a, { r with rest })
  | c :: more => do
    let a ← propertySet? r.flags negated [c]
    pure (.set a, { r with rest := more })
  | [] => none

/-- A word edge, or one of its kinds in braces; braces that hold a number are
left for a repetition. -/
def edgeEscape? (r : Reading) : Option (Escape × Reading) :=
  let isName (c : Char) : Bool := c.isAlpha || c = '-'
  match r.rest with
  | '\x7b' :: more =>
    match more with
    | [] => none
    | c :: _ =>
      if !isName c then some (.place .wordEdge, r)
      else
        let name := more.takeWhile isName
        match more.drop name.length with
        | '\x7d' :: rest =>
          let found (p : Place) : Option (Escape × Reading) :=
            some (.place p, { r with rest })
          match String.ofList name with
          | "start" => found .wordStart
          | "end" => found .wordEnd
          | "start-half" => found .noWordBefore
          | "end-half" => found .noWordAfter
          | _ => none
        | _ => none
  | _ => some (.place .wordEdge, r)

/-- What follows a backslash. -/
def escape? (r : Reading) : Option (Escape × Reading) :=
  match r.rest with
  | [] => none
  | c :: rest =>
    let r := { r with rest }
    match letterClass? r.flags c with
    | some a => some (.set a, r)
    | none =>
      match c with
      | 'x' => hexEscape? 2 r
      | 'u' => hexEscape? 4 r
      | 'U' => hexEscape? 8 r
      | 'p' => propertyEscape? false r
      | 'P' => propertyEscape? true r
      | 'a' => some (.char '\x07', r)
      | 'f' => some (.char '\x0c', r)
      | 't' => some (.char '\t', r)
      | 'n' => some (.char '\n', r)
      | 'r' => some (.char '\r', r)
      | 'v' => some (.char '\x0b', r)
      | 'A' => some (.place .textStart, r)
      | 'z' => some (.place .textEnd, r)
      | 'b' => edgeEscape? r
      | 'B' => some (.place .noWordEdge, r)
      | '<' => some (.place .wordStart, r)
      | '>' => some (.place .wordEnd, r)
      | _ => if isPlainEscape c then some (.char c, r) else none

-- ================================================================= classes

/-- How two sides of a class are combined. -/
inductive SetOp where
  | inter | diff | symmDiff

namespace SetOp

/-- Two sides, each in all cases where that is asked for. -/
def apply (f : Flags) (op : SetOp) (a b : CharSet) : CharSet :=
  let a := folded f a
  let b := folded f b
  match op with
  | inter => .inter a b
  | diff => .diff a b
  | symmDiff => .symmDiff a b

end SetOp

/-- A class in the making: the side read before, with how it is combined with
this one, and what this one holds so far. -/
structure ClassSoFar where
  before : Option (CharSet × SetOp) := none
  here : CharSet := .empty

namespace ClassSoFar

def add (k : ClassSoFar) (a : CharSet) : ClassSoFar :=
  { k with here := .union k.here a }

/-- Both sides as one set. -/
def total (f : Flags) (k : ClassSoFar) : CharSet :=
  match k.before with
  | some (a, op) => op.apply f a k.here
  | none => k.here

/-- Start another side. -/
def operator (f : Flags) (op : SetOp) (k : ClassSoFar) : ClassSoFar :=
  { before := some (k.total f, op) }

end ClassSoFar

/-- A class that is named between colons and brackets. -/
def namedClass? (cs : List Char) : Option (CharSet × List Char) :=
  match cs with
  | '[' :: ':' :: more =>
    let (negated, more) := match more with
      | '^' :: m => (true, m)
      | _ => (false, more)
    let name := more.takeWhile (· ≠ ':')
    match more.drop name.length with
    | ':' :: ']' :: rest =>
      (CharSet.asciiClass? (String.ofList name)).map fun a =>
        (.negatedIf negated a, rest)
    | _ => none
  | _ => none

/-- A member of a class: a character, or a set. -/
def member? (r : Reading) : Option ((Char ⊕ CharSet) × Reading) :=
  match r.rest with
  | [] => none
  | '\\' :: rest =>
    match escape? { r with rest } with
    | some (.char c, r) => some (.inl c, r)
    | some (.set a, r) => some (.inr a, r)
    | _ => none
  | c :: rest =>
    if !r.flags.unicode && 0x7F < c.toNat then none
    else some (.inl c, { r with rest })

/-- A member as a set. -/
def memberSet : Char ⊕ CharSet → CharSet
  | .inl c => .single c
  | .inr a => a

/-- A member or a range of a class. -/
def range? (r : Reading) : Option (CharSet × Reading) := do
  let (first, r) ← member? r
  let r := r.skip
  match r.rest with
  | [] => none
  | '-' :: _ =>
    match (r.drop 1).skip.rest with
    | [] => none
    | c :: _ =>
      if c = ']' || c = '-' then pure (memberSet first, r)
      else
        let (last, r) ← member? (r.drop 1).skip
        match first, last with
        | .inl low, .inl high =>
          if low ≤ high then pure (.range low high, r) else none
        | _, _ => none
  | _ => pure (memberSet first, r)

/-- The dashes that stand at the start of a class, for themselves. -/
def leadingDashes (fuel : Nat) (r : Reading) (k : ClassSoFar) :
    ClassSoFar × Reading :=
  match fuel with
  | 0 => (k, r)
  | fuel + 1 =>
    match r.skip.rest with
    | '-' :: rest =>
      leadingDashes fuel { r with rest } (k.add (.single '-'))
    | _ => (k, r.skip)

/-- The opening of a class, behind its bracket: whether it is negated, and
what stands for itself there. -/
def openClass (r : Reading) : Bool × ClassSoFar × Reading :=
  let r := r.skip
  let (negated, r) := match r.rest with
    | '^' :: rest => (true, { r with rest })
    | _ => (false, r)
  let (k, r') := leadingDashes r.rest.length r {}
  let noDash := r'.rest.length = r.skip.rest.length
  match r'.rest with
  | ']' :: rest =>
    if noDash then (negated, k.add (.single ']'), { r' with rest })
    else (negated, k, r')
  | _ => (negated, k, r')

/-- The rest of a class behind what was read of it, and its closing
bracket. -/
def classBody (fuel : Nat) (negated : Bool) (k : ClassSoFar) (r : Reading) :
    Option (CharSet × Reading) :=
  match fuel with
  | 0 => none
  | fuel + 1 =>
    let r := r.skip
    match r.rest with
    | [] => none
    | ']' :: rest =>
      some (.negatedIf negated (folded r.flags (k.total r.flags)),
        { r with rest })
    | '&' :: '&' :: rest =>
      classBody fuel negated (k.operator r.flags .inter) { r with rest }
    | '-' :: '-' :: rest =>
      classBody fuel negated (k.operator r.flags .diff) { r with rest }
    | '~' :: '~' :: rest =>
      classBody fuel negated (k.operator r.flags .symmDiff) { r with rest }
    | '[' :: rest =>
      match namedClass? r.rest with
      | some (a, rest) => classBody fuel negated (k.add a) { r with rest }
      | none => do
        let (innerNegated, inner, r) := openClass { r with rest }
        let (a, r) ← classBody fuel innerNegated inner r
        classBody fuel negated (k.add a) r
    | _ => do
      let (a, r) ← range? r
      classBody fuel negated (k.add a) r

/-- A class behind its opening bracket. -/
def class? (r : Reading) : Option (CharSet × Reading) :=
  let (negated, k, r) := openClass r
  classBody (r.rest.length + 1) negated k r

-- ============================================================= repetitions

/-- A number, blanks around it left out. -/
def number? (cs : List Char) : Option (Nat × List Char) :=
  let cs := Text.dropBlank cs
  let digits := cs.takeWhile Char.isDigit
  let n := digits.foldl (fun n c => n * 10 + (c.toNat - 48)) 0
  if digits.isEmpty || 4294967295 < n then none
  else some (n, Text.dropBlank (cs.drop digits.length))

/-- The bounds of a repetition, behind their opening brace. -/
def bounds? (r : Reading) : Option ((Nat × Option Nat) × Reading) := do
  let (low, cs) ← number? r.skip.rest
  let (high, cs) ←
    match cs with
    | ',' :: cs =>
      match ({ r with rest := cs } : Reading).skip.rest with
      | '\x7d' :: cs => some (none, '\x7d' :: cs)
      | cs => (number? cs).map fun (n, cs) => (some n, cs)
    | cs => some (some low, cs)
  match cs with
  | '\x7d' :: rest =>
    if high.any (· < low) then none
    else pure ((low, high), { r with rest })
  | _ => none

/-- The mark of a repetition that would rather be short: it changes nothing
about whether there is a match. -/
def skipLazy (r : Reading) : Reading :=
  let r := r.skip
  match r.rest with
  | '?' :: rest => { r with rest }
  | _ => r

-- ================================================================== groups

/-- Whether a character can be in the name of a group. -/
def isNameChar (first : Bool) (c : Char) : Bool :=
  let letter := (Text.category c).startsWith "L" || Text.category c = "Nl"
  c = '_' || letter
    || (!first && (c = '.' || c = '[' || c = ']'
      || (Text.category c).startsWith "N"))

/-- The name of a group, behind its opening angle bracket. -/
def groupName? (r : Reading) : Option Reading :=
  let name := r.rest.takeWhile (· ≠ '>')
  match r.rest.drop name.length, name with
  | '>' :: rest, c :: more =>
    let text := String.ofList name
    if isNameChar true c && more.all (isNameChar false)
        && !r.names.contains text then
      some { r with rest, names := text :: r.names }
    else none
  | _, _ => none

/-- Set one flag. -/
def setFlag? (f : Flags) (on : Bool) : Char → Option Flags
  | 'i' => some { f with anyCase := on }
  | 'm' => some { f with multiLine := on }
  | 's' => some { f with dotAll := on }
  | 'U' => some f
  | 'u' => some { f with unicode := on }
  | 'R' => some { f with returns := on }
  | 'x' => some { f with spaced := on }
  | _ => none

/-- Flags up to a colon or a closing parenthesis, which is given back. None
may be there twice, and a dash needs one behind it. -/
def flags? : List Char → (f : Flags) → (on : Bool) → (seen : List Char) →
    (dangling : Bool) → Option (Flags × Char × List Char × Bool)
  | [], _, _, _, _ => none
  | c :: rest, f, on, seen, dangling =>
    if c = ':' || c = ')' then
      if dangling then none else some (f, c, rest, seen.isEmpty)
    else if c = '-' then
      if !on then none else flags? rest f false seen true
    else if seen.contains c then none
    else do
      let f ← setFlag? f on c
      flags? rest f on (c :: seen) false

/-- Whether a group only looks around. -/
def looksAround : List Char → Bool
  | '?' :: '=' :: _ | '?' :: '!' :: _ => true
  | '?' :: '<' :: '=' :: _ | '?' :: '<' :: '!' :: _ => true
  | _ => false

/-- What a parenthesis opens. -/
inductive Opening where
  /-- A group, and how it is to be read inside. -/
  | group (inside : Reading)
  /-- Flags for what follows. -/
  | flags (after : Reading)

/-- What follows an opening parenthesis. -/
def opening? (r : Reading) : Option Opening :=
  let r := r.skip
  if looksAround r.rest then none
  else
    match r.rest with
    | '?' :: 'P' :: '<' :: rest => (groupName? { r with rest }).map .group
    | '?' :: '<' :: rest => (groupName? { r with rest }).map .group
    | '?' :: rest => do
      let (flags, c, rest, noFlag) ← flags? rest r.flags true [] false
      if c = ')' then
        if noFlag then none else some (.flags { r with rest, flags })
      else some (.group { r with rest, flags })
    | _ => some (.group r)

/-- Repeat the item read last. Nothing, or flags alone, cannot be
repeated. -/
def repeatLast? (low : Nat) (high : Option Nat) :
    List (Option Pattern) → Option (List (Option Pattern))
  | some p :: rest => some (some (.rep low high p) :: rest)
  | _ => none

/-- Items in the order they were read, as one pattern. -/
def together (items : List (Option Pattern)) : Pattern :=
  seqs (items.reverse.filterMap id)

/-- An escape as a pattern. -/
def ofEscape? (f : Flags) : Escape → Option Pattern
  | .char c => some (literal f c)
  | .set a => ofSet? f a
  | .place p => some (.place p)

/-- Alternatives up to the end of the text or a closing parenthesis; `alts`
are those read so far and `items` the items of this one, each the last one
first. Flags alone are an item without a pattern. -/
def alternatives? : Nat → List Pattern → List (Option Pattern) → Reading →
    Option (Pattern × Reading)
  | 0, _, _, _ => none
  | fuel + 1, alts, items, r =>
    let r := r.skip
    let finish : Pattern := alts.foldl (fun p q => .alt q p) (together items)
    let push (p : Pattern) (r : Reading) : Option (Pattern × Reading) :=
      alternatives? fuel alts (some p :: items) r
    let again (low : Nat) (high : Option Nat) (r : Reading) :
        Option (Pattern × Reading) := do
      let items ← repeatLast? low high items
      alternatives? fuel alts items (skipLazy r)
    match r.rest with
    | [] => some (finish, r)
    | ')' :: _ => some (finish, r)
    | c :: rest =>
      let r := { r with rest }
      match c with
      | '|' => alternatives? fuel (together items :: alts) [] r
      | '(' =>
        match opening? r with
        | none => none
        | some (.flags r) => alternatives? fuel alts (none :: items) r
        | some (.group inside) =>
          match alternatives? fuel [] [] inside with
          | some (p, inner) =>
            match inner.rest with
            | ')' :: rest =>
              push (.group p) { inner with rest, flags := r.flags }
            | _ => none
          | none => none
      | '[' =>
        match class? r with
        | some (a, r) => (ofSet? r.flags a).bind fun p => push p r
        | none => none
      | '*' => again 0 none r
      | '+' => again 1 none r
      | '?' => again 0 (some 1) r
      | '\x7b' =>
        match bounds? r with
        | some ((low, high), r) => again low high r
        | none => none
      | '.' => (ofSet? r.flags (dot r.flags)).bind fun p => push p r
      | '^' => push (.place (startPlace r.flags)) r
      | '$' => push (.place (endPlace r.flags)) r
      | '\\' =>
        match escape? r with
        | some (e, r) => (ofEscape? r.flags e).bind fun p => push p r
        | none => none
      | c => push (literal r.flags c) r

/-- The pattern of a text, unless it is too large. -/
def parse? (text : String) : Option Pattern :=
  let cs := text.toList
  match alternatives? (2 * cs.length + 2) [] [] { rest := cs } with
  | some (p, r) => if r.rest.isEmpty && p.fits then some p else none
  | none => none

end Fleetkeeper.Pattern
