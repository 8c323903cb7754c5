/-
From text to words. Outside flow collections, indentation opens and closes
collections, and a word becomes a key only when the colon after it is met on
the same line; so every place where a key may start is remembered with the
words in front of it.
-/
import Fleetkeeper.Yaml.Scalar
import Fleetkeeper.Yaml.Tag

namespace Fleetkeeper.Yaml

/-- A word that may turn out to be a key. -/
structure PossibleKey where
  /-- Nothing else can stand there: a word at the column of the keys of a
  block mapping. -/
  required : Bool
  mark : Mark
  /-- The words in front of it, latest first. -/
  before : List Token

/-- How far a text has been read. -/
structure Layout where
  mark : Mark := {}
  rest : List Char
  /-- The words so far, latest first. -/
  tokens : List Token := []
  /-- Columns of the open block collections, innermost first. -/
  indents : List Nat := []
  /-- The word that may be a key of the innermost collection. -/
  possible : Option PossibleKey := none
  /-- The same of the collections around the open flow collections. -/
  outer : List (Option PossibleKey) := []
  /-- Whether a key may start here. -/
  keyAllowed : Bool := true

namespace Layout

/-- Whether a flow collection is open. -/
def inFlow (s : Layout) : Bool := !s.outer.isEmpty

/-- The layout with one more word. -/
def emit (s : Layout) (t : Token) : Layout :=
  { s with tokens := t :: s.tokens }

/-- The layout after `n` characters of a line. -/
def advance (s : Layout) (n : Nat) : Layout :=
  { s with mark := s.mark.move n, rest := s.rest.drop n }

/-- The least column of what belongs to the innermost block collection. -/
def leastColumn (s : Layout) : Nat :=
  match s.indents with
  | [] => 0
  | i :: _ => i + 1

-- ========================================================= blocks and keys

/-- Past blanks, comments and breaks. A tab may not stand where a key may
start, and a break lets one start. -/
def skip : Nat → Layout → Layout
  | 0, s => s
  | n + 1, s =>
    let s :=
      if s.mark.column = 0 && s.rest.head? = some '\ufeff' then s.advance 1
      else s
    let isSpace (c : Char) : Bool :=
      c = ' ' || (c = '\t' && (s.inFlow || !s.keyAllowed))
    let s := s.advance (s.rest.takeWhile isSpace).length
    let (mark, rest) := skipComment s.mark s.rest
    match rest with
    | [] => { s with mark, rest }
    | c :: _ =>
      if isBreak c then
        let (mark, rest) := skipBreak mark rest
        skip n { s with mark, rest, keyAllowed := s.keyAllowed || !s.inFlow }
      else { s with mark, rest }

/-- A possible key that ended its line or grew beyond 1024 characters is none
any more. -/
def stale (now : Mark) (k : PossibleKey) : Bool :=
  k.mark.line < now.line || k.mark.index + 1024 < now.index

/-- Forget the possible keys that are none any more. -/
def dropStale (s : Layout) : Except String Layout :=
  let all := s.possible :: s.outer
  if all.any (fun k => k.any fun k => stale s.mark k && k.required) then
    .error "could not find expected ':'"
  else
    let keep (k : Option PossibleKey) := k.filter (!stale s.mark ·)
    .ok { s with possible := keep s.possible, outer := s.outer.map keep }

/-- Close the block collections that start right of `column`; `none` closes
all. -/
def closeTo (column : Option Nat) (s : Layout) : Layout :=
  if s.inFlow then s
  else
    let isClosed (i : Nat) : Bool := column.all (· < i)
    let closed := (s.indents.takeWhile isClosed).length
    { s with
      indents := s.indents.drop closed
      tokens := List.replicate closed .blockEnd ++ s.tokens }

/-- Open a block collection at `column` in front of the latest words, those
after `before`, unless it is open already. -/
def openAt (column : Nat) (t : Token) (before : List Token) (s : Layout) :
    Layout :=
  if s.inFlow || s.indents.head?.any (column ≤ ·) then s
  else
    let after := s.tokens.take (s.tokens.length - before.length)
    { s with indents := column :: s.indents, tokens := after ++ t :: before }

/-- Here starts no key. -/
def noKey (s : Layout) : Except String Layout :=
  if s.possible.any (·.required) then .error "could not find expected ':'"
  else .ok { s with possible := none }

/-- Here a key may start, if one is allowed. -/
def maybeKey (s : Layout) : Except String Layout :=
  if s.keyAllowed then do
    let required := !s.inFlow && s.indents.head? = some s.mark.column
    let t ← s.noKey
    pure { t with possible := some ⟨required, s.mark, s.tokens⟩ }
  else .ok s

-- =================================================================== words

/-- A marker of documents. -/
def documentMarker (t : Token) (s : Layout) : Except String Layout := do
  let s ← (s.closeTo none).noKey
  pure ({ s with keyAllowed := false }.advance 3 |>.emit t)

/-- The start of a flow collection. -/
def flowStart (t : Token) (s : Layout) : Except String Layout := do
  let s ← s.maybeKey
  pure ({ s with possible := none, outer := s.possible :: s.outer,
                 keyAllowed := true }
    |>.advance 1 |>.emit t)

/-- The end of a flow collection. -/
def flowEnd (t : Token) (s : Layout) : Except String Layout := do
  let s ← s.noKey
  let s := match s.outer with
    | [] => s
    | k :: outer => { s with possible := k, outer }
  pure ({ s with keyAllowed := false }.advance 1 |>.emit t)

/-- The comma of a flow collection. -/
def flowEntry (s : Layout) : Except String Layout := do
  let s ← s.noKey
  pure ({ s with keyAllowed := true }.advance 1 |>.emit .flowEntry)

/-- The dash of an item. -/
def blockEntry (s : Layout) : Except String Layout := do
  if !s.inFlow && !s.keyAllowed then
    throw "block sequence entries are not allowed in this context"
  let s ← (s.openAt s.mark.column .blockSequence s.tokens).noKey
  pure ({ s with keyAllowed := true }.advance 1 |>.emit .blockEntry)

/-- The question mark of a key. -/
def explicitKey (s : Layout) : Except String Layout := do
  if !s.inFlow && !s.keyAllowed then
    throw "mapping keys are not allowed in this context"
  let s ← (s.openAt s.mark.column .blockMapping s.tokens).noKey
  pure ({ s with keyAllowed := !s.inFlow }.advance 1 |>.emit .key)

/-- The colon of a value: the possible key becomes one. -/
def value (s : Layout) : Except String Layout := do
  match s.possible with
  | some k =>
    let after := s.tokens.take (s.tokens.length - k.before.length)
    let s :=
      { s with tokens := after ++ Token.key :: k.before, possible := none }
    let s := s.openAt k.mark.column .blockMapping k.before
    pure ({ s with keyAllowed := false }.advance 1 |>.emit .value)
  | none =>
    if !s.inFlow && !s.keyAllowed then
      throw "mapping values are not allowed in this context"
    let s := s.openAt s.mark.column .blockMapping s.tokens
    pure ({ s with keyAllowed := !s.inFlow }.advance 1 |>.emit .value)

/-- A word that may start a key and ends at `mark`. -/
def word (t : Token) (mark : Mark) (rest : List Char) (s : Layout) :
    Except String Layout := do
  let s ← s.maybeKey
  pure ({ s with mark, rest, keyAllowed := false }.emit t)

/-- A scalar as a word. -/
def scalar (style : Style) (r : ReadScalar) (s : Layout) :
    Except String Layout := do
  let s ← s.word (.scalar style (String.ofList r.text)) r.mark r.rest
  pure { s with keyAllowed := r.freshLine }

/-- A block scalar as a word; it starts no key. -/
def blockScalar (isFolded : Bool) (s : Layout) : Except String Layout := do
  let s ← s.noKey
  let r ← block isFolded s.indents.head? (s.mark.move 1) (s.rest.drop 1)
  let style : Style := if isFolded then .folded else .literal
  pure ({ s with mark := r.mark, rest := r.rest, keyAllowed := true }
    |>.emit (.scalar style (String.ofList r.text)))

/-- A directive. -/
def directiveLine (s : Layout) : Except String Layout := do
  let s ← (s.closeTo none).noKey
  let (t, mark, rest) ← directive (s.mark.move 1) (s.rest.drop 1)
  pure ({ s with mark, rest, keyAllowed := false }.emit t)

/-- Whether a plain scalar starts with `c`, which `r` follows. -/
def startsPlain (inFlow : Bool) (c : Char) (r : List Char) : Bool :=
  !isIndicator c || (c = '-' && !(r.head?.any isGap))
    || (!inFlow && (c = '?' || c = ':') && !endsWord r)

/-- The word that starts with `c`, which `r` follows. -/
def next (s : Layout) (c : Char) (r : List Char) : Except String Layout :=
  let m := s.mark
  let ends := endsWord r
  if m.column = 0 && c = '%' then s.directiveLine
  else if isDocumentMarker m (c :: r) then
    s.documentMarker (if c = '-' then .documentStart else .documentEnd)
  else if c = '[' then s.flowStart .flowSequence
  else if c = '{' then s.flowStart .flowMapping
  else if c = ']' then s.flowEnd .flowSequenceEnd
  else if c = '}' then s.flowEnd .flowMappingEnd
  else if c = ',' then s.flowEntry
  else if c = '-' && ends then s.blockEntry
  else if c = '?' && (s.inFlow || ends) then s.explicitKey
  else if c = ':' && (s.inFlow || ends) then s.value
  else if c = '*' then do
    let (name, m, rest) ← anchorName (m.move 1) r
    s.word (.alias name) m rest
  else if c = '&' then do
    let (name, m, rest) ← anchorName (m.move 1) r
    s.word (.anchor name) m rest
  else if c = '!' then do
    let (t, m, rest) ← readTag s.inFlow m (c :: r)
    s.word t m rest
  else if c = '|' && !s.inFlow then s.blockScalar false
  else if c = '>' && !s.inFlow then s.blockScalar true
  else if c = '\'' then do
    s.scalar .singleQuoted (← quoted c (m.move 1) r)
  else if c = '"' then do
    s.scalar .doubleQuoted (← quoted c (m.move 1) r)
  else if startsPlain s.inFlow c r && !isGap c then do
    s.scalar .plain (← plain s.inFlow s.leastColumn m (c :: r))
  else .error "found character that cannot start any token"

/-- The end of the text closes all that is open. -/
def finish (s : Layout) : Except String (List Token) := do
  let s ← (s.closeTo none).noKey
  pure s.tokens.reverse

/-- All words from here on. -/
def run : Nat → Layout → Except String (List Token)
  | 0, _ => .error "the text does not end"
  | n + 1, s => do
    let s := s.skip (s.rest.length + 1)
    let s ← s.dropStale
    let s := s.closeTo (some s.mark.column)
    match s.rest with
    | [] => s.finish
    | c :: r => run n (← s.next c r)

end Layout

/-- The words of a text. -/
def tokens (text : String) : Except String (List Token) :=
  let cs := text.toList
  if cs.all isAllowed then Layout.run (cs.length + 1) { rest := cs }
  else .error "control characters are not allowed"

end Fleetkeeper.Yaml
