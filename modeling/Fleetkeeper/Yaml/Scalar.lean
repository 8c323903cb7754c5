/-
The text of scalars. In all but literal ones a line break is folded: a lone
break becomes a space, and of several the first is dropped.
-/
import Fleetkeeper.Text.Digit
import Fleetkeeper.Yaml.Cursor
import Fleetkeeper.Yaml.Token

namespace Fleetkeeper.Yaml

/-- A scalar that was read, and where the text goes on. -/
structure ReadScalar where
  text : List Char
  mark : Mark
  rest : List Char
  /-- Whether the place is the first of a line. -/
  freshLine : Bool := false

-- ================================================================ folding

/-- What stands between two parts of a scalar. -/
structure Gap where
  /-- Blanks before the first break. -/
  blanks : List Char := []
  /-- The first break; an escaped one leaves no text. -/
  first : Option (List Char) := none
  /-- The breaks after it. -/
  more : List Char := []

namespace Gap

/-- The text of breaks that are folded. -/
def fold (first more : List Char) : List Char :=
  if first = ['\n'] then (if more = [] then [' '] else more) else first ++ more

/-- What a gap leaves in the text. -/
def text (g : Gap) : List Char :=
  match g.first with
  | none => g.blanks
  | some first => fold first g.more

/-- One more break. -/
def addBreak (g : Gap) (c : Char) : Gap :=
  match g.first with
  | none => { g with first := some [c] }
  | some _ => { g with more := g.more ++ [c] }

/-- One more blank: on the first line it counts, after a break it is only
indentation. -/
def addBlank (g : Gap) (c : Char) : Gap :=
  match g.first with
  | none => { g with blanks := g.blanks ++ [c] }
  | some _ => g

/-- A gap from here on, and where it ends. A tab may not stand for
indentation: left of the column `least` on a line of its own it is
refused. -/
def take (least : Nat) (g : Gap) (m : Mark) :
    List Char → Except String (Gap × Mark × List Char)
  | '\r' :: '\n' :: r => take least (g.addBreak '\n') (m.nextLine 2) r
  | c :: r =>
    if isBreak c then take least (g.addBreak (breakText c)) (m.nextLine 1) r
    else if isGap c then
      if g.first.isSome && c = '\t' && m.column < least then
        .error "found a tab character that violates indentation"
      else take least (g.addBlank c) (m.move 1) r
    else .ok (g, m, c :: r)
  | [] => .ok (g, m, [])

end Gap

-- ================================================================== plain

/-- The characters of a plain scalar up to the next gap or its end: a colon
that ends a word ends it, and in a flow collection so does an indicator of
those. -/
def plainRun (inFlow : Bool) :
    List Char → Except String (List Char × List Char)
  | [] => .ok ([], [])
  | c :: r =>
    if isGap c || isBreak c then .ok ([], c :: r)
    else if c = ':' && endsWord r then .ok ([], c :: r)
    else if inFlow && c = ':'
        && (r.head?.any fun d => isFlowIndicator d || d = '?') then
      .error "found unexpected ':'"
    else if inFlow && isFlowIndicator c then .ok ([], c :: r)
    else
      match plainRun inFlow r with
      | .ok (run, rest) => .ok (c :: run, rest)
      | .error e => .error e

/-- The rest of a plain scalar after `done` and the gap `g`; outside flow
collections its lines are indented to the column `least` at least. -/
def plainFrom (inFlow : Bool) (least : Nat) :
    Nat → List Char → Gap → Mark → List Char → Except String ReadScalar
  | 0, _, _, _, _ => .error "a plain scalar does not end"
  | n + 1, done, g, m, cs =>
    let here : ReadScalar := ⟨done, m, cs, g.first.isSome⟩
    if isDocumentMarker m cs || cs.head? = some '#' then .ok here
    else
      match plainRun inFlow cs with
      | .error e => .error e
      | .ok ([], _) => .ok here
      | .ok (run, rest) =>
        let done := done ++ g.text ++ run
        let m := m.move run.length
        if !endsWord rest || rest = [] then .ok ⟨done, m, rest, false⟩
        else
          match Gap.take least {} m rest with
          | .error e => .error e
          | .ok (g, m, rest) =>
            if !inFlow && m.column < least then
              .ok ⟨done, m, rest, g.first.isSome⟩
            else plainFrom inFlow least n done g m rest

/-- A plain scalar. -/
def plain (inFlow : Bool) (least : Nat) (m : Mark) (cs : List Char) :
    Except String ReadScalar :=
  plainFrom inFlow least (cs.length + 1) [] {} m cs

-- ================================================================= quoted

/-- Escapes of one character. -/
def escapes : List (Char × Nat) :=
  [('0', 0), ('a', 7), ('b', 8), ('t', 9), ('\t', 9), ('n', 10), ('v', 11),
   ('f', 12), ('r', 13), ('e', 27), (' ', 32), ('"', 34), ('/', 47),
   ('\\', 92), ('N', 0x85), ('_', 0xA0), ('L', 0x2028), ('P', 0x2029)]

/-- Escapes that take hexadecimal digits, and how many. -/
def numericEscapes : List (Char × Nat) := [('x', 2), ('u', 4), ('U', 8)]

/-- The character of an escape, and how many characters follow its letter. -/
def escape (e : Char) (r : List Char) : Except String (Char × Nat) :=
  match escapes.lookup e with
  | some code => .ok (Char.ofNat code, 0)
  | none =>
    match numericEscapes.lookup e with
    | none => .error "found unknown escape character"
    | some width =>
      if r.length < width then .error "did not find expected hexdecimal number"
      else
        match Text.number? 16 (r.take width) with
        | none => .error "did not find expected hexdecimal number"
        | some code =>
          if code.isValidChar then .ok (Char.ofNat code, width)
          else .error "found invalid Unicode character escape code"

/-- The rest of a quoted scalar after `done`. -/
def quotedFrom (quote : Char) :
    Nat → List Char → Mark → List Char → Except String ReadScalar
  | 0, _, _, _ => .error "a quoted scalar does not end"
  | _ + 1, _, _, [] => .error "found unexpected end of stream"
  | n + 1, done, m, c :: r =>
    if isDocumentMarker m (c :: r) then
      .error "found unexpected document indicator"
    else if isGap c || isBreak c then
      match Gap.take 0 {} m (c :: r) with
      | .error e => .error e
      | .ok (g, m, rest) => quotedFrom quote n (done ++ g.text) m rest
    else if c = quote then
      match r with
      | d :: r' =>
        if quote = '\'' && d = '\'' then
          quotedFrom quote n (done ++ ['\'']) (m.move 2) r'
        else .ok { text := done, mark := m.move 1, rest := r }
      | [] => .ok { text := done, mark := m.move 1, rest := r }
    else if quote = '"' && c = '\\' then
      match r with
      | [] => .error "found unknown escape character"
      | e :: r' =>
        if isBreak e then
          let (m, rest) := skipBreak (m.move 1) r
          match Gap.take 0 { first := some [] } m rest with
          | .error e => .error e
          | .ok (g, m, rest) => quotedFrom quote n (done ++ g.text) m rest
        else
          match escape e r' with
          | .error e => .error e
          | .ok (x, width) =>
            quotedFrom quote n (done ++ [x]) (m.move (2 + width))
              (r'.drop width)
    else quotedFrom quote n (done ++ [c]) (m.move 1) r

/-- A quoted scalar after its opening quote. -/
def quoted (quote : Char) (m : Mark) (cs : List Char) :
    Except String ReadScalar :=
  quotedFrom quote (cs.length + 1) [] m cs

-- ================================================================== block

/-- What becomes of the breaks at the end of a block scalar. -/
inductive Chomping where
  | strip | clip | keep
deriving DecidableEq, Repr

/-- A chomping indicator. -/
def chomping? : Char → Option Chomping
  | '+' => some .keep
  | '-' => some .strip
  | _ => none

/-- The header of a block scalar after its indicator: how its end is chomped
and how far it is indented beyond its parent, if that is said. -/
def blockHeader (m : Mark) (cs : List Char) :
    Except String (Chomping × Option Nat × Mark × List Char) :=
  let digit (m : Mark) (cs : List Char) :
      Except String (Option Nat × Mark × List Char) :=
    match cs with
    | d :: r =>
      if !d.isDigit then .ok (none, m, cs)
      else if d = '0' then .error "found an indentation indicator equal to 0"
      else .ok (some (d.toNat - 48), m.move 1, r)
    | [] => .ok (none, m, cs)
  let chomp (m : Mark) (cs : List Char) :
      Option (Chomping × Mark × List Char) :=
    match cs with
    | c :: r => (chomping? c).map fun k => (k, m.move 1, r)
    | [] => none
  match chomp m cs with
  | some (k, m, cs) => (digit m cs).map fun (d, m, cs) => (k, d, m, cs)
  | none =>
    match digit m cs with
    | .error e => .error e
    | .ok (none, m, cs) => .ok (.clip, none, m, cs)
    | .ok (some d, m, cs) =>
      match chomp m cs with
      | some (k, m, cs) => .ok (k, some d, m, cs)
      | none => .ok (.clip, some d, m, cs)

/-- Empty lines of a block scalar: their breaks, the widest indentation among
them and the line after them, and where the first line with content starts
after `indent` spaces at most, or after all of them if `indent` is not
known. -/
def blockBreaks (indent : Option Nat) :
    Nat → List Char → Nat → Mark → List Char →
      Except String (List Char × Nat × Mark × List Char)
  | 0, breaks, widest, m, cs => .ok (breaks, widest, m, cs)
  | n + 1, breaks, widest, m, cs =>
    let spaces := (cs.takeWhile (· = ' ')).length
    let taken := match indent with
      | none => spaces
      | some i => min spaces (i - m.column)
    let m := m.move taken
    let widest := max widest m.column
    match cs.drop taken with
    | [] => .ok (breaks, widest, m, [])
    | c :: r =>
      if c = '\t' && (indent.all (m.column < ·)) then
        .error "found a tab character where an indentation space is expected"
      else if isBreak c then
        let (m, rest) := skipBreak m (c :: r)
        blockBreaks indent n (breaks ++ [breakText c]) widest m rest
      else .ok (breaks, widest, m, c :: r)

/-- The lines of a block scalar. `lead` is the break before this line and
`breaks` those of the empty lines after it. -/
def blockLines (isFolded : Bool) (indent : Nat) :
    Nat → List Char → List Char → List Char → Bool → Mark → List Char →
      Except String (List Char × List Char × List Char × Mark × List Char)
  | 0, done, lead, breaks, _, m, cs => .ok (done, lead, breaks, m, cs)
  | n + 1, done, lead, breaks, leadBlank, m, cs =>
    if m.column ≠ indent || cs = [] then .ok (done, lead, breaks, m, cs)
    else
      let blank := cs.head?.any isGap
      let joined :=
        if isFolded && lead = ['\n'] && !leadBlank && !blank then
          if breaks = [] then [' '] else breaks
        else lead ++ breaks
      let line := cs.takeWhile (!isBreak ·)
      let rest := cs.dropWhile (!isBreak ·)
      let lead := (rest.head?.map breakText).toList
      let (m, rest) := skipBreak (m.move line.length) rest
      match blockBreaks (some indent) (rest.length + 1) [] 0 m rest with
      | .error e => .error e
      | .ok (breaks, _, m, rest) =>
        blockLines isFolded indent n (done ++ joined ++ line) lead breaks
          blank m rest

/-- A block scalar after its indicator, where its parent is indented by
`parent` columns. -/
def block (isFolded : Bool) (parent : Option Nat) (m : Mark) (cs : List Char) :
    Except String ReadScalar := do
  let (chomping, extra, m, cs) ← blockHeader m cs
  let (m, cs) := skipGaps m cs
  let (m, cs) := skipComment m cs
  if !endsLine cs then throw "did not find expected comment or line break"
  let (m, cs) := skipBreak m cs
  let known := extra.map fun e => (parent.getD 0) + e
  let (breaks, widest, m, cs) ← blockBreaks known (cs.length + 1) [] 0 m cs
  let least := max 1 (match parent with | some p => p + 1 | none => 0)
  let indent := known.getD (max widest least)
  let (text, lead, breaks, m, cs) ←
    blockLines isFolded indent (cs.length + 1) [] [] breaks false m cs
  let text := match chomping with
    | .strip => text
    | .clip => text ++ lead
    | .keep => text ++ lead ++ breaks
  pure { text, mark := m, rest := cs, freshLine := true }

end Fleetkeeper.Yaml
