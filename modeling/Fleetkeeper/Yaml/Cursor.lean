/-
A place in a text, and the classes of characters that decide where a word of
it ends. Lines end in a line feed, a carriage return, both, or one of the
three separators U+0085, U+2028 and U+2029.
-/
namespace Fleetkeeper.Yaml

/-- A place in a text. -/
structure Mark where
  line : Nat := 0
  column : Nat := 0
  /-- Characters in front. -/
  index : Nat := 0
deriving DecidableEq, Repr

/-- The place `n` characters further on the same line. -/
def Mark.move (m : Mark) (n : Nat) : Mark :=
  { m with column := m.column + n, index := m.index + n }

/-- The start of the next line, past a break of `n` characters. -/
def Mark.nextLine (m : Mark) (n : Nat) : Mark :=
  ⟨m.line + 1, 0, m.index + n⟩

-- ==================================================== classes of characters

/-- Characters that a text may hold. -/
def isAllowed (c : Char) : Bool :=
  c = '\t' || c = '\n' || c = '\r' || (' ' ≤ c && c ≤ '~')
    || c.toNat = 0x85
    || (0xA0 ≤ c.toNat && c.toNat ≠ 0xFFFE && c.toNat ≠ 0xFFFF)

/-- A space or a tab. -/
def isGap (c : Char) : Bool := c = ' ' || c = '\t'

/-- Characters that end a line. -/
def isBreak (c : Char) : Bool :=
  c = '\n' || c = '\r' || c.toNat = 0x85 || c.toNat = 0x2028
    || c.toNat = 0x2029

/-- What a break is in the text of a scalar: a line feed, save that the
separators of lines and paragraphs stay. -/
def breakText (c : Char) : Char :=
  if c.toNat = 0x2028 ∨ c.toNat = 0x2029 then c else '\n'

/-- Characters of a name. -/
def isNameChar (c : Char) : Bool :=
  c.isAlphanum || c = '_' || c = '-'

/-- The brackets and the comma of flow collections. -/
def isFlowIndicator (c : Char) : Bool :=
  c = ',' || c = '[' || c = ']' || c = '{' || c = '}'

/-- Characters that start something other than a plain scalar. -/
def isIndicator (c : Char) : Bool :=
  isFlowIndicator c || "-?:#&*!|>'\"%@`".toList.contains c

/-- Whether a word ends here: at a gap, a break or the end of the text. -/
def endsWord : List Char → Bool
  | [] => true
  | c :: _ => isGap c || isBreak c

/-- Whether a line ends here. -/
def endsLine : List Char → Bool
  | [] => true
  | c :: _ => isBreak c

/-- Three hyphens or three full stops on their own at the start of a line
part documents. -/
def isDocumentMarker (m : Mark) (cs : List Char) : Bool :=
  m.column = 0 && endsWord (cs.drop 3)
    && (cs.take 3 = ['-', '-', '-'] || cs.take 3 = ['.', '.', '.'])

-- ========================================================== moving along

/-- Past the gaps. -/
def skipGaps (m : Mark) (cs : List Char) : Mark × List Char :=
  (m.move (cs.takeWhile isGap).length, cs.dropWhile isGap)

/-- Past a comment, up to the end of its line. -/
def skipComment (m : Mark) : List Char → Mark × List Char
  | '#' :: r =>
    (m.move (1 + (r.takeWhile (!isBreak ·)).length), r.dropWhile (!isBreak ·))
  | cs => (m, cs)

/-- Past a break, if there is one. -/
def skipBreak (m : Mark) : List Char → Mark × List Char
  | '\r' :: '\n' :: r => (m.nextLine 2, r)
  | c :: r => if isBreak c then (m.nextLine 1, r) else (m, c :: r)
  | [] => (m, [])

end Fleetkeeper.Yaml
