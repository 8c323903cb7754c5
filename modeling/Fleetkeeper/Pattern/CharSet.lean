/-
Sets of characters as a pattern names them: ranges, the classes of words,
digits and blanks, general categories, and what can be made of those.
-/
import Fleetkeeper.Text.Blank
import Fleetkeeper.Text.CaseFolding
import Fleetkeeper.Text.Category

namespace Fleetkeeper

/-- A set of characters. -/
inductive CharSet where
  | empty
  | range (low high : Char)
  | word
  | digit
  | blank
  /-- The characters of some general categories. -/
  | categories (abbreviations : List String)
  | union (a b : CharSet)
  | inter (a b : CharSet)
  | diff (a b : CharSet)
  | compl (a : CharSet)
  /-- The letters of a set in all their cases. -/
  | anyCase (a : CharSet)
deriving DecidableEq, Repr

namespace CharSet

def mem : CharSet → Char → Bool
  | empty, _ => false
  | range low high, c => low ≤ c && c ≤ high
  | word, c => Text.isWord c
  | digit, c => Text.isDecimal c
  | blank, c => Text.isBlank c
  | categories ks, c => ks.contains (Text.category c)
  | union a b, c => a.mem c || b.mem c
  | inter a b, c => a.mem c && b.mem c
  | diff a b, c => a.mem c && !b.mem c
  | compl a, c => !a.mem c
  | anyCase a, c => (Text.sameLetter c).any a.mem

/-- The set of one character. -/
def single (c : Char) : CharSet := range c c

/-- Every character. -/
def all : CharSet := compl empty

/-- The characters of either set, but not of both. -/
def symmDiff (a b : CharSet) : CharSet := union (diff a b) (diff b a)

/-- The characters of any of some sets. -/
def unions (l : List CharSet) : CharSet := l.foldr union empty

/-- The characters of some ranges. -/
def ranges (l : List (Char × Char)) : CharSet :=
  unions (l.map fun r => range r.1 r.2)

/-- The set, negated where asked. -/
def negatedIf (b : Bool) (a : CharSet) : CharSet := if b then compl a else a

/-- The classes that are named in brackets with colons. -/
def asciiClass? (name : String) : Option CharSet :=
  match name with
  | "alnum" => some (ranges [('0', '9'), ('A', 'Z'), ('a', 'z')])
  | "alpha" => some (ranges [('A', 'Z'), ('a', 'z')])
  | "ascii" => some (ranges [('\x00', '\x7f')])
  | "blank" => some (ranges [('\t', '\t'), (' ', ' ')])
  | "cntrl" => some (ranges [('\x00', '\x1f'), ('\x7f', '\x7f')])
  | "digit" => some (ranges [('0', '9')])
  | "graph" => some (ranges [('!', '~')])
  | "lower" => some (ranges [('a', 'z')])
  | "print" => some (ranges [(' ', '~')])
  | "punct" =>
    some (ranges [('!', '/'), (':', '@'), ('[', '\x60'), ('\x7b', '~')])
  | "space" =>
    some (ranges [('\t', '\t'), ('\n', '\n'), ('\x0b', '\x0b'),
      ('\x0c', '\x0c'), ('\r', '\r'), (' ', ' ')])
  | "upper" => some (ranges [('A', 'Z')])
  | "word" => some (ranges [('0', '9'), ('A', 'Z'), ('_', '_'), ('a', 'z')])
  | "xdigit" => some (ranges [('0', '9'), ('A', 'F'), ('a', 'f')])
  | _ => none

/-- General categories by their names, all lower case and in one word; the
first letter of an abbreviation names a whole group. -/
def categoryNames : List (String × List String) :=
  [("lu", ["Lu"]), ("uppercaseletter", ["Lu"]),
   ("ll", ["Ll"]), ("lowercaseletter", ["Ll"]),
   ("lt", ["Lt"]), ("titlecaseletter", ["Lt"]),
   ("lc", ["Lu", "Ll", "Lt"]), ("casedletter", ["Lu", "Ll", "Lt"]),
   ("lm", ["Lm"]), ("modifierletter", ["Lm"]),
   ("lo", ["Lo"]), ("otherletter", ["Lo"]),
   ("l", ["Lu", "Ll", "Lt", "Lm", "Lo"]),
   ("letter", ["Lu", "Ll", "Lt", "Lm", "Lo"]),
   ("mn", ["Mn"]), ("nonspacingmark", ["Mn"]),
   ("mc", ["Mc"]), ("spacingmark", ["Mc"]),
   ("me", ["Me"]), ("enclosingmark", ["Me"]),
   ("m", ["Mn", "Mc", "Me"]), ("mark", ["Mn", "Mc", "Me"]),
   ("combiningmark", ["Mn", "Mc", "Me"]),
   ("nd", ["Nd"]), ("decimalnumber", ["Nd"]), ("digit", ["Nd"]),
   ("nl", ["Nl"]), ("letternumber", ["Nl"]),
   ("no", ["No"]), ("othernumber", ["No"]),
   ("n", ["Nd", "Nl", "No"]), ("number", ["Nd", "Nl", "No"]),
   ("pc", ["Pc"]), ("connectorpunctuation", ["Pc"]),
   ("pd", ["Pd"]), ("dashpunctuation", ["Pd"]),
   ("ps", ["Ps"]), ("openpunctuation", ["Ps"]),
   ("pe", ["Pe"]), ("closepunctuation", ["Pe"]),
   ("pi", ["Pi"]), ("initialpunctuation", ["Pi"]),
   ("pf", ["Pf"]), ("finalpunctuation", ["Pf"]),
   ("po", ["Po"]), ("otherpunctuation", ["Po"]),
   ("p", ["Pc", "Pd", "Ps", "Pe", "Pi", "Pf", "Po"]),
   ("punctuation", ["Pc", "Pd", "Ps", "Pe", "Pi", "Pf", "Po"]),
   ("punct", ["Pc", "Pd", "Ps", "Pe", "Pi", "Pf", "Po"]),
   ("sm", ["Sm"]), ("mathsymbol", ["Sm"]),
   ("sc", ["Sc"]), ("currencysymbol", ["Sc"]),
   ("sk", ["Sk"]), ("modifiersymbol", ["Sk"]),
   ("so", ["So"]), ("othersymbol", ["So"]),
   ("s", ["Sm", "Sc", "Sk", "So"]), ("symbol", ["Sm", "Sc", "Sk", "So"]),
   ("zs", ["Zs"]), ("spaceseparator", ["Zs"]),
   ("zl", ["Zl"]), ("lineseparator", ["Zl"]),
   ("zp", ["Zp"]), ("paragraphseparator", ["Zp"]),
   ("z", ["Zs", "Zl", "Zp"]), ("separator", ["Zs", "Zl", "Zp"]),
   ("cc", ["Cc"]), ("control", ["Cc"]), ("cntrl", ["Cc"]),
   ("cf", ["Cf"]), ("format", ["Cf"]),
   ("co", ["Co"]), ("privateuse", ["Co"]),
   ("cn", ["Cn"]), ("unassigned", ["Cn"]),
   ("c", ["Cc", "Cf", "Cs", "Co", "Cn"]),
   ("other", ["Cc", "Cf", "Cs", "Co", "Cn"])]

/-- A set by the name of a property; case, spaces, dashes and underscores in
the name do not count. -/
def property? (name : String) : Option CharSet :=
  let plain := String.ofList ((name.toList.filter fun c =>
    c ≠ ' ' && c ≠ '-' && c ≠ '_').map Char.toLower)
  match plain with
  | "any" => some all
  | "ascii" => some (range '\x00' '\x7f')
  | "assigned" => some (compl (categories ["Cn"]))
  | "whitespace" | "wspace" | "space" => some blank
  | _ =>
    (categoryNames.find? fun e => e.1 == plain).map fun e => categories e.2

end CharSet

end Fleetkeeper
