/-
How large a pattern is: how deeply it is nested, and how much memory an
automaton takes that has states of its own for every repetition. A pattern
that goes beyond either bound is refused, whatever it would match.

A character takes a state, or one for each byte of it. A set of ASCII takes
two states and room for its ranges. A set beyond ASCII takes states by the
bytes of its ranges, and is reckoned by their number.
-/
import Fleetkeeper.Pattern.Basic

namespace Fleetkeeper

namespace CharSet

/-- The memory for one more range beyond ASCII. -/
def rangeMemory : Nat := 62

/-- The memory for the ranges of some categories, among the runs of the
table; neighbouring runs are one range. Where upper and lower case alternate,
one of them is made of single characters with the same first bytes. -/
def runsMemory (ks : List String) : Bool → List Text.CategoryRun → Nat
  | _, [] => 0
  | joined, r :: rest =>
    let upper := ks.contains "Lu"
    let lower := ks.contains "Ll"
    if r.category = "LC" && upper != lower then
      36 * (r.length / 2) + runsMemory ks false rest
    else if ks.contains r.category || (r.category = "LC" && upper) then
      (if joined then 0 else rangeMemory) + runsMemory ks true rest
    else runsMemory ks false rest

/-- About how much memory the ranges of a set take that is not of ASCII
alone. A complement has to cover the planes that its set leaves. -/
def wideMemory : CharSet → Nat
  | empty => 0
  | range _ _ => rangeMemory
  | word => 46760
  | digit => 4440
  | blank => 616
  | categories ks => runsMemory ks false Text.categoryRuns
  | union a b | inter a b | diff a b => a.wideMemory + b.wideMemory
  | compl a => a.wideMemory + 14 * rangeMemory
  | anyCase a => 2 * a.wideMemory

/-- How many ranges a set is written with. -/
def spans : CharSet → Nat
  | empty | word | digit | blank | categories _ => 0
  | range _ _ => 1
  | union a b | inter a b | diff a b => a.spans + b.spans
  | compl a => a.spans
  | anyCase a => 2 * a.spans

/-- Whether a set is plainly one of ASCII characters. -/
def withinAscii : CharSet → Bool
  | empty => true
  | range _ high => high.toNat < 0x80
  | word | digit | blank | categories _ | compl _ => false
  | union a b => a.withinAscii && b.withinAscii
  | inter a b => a.withinAscii || b.withinAscii
  | diff a _ => a.withinAscii
  | anyCase a => a.withinAscii

/-- The only character of a set that is written as one. -/
def only? : CharSet → Option Char
  | range low high => if low = high then some low else none
  | _ => none

/-- The memory for a set, in bytes. -/
def memory (s : CharSet) : Nat :=
  match s.only? with
  | some c => 32 * c.utf8Size
  | none => 64 + if s.withinAscii then 8 * s.spans else s.wideMemory

end CharSet

namespace Pattern

/-- Whether a pattern is one of several in a row. -/
def isSeq : Pattern → Bool
  | seq _ _ => true
  | _ => false

/-- Whether a pattern is one of several choices. -/
def isAlt : Pattern → Bool
  | alt _ _ => true
  | _ => false

/-- How deeply a pattern is nested. A row is one level, and so are choices, a
repetition and a pair of parentheses. -/
def depth : Pattern → Nat
  | empty | char _ | place _ => 0
  | seq a b => max (a.depth + 1) (if b.isSeq then b.depth else b.depth + 1)
  | alt a b => max (a.depth + 1) (if b.isAlt then b.depth else b.depth + 1)
  | rep _ _ a | group a => a.depth + 1

/-- Whether a pattern can match nothing but the empty text. -/
def matchesNoChar : Pattern → Bool
  | empty | place _ => true
  | char _ => false
  | seq a b | alt a b => a.matchesNoChar && b.matchesNoChar
  | rep _ high a => a.matchesNoChar || high = some 0
  | group a => a.matchesNoChar

/-- The memory for an automaton of a pattern, in bytes. -/
def memory : Pattern → Nat
  | empty | place _ => 32
  | char s => s.memory
  | seq a b => a.memory + b.memory
  | alt a b => a.memory + b.memory + 40
  | rep low high a =>
    if a.matchesNoChar then a.memory
    else
      match high with
      | none => max low 1 * a.memory + 40
      | some high =>
        low * a.memory
          + (if low < high then (high - low) * (a.memory + 40) + 32 else 0)
  | group a => a.memory

/-- How deeply a pattern may be nested. -/
def maxDepth : Nat := 250

/-- The memory for an automaton, in bytes, without the 200 bytes of states
that every automaton has. -/
def maxMemory : Nat := 10 * 1048576 - 200

/-- Whether a pattern keeps within both bounds. -/
def fits (p : Pattern) : Bool := p.depth ≤ maxDepth && p.memory ≤ maxMemory

end Pattern

end Fleetkeeper
