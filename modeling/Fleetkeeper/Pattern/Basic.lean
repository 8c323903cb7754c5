/-
Patterns on text, and the search for a place where one matches.

The search reads the text once, from the left, with the set of what may still
have to follow: a pattern is consumed by one character into the patterns that
its matches may continue with. Conditions on a place look at the characters
on either side of it, which is all that is kept of the text already read.
-/
import Fleetkeeper.Pattern.CharSet

namespace Fleetkeeper

/-- A condition on a place in a text. -/
inductive Place where
  | textStart | textEnd | lineStart | lineEnd
  /-- Line ends where a carriage return counts as well. -/
  | anyLineStart | anyLineEnd
  | wordEdge | noWordEdge | wordStart | wordEnd | noWordBefore | noWordAfter
deriving DecidableEq, Repr

/-- A pattern. -/
inductive Pattern where
  | empty
  | char (s : CharSet)
  | place (p : Place)
  | seq (a b : Pattern)
  | alt (a b : Pattern)
  /-- At least `low` times, and at most `high` times where that is set. -/
  | rep (low : Nat) (high : Option Nat) (a : Pattern)
  /-- What stands in parentheses. -/
  | group (a : Pattern)
deriving DecidableEq, Repr

namespace Place

/-- Whether there is a character of a word. -/
def wordAt : Option Char → Bool
  | some c => Text.isWord c
  | none => false

/-- Whether a place is of this kind, by the characters before and after
it. -/
def holds (before after : Option Char) : Place → Bool
  | textStart => before.isNone
  | textEnd => after.isNone
  | lineStart => before.isNone || before = some '\n'
  | lineEnd => after.isNone || after = some '\n'
  | anyLineStart =>
    before.isNone || before = some '\n'
      || (before = some '\r' && after ≠ some '\n')
  | anyLineEnd =>
    after.isNone || after = some '\r'
      || (after = some '\n' && before ≠ some '\r')
  | wordEdge => wordAt before != wordAt after
  | noWordEdge => wordAt before == wordAt after
  | wordStart => !wordAt before && wordAt after
  | wordEnd => wordAt before && !wordAt after
  | noWordBefore => !wordAt before
  | noWordAfter => !wordAt after

end Place

namespace Pattern

/-- Whether nothing at all matches at a place. -/
def nullable (before after : Option Char) : Pattern → Bool
  | empty => true
  | char _ => false
  | place p => p.holds before after
  | seq a b => a.nullable before after && b.nullable before after
  | alt a b => a.nullable before after || b.nullable before after
  | rep low _ a => low = 0 || a.nullable before after
  | group a => a.nullable before after

/-- One repetition less. -/
def fewer : Option Nat → Option Nat := Option.map (· - 1)

/-- One pattern, then the other. -/
def andThen : Pattern → Pattern → Pattern
  | empty, b => b
  | a, b => seq a b

/-- Whether there may be a repetition. -/
def mayRepeat : Option Nat → Bool
  | some 0 => false
  | _ => true

/-- What may have to follow after a match has consumed `c`, where `before`
stands in front of it. Repetitions that match nothing here count as done. -/
def consume (before : Option Char) (c : Char) : Pattern → List Pattern
  | empty => []
  | char s => if s.mem c then [empty] else []
  | place _ => []
  | seq a b =>
    ((a.consume before c).map fun r => r.andThen b)
      ++ (if a.nullable before (some c) then b.consume before c else [])
  | alt a b => a.consume before c ++ b.consume before c
  | rep low high a =>
    if mayRepeat high then
      let low := if a.nullable before (some c) then 0 else low - 1
      (a.consume before c).map fun r => r.andThen (rep low (fewer high) a)
    else []
  | group a => a.consume before c

/-- Whether one of some patterns, or `p` from here or any later place on,
matches the text that is left. -/
def searchFrom (p : Pattern) : Option Char → List Pattern → List Char → Bool
  | before, states, [] => (p :: states).any (·.nullable before none)
  | before, states, c :: rest =>
    let states := p :: states
    states.any (·.nullable before (some c))
      || p.searchFrom (some c)
          (states.flatMap (·.consume before c)).eraseDups rest

/-- Whether a pattern matches somewhere in a text. -/
def matchesIn (p : Pattern) (text : String) : Bool :=
  p.searchFrom none [] text.toList

/-- All of some patterns, one after the other. -/
def seqs : List Pattern → Pattern
  | [] => empty
  | [p] => p
  | p :: rest => seq p (seqs rest)

end Pattern

end Fleetkeeper
