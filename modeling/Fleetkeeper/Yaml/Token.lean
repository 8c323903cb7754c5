/-
The words of a YAML text: what a reader of its structure has to tell apart.
Indentation is already made explicit, as the starts and ends of block
collections, and so is what is a key.
-/
namespace Fleetkeeper.Yaml

/-- How a scalar is written. -/
inductive Style where
  | plain | singleQuoted | doubleQuoted | literal | folded
deriving DecidableEq, Repr

/-- A word of a YAML text. -/
inductive Token where
  /-- `%YAML`. -/
  | version (major minor : Nat)
  /-- `%TAG`: what a tag's handle stands for. -/
  | handle (name stem : String)
  | documentStart
  | documentEnd
  | blockSequence
  | blockMapping
  | blockEnd
  | flowSequence
  | flowSequenceEnd
  | flowMapping
  | flowMappingEnd
  /-- The dash of an item. -/
  | blockEntry
  /-- The comma between items. -/
  | flowEntry
  | key
  | value
  | anchor (name : String)
  | alias (name : String)
  | tag (handle suffix : String)
  | scalar (style : Style) (text : String)
deriving DecidableEq, Repr

end Fleetkeeper.Yaml
