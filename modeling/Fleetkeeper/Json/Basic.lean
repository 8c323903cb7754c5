/-
Structured values as they travel between programs: what an engine answers,
what a create request carries, what events and snapshots are written as.
Whole numbers and binary64 numbers are kept apart, and an object keeps its
members in order, repeated keys included, because a reader of a record has
to see a key that is given twice.
-/
import Fleetkeeper.Binary64
import Fleetkeeper.Table

namespace Fleetkeeper

/-- A structured value. -/
inductive Json where
  | null
  | bool (b : Bool)
  | int (i : Int)
  | real (x : Binary64)
  | str (s : String)
  | arr (items : List Json)
  | obj (members : List (String × Json))
  /-- Of correct form, but standing for no value: a number beyond the
  format, a text with half a surrogate pair. It may be skipped, not read. -/
  | unreadable
deriving Repr, Inhabited

namespace Json

/-- A text, or `null`. -/
def ofText? : Option String → Json
  | none => null
  | some s => str s

/-- An optional part, `null` when it is unset. -/
def ofOption {α : Type} (f : α → Json) : Option α → Json
  | none => null
  | some a => f a

/-- A whole number. -/
def ofNat (n : Nat) : Json := int n

/-- A table as an object. -/
def ofTable {α : Type} (f : α → Json) (t : Table α) : Json :=
  obj (t.entries.map fun e => (e.1, f e.2))

/-- A list as an array. -/
def ofList {α : Type} (f : α → Json) (l : List α) : Json := arr (l.map f)

/-- The last value under a key of an object. -/
def get? (key : String) : Json → Option Json
  | obj members => (members.reverse.find? (fun m => m.1 == key)).map Prod.snd
  | _ => none

end Json

end Fleetkeeper
