/-
Nodes to domain types. What a plain scalar is depends on what is wanted; a
quoted one is a text and nothing else. A record is read from a mapping,
unknown keys skipped and a known key given twice refused, or from a sequence
of its fields in order; where nothing is written it has no fields.
-/
import Fleetkeeper.Text.Digit
import Fleetkeeper.Yaml.Layout
import Fleetkeeper.Yaml.Node

namespace Fleetkeeper.Yaml

/-- A text as a tree, with the nodes that aliases stand for. -/
structure Document where
  root : Node
  anchored : List (Nat × Node)

/-- The document that a text holds. -/
def Document.ofText (text : String) : Except String Document := do
  let root ← Reading.document (← tokens text)
  pure { root, anchored := root.anchored }

/-- The node that an alias stands for. -/
def Document.resolve (d : Document) : Node → Node
  | .alias slot => (d.anchored.reverse.lookup slot).getD (.alias slot)
  | node => node

/-- A reading of nodes as `α`. -/
abbrev Decoder (α : Type) := Document → Node → Except String α

-- =============================================================== scalars

/-- Whether a scalar may be something other than a text: it is plain, or
literal and tagged as what is wanted. -/
def isUntyped (wanted : String) (props : Props) (style : Style) : Bool :=
  style = .plain
    || (style = .literal && props.tag = some ("tag:yaml.org,2002:" ++ wanted))

/-- A whole number: decimal without zeros in front, or to the base that `0x`,
`0o` or `0b` says. A plus sign may precede it. -/
def wholeNumber? (text : String) : Option Nat :=
  let digits := match text.toList with
    | '+' :: r => r
    | r => r
  match digits with
  | '0' :: 'x' :: r => Text.number? 16 r
  | '0' :: 'o' :: r => Text.number? 8 r
  | '0' :: 'b' :: r => Text.number? 2 r
  | '0' :: _ :: _ => none
  | r => Text.number? 10 r

/-- A whole number up to `most`. -/
def asWhole (most : Nat) : Decoder Nat := fun d node =>
  match d.resolve node with
  | .scalar props style text =>
    match if isUntyped "int" props style then wholeNumber? text else none with
    | some n => if n ≤ most then .ok n else .error "a number is out of range"
    | none => .error "expected a whole number"
  | _ => .error "expected a whole number"

/-- A number of 64 bits. -/
def asU64 : Decoder Nat := asWhole 18446744073709551615

/-- A number of 32 bits. -/
def asU32 : Decoder Nat := asWhole 4294967295

/-- The spellings of the truth values. -/
def truthWords : List (String × Bool) :=
  [("true", true), ("True", true), ("TRUE", true),
   ("false", false), ("False", false), ("FALSE", false)]

def asBool : Decoder Bool := fun d node =>
  match d.resolve node with
  | .scalar props style text =>
    match if isUntyped "bool" props style then truthWords.lookup text
        else none with
    | some b => .ok b
    | none => .error "expected a boolean"
  | _ => .error "expected a boolean"

/-- Whether a scalar says that there is nothing. -/
def isNull (style : Style) (text : String) : Bool :=
  style = .plain && ["", "~", "null", "Null", "NULL"].contains text

/-- A value of a finite type by its word: the text of a scalar, or a tag of
its own in front of nothing. -/
def asVariant {α : Type} (known : List (String × α)) : Decoder α :=
  fun d node =>
  match d.resolve node with
  | .scalar props style text =>
    let word? : Option String :=
      match props.tag.map String.toList with
      | some ('!' :: name) =>
        if isNull style text then
          some (if name = [] then "!" else String.ofList name)
        else none
      | _ => some text
    match word?.bind fun word => known.lookup word with
    | some a => .ok a
    | none => .error "unknown variant"
  | _ => .error "expected a word"

-- =============================================================== records

/-- The fields found for a record, by their names. -/
abbrev Fields := List (String × Node)

/-- The text of a key. -/
def keyText (d : Document) (key : Node) : Except String String :=
  match d.resolve key with
  | .scalar _ _ text => .ok text
  | _ => .error "expected a word"

/-- Whether a list has no repeats. -/
def distinct : List String → Bool
  | [] => true
  | a :: rest => !rest.contains a && distinct rest

/-- The fields of a record with the field names `names` in order. -/
def fields (names : List String) : Decoder Fields := fun d node =>
  match d.resolve node with
  | .mapping _ entries => do
    let found ← entries.mapM fun e => (keyText d e.1).map fun k => (k, e.2)
    let found := found.filter fun e => names.contains e.1
    if distinct (found.map Prod.fst) then pure found
    else throw "a field is given twice"
  | .sequence _ items =>
    if items.length ≤ names.length then .ok (names.zip items)
    else .error "a sequence is too long"
  | .scalar _ style text =>
    if style = .plain && text = "" then .ok [] else .error "expected a mapping"
  | .alias _ => .error "unknown anchor"

/-- A field with a value of its own when it is missing. -/
def Fields.orElse {α : Type} (fs : Fields) (d : Document) (name : String)
    (f : Decoder α) (default : α) : Except String α :=
  match fs.lookup name with
  | some node => f d node
  | none => .ok default

end Fleetkeeper.Yaml
