/-
From words to the tree they describe. A node may be anchored, and an alias
stands for the node anchored under its name. An anchor takes the slot
numbered by the names known so far, so a name that is anchored again moves to
a new slot; of the nodes that take one slot the last counts.
-/
import Fleetkeeper.Yaml.Token

namespace Fleetkeeper.Yaml

/-- What stands in front of a node. -/
structure Props where
  /-- The slot of its anchor. -/
  slot : Option Nat := none
  /-- Its tag, written out. -/
  tag : Option String := none
deriving DecidableEq, Repr

/-- A tree of values. -/
inductive Node where
  | scalar (props : Props) (style : Style) (text : String)
  | sequence (props : Props) (items : List Node)
  | mapping (props : Props) (entries : List (Node × Node))
  | alias (slot : Nat)
deriving Repr

/-- What stands where nothing is written. -/
def Node.nothing : Node := .scalar {} .plain ""

/-- The words to come, and what has been said before them. -/
structure Reading where
  tokens : List Token
  /-- What the handles of tags stand for; the first counts. -/
  handles : List (String × String) := []
  /-- The slots of the names anchored so far, each name once. -/
  anchors : List (String × Nat) := []

namespace Reading

/-- Without the next word. -/
def skip (s : Reading) : Reading := { s with tokens := s.tokens.drop 1 }

/-- Whether the next word is one of `ts`. -/
def nextIs (s : Reading) (ts : List Token) : Bool :=
  match s.tokens with
  | [] => false
  | t :: _ => ts.contains t

/-- Give a name a slot. -/
def anchor (s : Reading) (name : String) : Nat × Reading :=
  let slot := s.anchors.length
  (slot, { s with anchors := (name, slot) :: s.anchors.filter (·.1 ≠ name) })

/-- A tag written out. -/
def tag (s : Reading) (handle suffix : String) : Except String String :=
  if handle = "" then .ok suffix
  else
    match s.handles.lookup handle with
    | some stem => .ok (stem ++ suffix)
    | none => .error "found undefined tag handle"

/-- An anchor and a tag, in either order; the anchor is still a name. -/
def props (s : Reading) :
    Except String (Option String × Option String × Reading) := do
  match s.tokens with
  | .anchor name :: .tag handle suffix :: rest =>
    pure (some name, some (← s.tag handle suffix), { s with tokens := rest })
  | .anchor name :: rest => pure (some name, none, { s with tokens := rest })
  | .tag handle suffix :: .anchor name :: rest =>
    pure (some name, some (← s.tag handle suffix), { s with tokens := rest })
  | .tag handle suffix :: rest =>
    pure (none, some (← s.tag handle suffix), { s with tokens := rest })
  | _ => pure (none, none, s)

/-- No content: right only after an anchor or a tag. -/
def absent (props : Props) (s : Reading) :
    Except String (Node × Reading) :=
  if props.slot.isSome || props.tag.isSome then
    .ok (.scalar props .plain "", s)
  else .error "did not find expected node content"

mutual

/-- A node. Outside flow collections `inBlock` admits block collections, and
`indentless` items that are not indented. -/
def node (inBlock indentless : Bool) :
    Nat → Reading → Except String (Node × Reading)
  | 0, _ => .error "the text does not end"
  | n + 1, s =>
    match s.tokens with
    | .alias name :: _ =>
      match s.anchors.lookup name with
      | some slot => .ok (.alias slot, s.skip)
      | none => .error "unknown anchor"
    | _ => do
      let (anchor?, tag, s) ← s.props
      let (slot, s) := match anchor? with
        | none => (none, s)
        | some name =>
          let (slot, s) := s.anchor name
          (some slot, s)
      let props : Props := { slot, tag }
      match s.tokens with
      | .blockEntry :: _ =>
        if indentless then do
          let (items, s) ← indentlessItems n s
          pure (.sequence props items, s)
        else absent props s
      | .scalar style text :: _ => pure (.scalar props style text, s.skip)
      | .flowSequence :: _ => do
        let (items, s) ← flowItems true n s.skip
        pure (.sequence props items, s)
      | .flowMapping :: _ => do
        let (entries, s) ← flowEntries true n s.skip
        pure (.mapping props entries, s)
      | .blockSequence :: _ =>
        if inBlock then do
          let (items, s) ← blockItems n s.skip
          pure (.sequence props items, s)
        else absent props s
      | .blockMapping :: _ =>
        if inBlock then do
          let (entries, s) ← blockEntries n s.skip
          pure (.mapping props entries, s)
        else absent props s
      | _ => absent props s

/-- A node, unless one of `ends` comes next. -/
def optional (ends : List Token) (inBlock indentless : Bool) :
    Nat → Reading → Except String (Node × Reading)
  | 0, _ => .error "the text does not end"
  | n + 1, s =>
    if s.nextIs ends then .ok (.nothing, s) else node inBlock indentless n s

/-- The items of a block sequence. -/
def blockItems : Nat → Reading → Except String (List Node × Reading)
  | 0, _ => .error "the text does not end"
  | n + 1, s =>
    if s.nextIs [.blockEntry] then do
      let (item, s) ← optional [.blockEntry, .blockEnd] true false n s.skip
      let (items, s) ← blockItems n s
      pure (item :: items, s)
    else if s.nextIs [.blockEnd] then .ok ([], s.skip)
    else .error "did not find expected '-' indicator"

/-- Items that stand at the column of the keys around them. -/
def indentlessItems : Nat → Reading → Except String (List Node × Reading)
  | 0, _ => .error "the text does not end"
  | n + 1, s =>
    if s.nextIs [.blockEntry] then do
      let (item, s) ←
        optional [.blockEntry, .key, .value, .blockEnd] true false n s.skip
      let (items, s) ← indentlessItems n s
      pure (item :: items, s)
    else .ok ([], s)

/-- The entries of a block mapping. -/
def blockEntries : Nat → Reading → Except String (List (Node × Node) × Reading)
  | 0, _ => .error "the text does not end"
  | n + 1, s =>
    if s.nextIs [.key] then do
      let (key, s) ← optional [.key, .value, .blockEnd] true true n s.skip
      let (value, s) ←
        if s.nextIs [.value] then
          optional [.key, .value, .blockEnd] true true n s.skip
        else pure (.nothing, s)
      let (entries, s) ← blockEntries n s
      pure ((key, value) :: entries, s)
    else if s.nextIs [.blockEnd] then .ok ([], s.skip)
    else .error "did not find expected key"

/-- The items of a flow sequence; one may be a single entry of a mapping. -/
def flowItems (isFirst : Bool) :
    Nat → Reading → Except String (List Node × Reading)
  | 0, _ => .error "the text does not end"
  | n + 1, s => do
    if s.nextIs [.flowSequenceEnd] then return ([], s.skip)
    if !isFirst && !s.nextIs [.flowEntry] then
      throw "did not find expected ',' or ']'"
    let s := if isFirst then s else s.skip
    if s.nextIs [.flowSequenceEnd] then return ([], s.skip)
    let (item, s) ←
      if s.nextIs [.key] then do
        let ends : List Token := [.value, .flowEntry, .flowSequenceEnd]
        -- the sign that shows a missing key is dropped
        let (key, s) ←
          if s.skip.nextIs ends then pure (Node.nothing, s.skip.skip)
          else node false false n s.skip
        let (value, s) ←
          if s.nextIs [.value] then
            optional [.flowEntry, .flowSequenceEnd] false false n s.skip
          else pure (.nothing, s)
        pure (.mapping {} [(key, value)], s)
      else node false false n s
    let (items, s) ← flowItems false n s
    pure (item :: items, s)

/-- The entries of a flow mapping; one may be a key alone. -/
def flowEntries (isFirst : Bool) :
    Nat → Reading → Except String (List (Node × Node) × Reading)
  | 0, _ => .error "the text does not end"
  | n + 1, s => do
    if s.nextIs [.flowMappingEnd] then return ([], s.skip)
    if !isFirst && !s.nextIs [.flowEntry] then
      throw "did not find expected ',' or '\x7d'"
    let s := if isFirst then s else s.skip
    if s.nextIs [.flowMappingEnd] then return ([], s.skip)
    let ends : List Token := [.flowEntry, .flowMappingEnd]
    let (key, value, s) ←
      if s.nextIs [.key] then do
        let (key, s) ← optional (.value :: ends) false false n s.skip
        if s.nextIs [.value] then do
          let (value, s) ← optional ends false false n s.skip
          pure (key, value, s)
        else pure (key, .nothing, s)
      else do
        let (key, s) ← node false false n s
        pure (key, .nothing, s)
    let (entries, s) ← flowEntries false n s
    pure ((key, value) :: entries, s)

end

-- =============================================================== documents

/-- The directives in front of a document; only version 1.1 or 1.2 can be
read, and none may be given twice. -/
def directives : List Token → List (String × String) → Bool →
    Except String (List (String × String) × List Token)
  | .version major minor :: rest, handles, versioned =>
    if versioned then .error "found duplicate %YAML directive"
    else if major ≠ 1 ∨ (minor ≠ 1 ∧ minor ≠ 2) then
      .error "found incompatible YAML document"
    else directives rest handles true
  | .handle name stem :: rest, handles, versioned =>
    if (handles.lookup name).isSome then
      .error "found duplicate %TAG directive"
    else directives rest (handles ++ [(name, stem)]) versioned
  | rest, handles, _ => .ok (handles, rest)

/-- The handles known without a directive. -/
def knownHandles : List (String × String) :=
  [("!", "!"), ("!!", "tag:yaml.org,2002:")]

/-- The only document of a text. -/
def document (tokens : List Token) : Except String Node := do
  if tokens = [] then return .nothing
  let fuel := 2 * tokens.length + 3
  let (handles, rest) ← directives tokens [] false
  let (isExplicit, rest) ← match rest with
    | .documentStart :: rest => pure (true, rest)
    | rest =>
      if rest.length = tokens.length then pure (false, rest)
      else throw "did not find expected <document start>"
  let s : Reading := { tokens := rest, handles := handles ++ knownHandles }
  let (root, s) ←
    match isExplicit, s.tokens with
    | true, [] => pure (Node.nothing, s)
    | true, .documentEnd :: _ => pure (.nothing, s)
    | true, .documentStart :: _ => pure (.nothing, s)
    | true, .version .. :: _ => pure (.nothing, s)
    | true, .handle .. :: _ => pure (.nothing, s)
    | _, _ => node true false fuel s
  if s.tokens.dropWhile (· = .documentEnd) = [] then pure root
  else throw "more than one document"

end Reading

-- ================================================================= anchors

namespace Node

mutual

/-- The anchored nodes of a tree by their slots, in the order they start. -/
def anchored : Node → List (Nat × Node)
  | .scalar props style text =>
    (props.slot.map fun i => (i, .scalar props style text)).toList
  | .sequence props items =>
    (props.slot.map fun i => (i, .sequence props items)).toList
      ++ anchoredItems items
  | .mapping props entries =>
    (props.slot.map fun i => (i, .mapping props entries)).toList
      ++ anchoredEntries entries
  | .alias _ => []

def anchoredItems : List Node → List (Nat × Node)
  | [] => []
  | item :: items => anchored item ++ anchoredItems items

def anchoredEntries : List (Node × Node) → List (Nat × Node)
  | [] => []
  | (key, value) :: entries =>
    anchored key ++ anchored value ++ anchoredEntries entries

end

end Node

end Fleetkeeper.Yaml
