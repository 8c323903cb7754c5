/-
Outlines: settings and groups of settings, a line each, a group indented by
two blanks more than its heading. The document that the text of an outline
holds is the outline itself (`ofText_outline`).

# Words

A line closes the groups in front of it, so behind the lines of an outline
some are still open that the next line to the left, or the end, will close.
`Alike` forgets the difference: two states that any such line and the end
take to the same. Up to that, the words of an outline are those of its tree
(`alike_lines`), by induction over the outline.

# Nodes

The reader of the tree is given more fuel than there are words, and at each
entry it passes more words on the way than it takes levels of fuel
(`blockEntries_words`).
-/
import Fleetkeeper.Proofs.Yaml.Lines
import Fleetkeeper.Yaml.Decode

namespace Fleetkeeper.Yaml

open Layout

/-- Settings and groups of settings, one after the other. -/
inductive Outline where
  | done
  | setting (key value : String) (rest : Outline)
  | group (key : String) (inside rest : Outline)

namespace Outline

/-- All keys and values are words, no key is too long, and no group is
empty. -/
def Plain : Outline → Prop
  | done => True
  | setting key value rest => IsWord key ∧ key.toList.length ≤ 1024
    ∧ IsWord value ∧ rest.Plain
  | group key inside rest =>
    IsWord key ∧ key.toList.length ≤ 1024 ∧ inside ≠ done ∧ inside.Plain
      ∧ rest.Plain

/-- The lines of an outline at a column. -/
def lines (column : Nat) : Outline → List Line
  | done => []
  | setting key value rest => { column, key, value } :: rest.lines column
  | group key inside rest =>
    { column, key } :: (inside.lines (column + 2) ++ rest.lines column)

/-- The words of its entries. -/
def words : Outline → List Token
  | done => []
  | setting key value rest =>
    .key :: .scalar .plain key :: .value :: .scalar .plain value :: rest.words
  | group key inside rest =>
    .key :: .scalar .plain key :: .value :: .blockMapping
      :: (inside.words ++ .blockEnd :: rest.words)

/-- What a setting is as a node. -/
def leaf (text : String) : Node := .scalar {} .plain text

/-- Members as the entries of a node. -/
def entries (members : List (String × Node)) : List (Node × Node) :=
  members.map fun m => (leaf m.1, m.2)

/-- The settings and groups by their keys. -/
def members : Outline → List (String × Node)
  | done => []
  | setting key value rest => (key, leaf value) :: rest.members
  | group key inside rest => (key, .mapping {} (entries inside.members))
    :: rest.members

/-- An outline as a node. -/
def node (o : Outline) : Node := .mapping {} (entries o.members)

-- =================================================================== lines

/-- A plain outline gives plain lines, at whatever column it starts. -/
theorem plain_lines {o : Outline} (h : o.Plain) (column : Nat) :
    ∀ l ∈ o.lines column, l.Plain := by
  induction o generalizing column with
  | done => simp [lines]
  | setting key value rest ih =>
    obtain ⟨hkey, hshort, hvalue, hrest⟩ := h
    simp only [lines, List.mem_cons]
    rintro l (rfl | hl)
    · exact ⟨hkey, hshort, .inr hvalue⟩
    · exact ih hrest column l hl
  | group key inside rest ihInside ihRest =>
    obtain ⟨hkey, hshort, -, hinside, hrest⟩ := h
    simp only [lines, List.mem_cons, List.mem_append]
    rintro l (rfl | hl | hl)
    · exact ⟨hkey, hshort, .inl rfl⟩
    · exact ihInside hinside _ l hl
    · exact ihRest hrest _ l hl

/-- No line of an outline stands left of where it starts. -/
theorem column_le {o : Outline} {column : Nat} {l : Line}
    (h : l ∈ o.lines column) :
    column ≤ l.column := by
  induction o generalizing column with
  | done => cases h
  | setting key value rest ih =>
    rcases List.mem_cons.1 h with rfl | h
    · exact Nat.le_refl _
    · exact ih h
  | group key inside rest ihInside ihRest =>
    simp only [lines, List.mem_cons, List.mem_append] at h
    rcases h with rfl | h | h
    · exact Nat.le_refl _
    · exact Nat.le_trans (Nat.le_add_right ..) (ihInside h)
    · exact ihRest h

theorem column_head {o : Outline} {column : Nat} {l : Line}
    (h : l ∈ (o.lines column).head?) :
    l.column = column := by
  cases o with
  | done => cases h
  | setting => cases h; rfl
  | group => cases h; rfl

/-- Only a heading is followed by a line further right. -/
theorem chain_lines (o : Outline) (column : Nat) :
    (o.lines column).IsChain Line.Precedes := by
  induction o generalizing column with
  | done => exact .nil
  | setting key value rest ih =>
    refine List.isChain_cons.2 ⟨fun l hl _ => ?_, ih column⟩
    rw [column_head hl]
  | group key inside rest ihInside ihRest =>
    have hinside : (inside.lines (column + 2) ++ rest.lines column).IsChain
        Line.Precedes := by
      refine List.isChain_append.2 ⟨ihInside _, ihRest _,
        fun l hl next hnext _ => ?_⟩
      have hle := column_le (List.mem_of_mem_getLast? hl)
      rw [column_head hnext]
      omega
    exact List.isChain_cons.2 ⟨fun l _ hvalue => absurd rfl hvalue, hinside⟩

-- =================================================================== words

/-- Open collections and words that end in the same words, and that every
line up to a column takes to the same. -/
structure Alike (column : Nat) (a b : List Nat × List Token) : Prop where
  line : ∀ c ≤ column, enter c a.1 a.2 = enter c b.1 b.2
  ended : ended a = ended b

theorem Alike.refl (column : Nat) (a : List Nat × List Token) :
    Alike column a a :=
  ⟨fun _ _ => rfl, rfl⟩

/-- A line at the column of the innermost collection opens and closes
nothing. -/
theorem enter_head (column : Nat) (outer : List Nat) (tokens : List Token) :
    enter column (column :: outer) tokens = (column :: outer, tokens) := by
  simp [enter, opened, rightOf]

/-- A line further right opens a collection. -/
theorem enter_right {column c : Nat} (h : column < c) (outer : List Nat)
    (tokens : List Token) :
    enter c (column :: outer) tokens
      = (c :: column :: outer, .blockMapping :: tokens) := by
  simp [enter, opened, rightOf, Nat.lt_asymm h, h]

/-- A collection further right may as well be closed at once. -/
theorem Alike.close {column c : Nat} (h : column < c)
    {a : List Nat × List Token} {outer : List Nat} {tokens : List Token}
    (ha : Alike c a (c :: outer, tokens)) :
    Alike column a (outer, .blockEnd :: tokens) where
  line := by
    intro d hd
    rw [ha.line d (by omega)]
    have hright : rightOf d (c :: outer) = rightOf d outer + 1 := by
      simp [rightOf, Nat.lt_of_le_of_lt hd h]
    simp only [enter, hright, List.drop_succ_cons, List.replicate_succ',
      List.append_assoc, List.singleton_append]
  ended := by
    rw [ha.ended]
    simp [Yaml.ended, List.replicate_succ]

/-- The lines of an outline say its words. They may open its collection
themselves, unless there are none. -/
theorem alike_lines {o : Outline} (h : o.Plain) {column : Nat}
    {state : List Nat × List Token} {outer : List Nat} {tokens : List Token}
    (henter : enter column state.1 state.2 = (column :: outer, tokens))
    (hdone : o = done → Alike column state (column :: outer, tokens)) :
    Alike column ((o.lines column).foldl Line.scan state)
      (column :: outer, o.words.reverse ++ tokens) := by
  induction o generalizing column state outer tokens with
  | done => exact hdone rfl
  | setting key value rest ih =>
    obtain ⟨-, -, hvalue, hrest⟩ := h
    have hscan : Line.scan state { column, key, value } = (column :: outer,
        .scalar .plain value :: .value :: .scalar .plain key :: .key
          :: tokens) := by
      simp [Line.scan, henter, Line.said, hvalue.1]
    simp only [lines, List.foldl_cons, hscan, words, List.reverse_cons,
      List.append_assoc]
    exact ih hrest (enter_head ..) fun _ => Alike.refl ..
  | group key inside rest ihInside ihRest =>
    obtain ⟨-, -, hsome, hinside, hrest⟩ := h
    let behind : List Nat × List Token := (column :: outer,
      .value :: .scalar .plain key :: .key :: tokens)
    have hscan : Line.scan state { column, key } = behind := by
      simp [Line.scan, henter, Line.said, behind]
    have hright : column < column + 2 := by omega
    have hright' : enter (column + 2) behind.1 behind.2
        = ((column + 2) :: column :: outer, .blockMapping :: behind.2) :=
      enter_right hright _ _
    have hopen := ihInside hinside hright' fun hdone => absurd hdone hsome
    have hclosed := hopen.close hright
    have henter' := (hclosed.line column (Nat.le_refl _)).trans (enter_head ..)
    simp only [lines, List.foldl_cons, List.foldl_append, hscan, words,
      List.reverse_cons, List.reverse_append, List.append_assoc]
    exact ihRest hrest henter' fun _ => hclosed

/-- The words of an outline's text. -/
theorem tokens_outline {o : Outline} (h : o.Plain) (hsome : o ≠ done)
    {text : String} (htext : text.toList = (o.lines 0).flatMap Line.text) :
    tokens text = .ok (.blockMapping :: (o.words ++ [.blockEnd])) := by
  have halike : Alike 0 ((o.lines 0).foldl Line.scan ([], []))
      ([0], o.words.reverse ++ [.blockMapping]) :=
    alike_lines h rfl fun hdone => absurd hdone hsome
  rw [tokens_lines htext (plain_lines h 0) (chain_lines o 0), halike.ended]
  simp [ended]

-- =================================================================== nodes

section Reading

open Yaml.Reading

section Entry

variable (s : Reading) (rest : List Token) (n : Nat)

/-- The next entry of a collection: a key, a value, and the entries behind
it. -/
theorem blockEntries_entry {s' s'' : Reading} {value : Node}
    {others : List (Node × Node)} (key : String)
    (hvalue : optional [.key, .value, .blockEnd] true true (n + 2)
      { s with tokens := rest }
      = .ok (value, s'))
    (hothers : blockEntries (n + 2) s' = .ok (others, s'')) :
    blockEntries (n + 3)
        { s with tokens := .key :: .scalar .plain key :: .value :: rest }
      = .ok ((leaf key, value) :: others, s'') := by
  have hkey : optional [.key, .value, .blockEnd] true true (n + 2)
      { s with tokens := .scalar .plain key :: .value :: rest }
        = .ok (leaf key, { s with tokens := .value :: rest }) := rfl
  rw [blockEntries]
  simp [nextIs, Reading.skip, hkey, hvalue, hothers, bind, Except.bind, pure,
    Except.pure]

/-- A node that is a collection of entries. -/
theorem node_mapping {members : List (Node × Node)} {s' : Reading}
    (indentless : Bool)
    (h : blockEntries n { s with tokens := rest } = .ok (members, s')) :
    Reading.node true indentless (n + 1)
        { s with tokens := .blockMapping :: rest }
      = .ok (.mapping {} members, s') := by
  rw [Reading.node]
  simp [props, Reading.skip, h, bind, Except.bind, pure, Except.pure]

end Entry

/-- The entries of an outline, up to the end of its collection. -/
theorem blockEntries_words (o : Outline) (s : Reading) (rest : List Token)
    {n : Nat} (hn : o.words.length < n) :
    blockEntries n { s with tokens := o.words ++ .blockEnd :: rest }
      = .ok (entries o.members, { s with tokens := rest }) := by
  induction o generalizing rest n with
  | done =>
    obtain ⟨n, rfl⟩ : ∃ m, n = m + 1 := ⟨n - 1, by omega⟩
    rfl
  | setting key value tail ih =>
    simp only [words, List.length_cons] at hn
    obtain ⟨n, rfl⟩ : ∃ m, n = m + 3 := ⟨n - 3, by omega⟩
    exact blockEntries_entry s _ n key rfl (ih rest (by omega))
  | group key inside tail ihInside ihTail =>
    simp only [words, List.length_cons, List.length_append] at hn
    obtain ⟨n, rfl⟩ : ∃ m, n = m + 3 := ⟨n - 3, by omega⟩
    have hinside :=
      ihInside (tail.words ++ .blockEnd :: rest) (n := n) (by omega)
    have hvalue := node_mapping s _ n true hinside
    simp only [words, List.cons_append, List.append_assoc]
    exact blockEntries_entry s _ n key hvalue (ihTail rest (by omega))

/-- The only document of an outline's words. -/
theorem document_words (o : Outline) :
    document (.blockMapping :: (o.words ++ [.blockEnd])) = .ok o.node := by
  let s : Reading :=
    { tokens := .blockMapping :: (o.words ++ [.blockEnd]),
      handles := knownHandles }
  have hnode : Reading.node true false (2 * (o.words.length + 1 + 1) + 3) s
      = .ok (o.node, { s with tokens := [] }) :=
    node_mapping s _ (2 * (o.words.length + 1 + 1) + 2) false
      (blockEntries_words o s [] (by omega))
  simp [document, directives, s, hnode, bind, Except.bind, pure, Except.pure]

end Reading

-- ================================================================ document

/-- Outlines have no anchors. -/
theorem anchored_members (o : Outline) :
    Node.anchoredEntries (entries o.members) = [] := by
  induction o with
  | done => rfl
  | setting key value rest ih =>
    simpa [members, entries, Node.anchoredEntries, Node.anchored, leaf]
      using ih
  | group key inside rest ihInside ihRest =>
    simpa [members, entries, Node.anchoredEntries, Node.anchored, leaf]
      using ⟨ihInside, ihRest⟩

/-- The document that an outline's text holds is the outline. -/
theorem ofText_outline {o : Outline} (h : o.Plain) (hsome : o ≠ done)
    {text : String} (htext : text.toList = (o.lines 0).flatMap Line.text) :
    Document.ofText text = .ok { root := o.node, anchored := [] } := by
  have hanchored : o.node.anchored = [] := by
    simp [node, Node.anchored, anchored_members]
  simp [Document.ofText, tokens_outline h hsome htext, document_words,
    hanchored, bind, Except.bind, pure, Except.pure]

end Outline

end Fleetkeeper.Yaml
