/-
The words of a text of plain lines, `key: value` or `key:`, indented by blanks.

# What a line does

Columns alone decide what a line closes and opens (`enter`): collections
further right end in front of it, and one begins where none is left at its
column. Behind that it says its key and, unless it only opens a section, its
value (`Line.said`). So the words of a text are told by going through its
lines with the stack of open columns (`Line.scan`), and this is what the
reader does, whose one rule for keys looks at the colon behind a word and puts
the signs in front of it afterwards.

# How the reader gets there

A plain scalar goes on over line breaks while the next line is indented
further than its collection, so the value of a line is read together with the
break and the blanks behind it. Behind a section the break is still to be
skipped. `Ready` covers both: where the reader is at the next word once it has
skipped. From one line to the next it takes two rounds or three (`run_line`),
and the law of a text is an induction over its lines (`run_lines`).
-/
import Fleetkeeper.Yaml.Layout
import Mathlib.Data.List.Chain
import Mathlib.Data.List.TakeWhile

namespace Fleetkeeper.Yaml

-- =================================================================== words

/-- Characters that mean nothing but themselves, wherever they stand. -/
def isWordChar (c : Char) : Bool := c.isAlphanum || c = '_'

/-- The characters of words lie between the digit 0 and the letter z. -/
theorem toNat_of_isWordChar {c : Char} (h : isWordChar c = true) :
    48 ≤ c.toNat ∧ c.toNat ≤ 122 := by
  unfold isWordChar at h
  delta Char.isAlphanum Char.isAlpha Char.isUpper Char.isLower Char.isDigit
    at h
  simp only [Bool.or_eq_true, Bool.and_eq_true, decide_eq_true_eq,
    UInt32.le_iff_toNat_le, ge_iff_le] at h
  change (((65 ≤ c.toNat ∧ c.toNat ≤ 90) ∨ (97 ≤ c.toNat ∧ c.toNat ≤ 122))
    ∨ (48 ≤ c.toNat ∧ c.toNat ≤ 57)) ∨ c = '_' at h
  rcases h with ((h | h) | h) | h
  · omega
  · omega
  · omega
  · subst h
    decide

theorem ne_of_isWordChar {c d : Char} (h : isWordChar c = true)
    (hd : isWordChar d = false) :
    c ≠ d := by
  rintro rfl
  rw [h] at hd
  cases hd

section WordChar

variable {c : Char} (h : isWordChar c = true)
include h

theorem isGap_of_isWordChar : isGap c = false := by
  simp (disch := decide) [isGap, ne_of_isWordChar h]

theorem isBreak_of_isWordChar : isBreak c = false := by
  have hrange := toNat_of_isWordChar h
  have h85 : c.toNat ≠ 0x85 := by omega
  have h2028 : c.toNat ≠ 0x2028 := by omega
  have h2029 : c.toNat ≠ 0x2029 := by omega
  simp (disch := decide) [isBreak, ne_of_isWordChar h, h85, h2028, h2029]

theorem isIndicator_of_isWordChar : isIndicator c = false := by
  simp (disch := decide) [isIndicator, isFlowIndicator, ne_of_isWordChar h]

theorem isAllowed_of_isWordChar : isAllowed c = true := by
  have hrange := toNat_of_isWordChar h
  have hbetween : ' ' ≤ c ∧ c ≤ '~' := by
    rw [Char.le_def, Char.le_def, UInt32.le_iff_toNat_le,
      UInt32.le_iff_toNat_le]
    change 32 ≤ c.toNat ∧ c.toNat ≤ 126
    omega
  simp [isAllowed, hbetween]

end WordChar

/-- A word: not empty, and all of it word characters. -/
def IsWord (w : String) : Prop := w ≠ "" ∧ w.toList.all isWordChar = true

instance (w : String) : Decidable (IsWord w) :=
  inferInstanceAs (Decidable (_ ∧ _))

theorem IsWord.chars {w : String} (h : IsWord w) :
    ∀ c ∈ w.toList, isWordChar c = true :=
  List.all_eq_true.1 h.2

theorem IsWord.cons {w : String} (h : IsWord w) :
    ∃ c r, w.toList = c :: r ∧ isWordChar c = true := by
  cases hw : w.toList with
  | nil => exact absurd (String.toList_inj.1 hw) h.1
  | cons c r => exact ⟨c, r, rfl, h.chars c (by simp [hw])⟩

/-- A text that goes on with a word, or ends. -/
def AtWord (cs : List Char) : Prop := ∀ c ∈ cs.head?, isWordChar c = true

theorem atWord_nil : AtWord [] := by
  intro c hc
  cases hc

theorem IsWord.atWord {w : String} (h : IsWord w) (r : List Char) :
    AtWord (w.toList ++ r) := by
  obtain ⟨c, rest, hw, hc⟩ := h.cons
  intro d hd
  rw [hw] at hd
  cases hd
  exact hc

-- =========================================================== plain scalars

/-- A plain scalar outside flow collections takes in a word that it stops
behind. -/
theorem plainRun_word {w rest : List Char} (hw : ∀ c ∈ w, isWordChar c = true)
    (hstop : plainRun false rest = .ok ([], rest)) :
    plainRun false (w ++ rest) = .ok (w, rest) := by
  induction w with
  | nil => exact hstop
  | cons c w ih =>
    have hc := hw c List.mem_cons_self
    have hrest := ih fun d hd => hw d (List.mem_cons_of_mem _ hd)
    rw [List.cons_append, plainRun, hrest]
    simp (disch := decide)
      [isGap_of_isWordChar hc, isBreak_of_isWordChar hc, ne_of_isWordChar hc]

/-- At a word a gap ends. -/
theorem Gap.take_atWord {cs : List Char} (h : AtWord cs) (least : Nat)
    (g : Gap) (m : Mark) :
    take least g m cs = .ok (g, m, cs) := by
  cases cs with
  | nil => rfl
  | cons c r =>
    have hc : isWordChar c = true := h c rfl
    rw [take.eq_def]
    split
    · rename_i heq
      exact absurd (List.cons.inj heq).1 (ne_of_isWordChar hc (by decide))
    · rename_i heq
      obtain ⟨rfl, rfl⟩ := List.cons.inj heq
      simp [isBreak_of_isWordChar hc, isGap_of_isWordChar hc]
    · rename_i heq
      cases heq

/-- Blanks behind a break are only indentation. -/
theorem Gap.take_indentation {cs : List Char} (h : AtWord cs)
    (least : Nat) (g : Gap) (hg : g.first.isSome = true) (k : Nat) (m : Mark) :
    take least g m (List.replicate k ' ' ++ cs) = .ok (g, m.move k, cs) := by
  induction k generalizing m with
  | zero => exact take_atWord h least g m
  | succ k ih =>
    have hblank : g.addBlank ' ' = g := by
      unfold addBlank
      split
      · rename_i hnone
        rw [hnone] at hg
        cases hg
      · rfl
    have hmove : (m.move 1).move k = m.move (k + 1) := by
      simp only [Mark.move, Mark.mk.injEq, true_and]
      omega
    rw [List.replicate_succ, List.cons_append, take]
    · simp [isBreak, isGap, hblank, ih, hmove]
    · intro r heq
      cases heq

/-- A break and the blanks behind it, up to a word. -/
theorem Gap.take_break {cs : List Char} (h : AtWord cs) (least k : Nat)
    (m : Mark) :
    take least {} m ('\n' :: (List.replicate k ' ' ++ cs))
      = .ok ({ first := some ['\n'] }, (m.nextLine 1).move k, cs) := by
  rw [take]
  · simp only [show isBreak '\n' = true by decide, if_true]
    exact take_indentation h least _ rfl k _
  · intro r heq
    cases heq

theorem endsWord_break (rest : List Char) : endsWord ('\n' :: rest) = true :=
  rfl

section Plain

variable {w : String} (hw : IsWord w) (least : Nat) (m : Mark)
include hw

/-- What starts with a word is no marker of documents and no comment. -/
theorem starts_of_word (rest : List Char) :
    (isDocumentMarker m (w.toList ++ rest)
      || (w.toList ++ rest).head? = some '#') = false := by
  obtain ⟨c, r, hcr, hc⟩ := hw.cons
  rw [hcr]
  simp (disch := decide) [isDocumentMarker, ne_of_isWordChar hc]

/-- A word and a colon: the scalar ends in front of the colon. -/
theorem plain_key {rest : List Char} (hrest : endsWord rest = true) :
    plain false least m (w.toList ++ ':' :: rest)
      = .ok ⟨w.toList, m.move w.toList.length, ':' :: rest, false⟩ := by
  have hrun : plainRun false (w.toList ++ ':' :: rest)
      = .ok (w.toList, ':' :: rest) :=
    plainRun_word hw.chars (by simp [plainRun, isGap, isBreak, hrest])
  have hstart := starts_of_word hw m (':' :: rest)
  obtain ⟨c, r, hcr, -⟩ := hw.cons
  rw [hcr] at hrun hstart ⊢
  rw [plain, plainFrom]
  dsimp only
  rw [hstart, if_neg Bool.false_ne_true, hrun]
  rfl

/-- A word at the end of a line: the scalar goes on to the word after it, and
ends there if that stands too far left. -/
theorem plain_value {k : Nat} (hk : k < least) {rest : List Char}
    (hrest : AtWord rest) :
    plain false least m (w.toList ++ '\n' :: (List.replicate k ' ' ++ rest))
      = .ok ⟨w.toList, ((m.move w.toList.length).nextLine 1).move k,
        rest, true⟩ := by
  have hrun :
      plainRun false (w.toList ++ '\n' :: (List.replicate k ' ' ++ rest))
        = .ok (w.toList, '\n' :: (List.replicate k ' ' ++ rest)) :=
    plainRun_word hw.chars (by simp [plainRun, isGap, isBreak])
  have hstart := starts_of_word hw m ('\n' :: (List.replicate k ' ' ++ rest))
  have hcolumn : (((m.move w.toList.length).nextLine 1).move k).column
      = k := by
    simp [Mark.move, Mark.nextLine]
  obtain ⟨c, r, hcr, -⟩ := hw.cons
  rw [hcr] at hrun hstart hcolumn ⊢
  rw [plain, plainFrom]
  dsimp only
  rw [hstart, if_neg Bool.false_ne_true, hrun]
  dsimp only
  rw [if_neg (by simp [endsWord_break]), Gap.take_break hrest]
  dsimp only
  rw [hcolumn, if_pos (by simpa using hk)]
  rfl

end Plain

namespace Layout

-- ============================================================= one round

theorem advance_zero (s : Layout) : s.advance 0 = s := by
  cases s
  rfl

/-- A text that goes on with something to read, or ends. -/
def Solid (cs : List Char) : Prop :=
  ∀ c ∈ cs.head?, isGap c = false ∧ isBreak c = false ∧ c ≠ '#' ∧ c ≠ '\ufeff'

theorem solid_of_atWord {cs : List Char} (h : AtWord cs) : Solid cs :=
  fun c hc =>
  ⟨isGap_of_isWordChar (h c hc), isBreak_of_isWordChar (h c hc),
    ne_of_isWordChar (h c hc) (by decide),
    ne_of_isWordChar (h c hc) (by decide)⟩

/-- Blanks are taken up to where the text goes on. -/
theorem takeWhile_blanks {p : Char → Bool} (hp : p ' ' = true)
    (hother : ∀ c, isGap c = false → p c = false) {cs : List Char}
    (hcs : Solid cs) (k : Nat) :
    (List.replicate k ' ' ++ cs).takeWhile p = List.replicate k ' ' := by
  have hnone : cs.takeWhile p = [] := by
    cases cs with
    | nil => rfl
    | cons c r => simp [hother c (hcs c rfl).1]
  have hall : ∀ c ∈ List.replicate k ' ', p c = true := by
    intro c hc
    rw [List.eq_of_mem_replicate hc, hp]
  rw [List.takeWhile_append_of_pos hall, hnone, List.append_nil]

/-- Blanks are skipped up to what is to be read, or to the end. -/
theorem skip_blanks {s : Layout} {k : Nat} {cs : List Char} (n : Nat)
    (hrest : s.rest = List.replicate k ' ' ++ cs) (hcs : Solid cs) :
    s.skip (n + 1) = s.advance k := by
  have hmark : s.rest.head? ≠ some '\ufeff' := by
    intro hhead
    rw [hrest] at hhead
    cases k with
    | zero => exact (hcs _ hhead).2.2.2 rfl
    | succ k => simp [List.replicate_succ] at hhead
  have hblanks : s.rest.takeWhile
      (fun c => c = ' ' || (c = '\t' && (s.inFlow || !s.keyAllowed)))
        = List.replicate k ' ' := by
    rw [hrest]
    refine takeWhile_blanks (by simp) (fun c hc => ?_) hcs k
    unfold isGap at hc
    simp_all
  have hdrop : s.rest.drop k = cs := by
    simp [hrest]
  have hcomment : skipComment (s.mark.move k) cs = (s.mark.move k, cs) := by
    unfold skipComment
    split
    · exact absurd rfl (hcs _ rfl).2.2.1
    · rfl
  unfold skip
  simp only [hmark, decide_false, Bool.and_false, Bool.false_eq_true,
    if_false, hblanks, List.length_replicate, advance, hdrop, hcomment]
  cases cs with
  | nil => rfl
  | cons c r =>
    have hbreak := (hcs c rfl).2.1
    simp [hbreak]

/-- A break is skipped with the blanks behind it, and lets a key start. -/
theorem skip_break {s : Layout} {k : Nat} {cs : List Char} (n : Nat)
    (houter : s.outer = [])
    (hrest : s.rest = '\n' :: (List.replicate k ' ' ++ cs)) (hcs : Solid cs) :
    s.skip (n + 2)
      = { s with mark := (s.mark.nextLine 1).move k, rest := cs,
                 keyAllowed := true } := by
  let t : Layout :=
    { s with mark := s.mark.nextLine 1, rest := List.replicate k ' ' ++ cs,
             keyAllowed := true }
  have ht : s.skip (n + 2) = t.skip (n + 1) := by
    rw [skip]
    simp [hrest, skipComment, advance_zero, isBreak, skipBreak,
      inFlow, houter, t]
  rw [ht, skip_blanks n rfl hcs]
  simp [t, advance]

/-- A word is read as a plain scalar. -/
theorem next_word {s : Layout} {c : Char} {r : List Char}
    (hc : isWordChar c = true) :
    s.next c r
      = (do
          let read ← plain s.inFlow s.leastColumn s.mark (c :: r)
          s.scalar .plain read) := by
  have hmarker : isDocumentMarker s.mark (c :: r) = false := by
    simp (disch := decide) [isDocumentMarker, ne_of_isWordChar hc]
  unfold next
  simp (disch := decide) [hmarker, ne_of_isWordChar hc, startsPlain,
    isIndicator_of_isWordChar hc, isGap_of_isWordChar hc]

theorem next_colon {s : Layout} {r : List Char} (hr : endsWord r = true) :
    s.next ':' r = s.value := by
  have hmarker : isDocumentMarker s.mark (':' :: r) = false := by
    simp [isDocumentMarker]
  unfold next
  simp [hmarker, hr]

theorem closeTo_rest (s : Layout) (column : Option Nat) :
    (s.closeTo column).rest = s.rest := by
  unfold closeTo
  split <;> rfl

/-- A round of the reader: it skips, and reads one word. -/
theorem run_next {s t u : Layout} {c : Char} {r : List Char} (n : Nat)
    (hskip : s.skip (s.rest.length + 1) = t) (hfresh : t.dropStale = .ok t)
    (hrest : t.rest = c :: r)
    (hnext : (t.closeTo (some t.mark.column)).next c r = .ok u) :
    run (n + 1) s = run n u := by
  have hclosed : (t.closeTo (some t.mark.column)).rest = c :: r :=
    (closeTo_rest _ _).trans hrest
  rw [run]
  dsimp only
  rw [hskip, hfresh]
  simp only [bind, Except.bind, hclosed, hnext]

/-- Where nothing is left behind the blanks, the collections are closed. -/
theorem run_end {s t : Layout} (n : Nat)
    (hskip : s.skip (s.rest.length + 1) = t) (hfresh : t.dropStale = .ok t)
    (hrest : t.rest = []) :
    run (n + 1) s = (t.closeTo (some t.mark.column)).finish := by
  have hclosed : (t.closeTo (some t.mark.column)).rest = [] :=
    (closeTo_rest _ _).trans hrest
  rw [run]
  dsimp only
  rw [hskip, hfresh]
  simp only [bind, Except.bind, hclosed]

/-- A layout in which no possible key is stale drops none. -/
theorem dropStale_eq {s : Layout} (houter : s.outer = [])
    (h : ∀ k ∈ s.possible, stale s.mark k = false) : s.dropStale = .ok s := by
  have hkeep : s.possible.filter (!stale s.mark ·) = s.possible := by
    cases hpossible : s.possible with
    | none => rfl
    | some k => simp [h k hpossible]
  have hnone : (s.possible :: s.outer).any
      (fun k => k.any fun k => stale s.mark k && k.required) = false := by
    cases hpossible : s.possible with
    | none => simp [houter]
    | some k => simp [houter, h k hpossible]
  unfold dropStale
  dsimp only
  rw [hnone, if_neg Bool.false_ne_true, hkeep, houter]
  cases s
  cases houter
  rfl

/-- Where the innermost collection does not start further right, none is
closed. -/
theorem closeTo_eq {s : Layout} {column : Nat}
    (h : ∀ i ∈ s.indents.head?, i ≤ column) :
    s.closeTo (some column) = s := by
  have hclosed : s.indents.takeWhile (fun i => (some column).all (· < i))
      = [] := by
    cases hindents : s.indents with
    | nil => rfl
    | cons i indents =>
      have hi := h i (by simp [hindents])
      simp [hi]
  unfold closeTo
  split
  · rfl
  · dsimp only
    rw [hclosed]
    rfl

-- ============================================================== one line

/-- How many of the open collections start right of a column. -/
def rightOf (column : Nat) (indents : List Nat) : Nat :=
  (indents.takeWhile (column < ·)).length

/-- A collection is opened in front of the words to come, if none is left at
this column. -/
def opened (column : Nat) (left : List Nat) (tokens : List Token) :
    List Nat × List Token :=
  if left.head?.any (column ≤ ·) then (left, tokens)
  else (column :: left, .blockMapping :: tokens)

/-- What the start of a line at a column does to the open collections, given
by their columns, and to the words so far, latest first: collections further
right are closed, and one is opened if none is left at this column. -/
def enter (column : Nat) (indents : List Nat) (tokens : List Token) :
    List Nat × List Token :=
  opened column (indents.drop (rightOf column indents))
    (List.replicate (rightOf column indents) .blockEnd ++ tokens)

theorem head_left_le (column : Nat) (indents : List Nat) :
    ∀ i ∈ (indents.drop (rightOf column indents)).head?, i ≤ column := by
  unfold rightOf
  induction indents with
  | nil => simp
  | cons i indents ih =>
    by_cases hi : column < i
    · simpa [hi] using ih
    · simpa [hi] using Nat.le_of_not_lt hi

/-- Behind that the innermost collection is the one of this column. -/
theorem head_enter (column : Nat) (indents : List Nat) (tokens : List Token) :
    (enter column indents tokens).1.head? = some column := by
  have hleft := head_left_le column indents
  unfold enter opened
  generalize indents.drop _ = left at hleft
  cases left with
  | nil => rfl
  | cons i left =>
    have hi : i ≤ column := hleft i rfl
    by_cases hopen : column ≤ i
    · simp [Nat.le_antisymm hi hopen]
    · simp [hopen]

/-- A place where a key may start, outside flow collections. -/
def start (m : Mark) (rest : List Char) (tokens : List Token)
    (indents : List Nat) : Layout :=
  { mark := m, rest, tokens, indents }

/-- A place behind the colon of a key. -/
def behindKey (m : Mark) (rest : List Char) (tokens : List Token)
    (indents : List Nat) : Layout :=
  { mark := m, rest, tokens, indents, keyAllowed := false }

/-- A scalar where a key may start may be a key of the collection there. -/
theorem scalar_start (m now : Mark) (w : String) (text rest : List Char)
    (freshLine : Bool) (tokens : List Token) (indents : List Nat) :
    scalar .plain ⟨w.toList, now, rest, freshLine⟩
        (start m text tokens indents)
      = .ok { mark := now, rest, tokens := .scalar .plain w :: tokens, indents,
              possible := some ⟨indents.head? = some m.column, m, tokens⟩,
              keyAllowed := freshLine } := by
  have hword :
      scalar .plain ⟨w.toList, now, rest, freshLine⟩
          (start m text tokens indents)
        = .ok { mark := now, rest,
                tokens := .scalar .plain (String.ofList w.toList) :: tokens,
                indents,
                possible := some ⟨indents.head? = some m.column, m, tokens⟩,
                keyAllowed := freshLine } := rfl
  rw [hword, String.ofList_toList]

/-- The colon behind a word puts the sign of a key in front of it, and in front
of that the start of a collection where one is opened. -/
theorem value_of_key (m now : Mark) (key : String) (required : Bool)
    (rest : List Char) (before : List Token) (left : List Nat) :
    value { mark := now, rest := ':' :: rest,
            tokens := .scalar .plain key :: before, indents := left,
            possible := some ⟨required, m, before⟩, keyAllowed := false }
      = .ok (behindKey (now.move 1) rest
          (.value :: .scalar .plain key :: .key
            :: (opened m.column left before).2)
          (opened m.column left before).1) := by
  unfold value opened
  by_cases hleft : left.head?.any (m.column ≤ ·) = true
  · simp [openAt, inFlow, hleft, pure, Except.pure, behindKey, advance, emit]
  · have htake : (before.length + 1 + 1 - before.length) = 2 := by omega
    simp [openAt, inFlow, hleft, htake, pure, Except.pure, behindKey,
      advance, emit]

/-- Once it has skipped, the reader is at `t`. -/
def Ready (s t : Layout) : Prop := s.skip (s.rest.length + 1) = t

section Rounds

variable {s : Layout} {m : Mark} {tokens : List Token} {indents : List Nat}

/-- A key takes two rounds: the word, and the colon that makes it a key. -/
theorem run_key {key : String} (hkey : IsWord key)
    (hlength : key.toList.length ≤ 1024) {rest : List Char}
    (hrest : endsWord rest = true)
    (h : Ready s (start m (key.toList ++ ':' :: rest) tokens indents))
    (n : Nat) :
    run (n + 2) s
      = run n (behindKey (m.move (key.toList.length + 1)) rest
          (.value :: .scalar .plain key :: .key
            :: (enter m.column indents tokens).2)
          (enter m.column indents tokens).1) := by
  let left := indents.drop (rightOf m.column indents)
  let before :=
    List.replicate (rightOf m.column indents) Token.blockEnd ++ tokens
  -- the word may be a key of the collection that is left
  let u : Layout :=
    { mark := m.move key.toList.length, rest := ':' :: rest,
      tokens := .scalar .plain key :: before, indents := left,
      possible := some ⟨left.head? = some m.column, m, before⟩,
      keyAllowed := false }
  have hword : run (n + 2) s = run (n + 1) u := by
    obtain ⟨c, r, hcr, hc⟩ := hkey.cons
    have hnext :
        (start m (key.toList ++ ':' :: rest) before left).next c
            (r ++ ':' :: rest)
          = .ok u := by
      have htext : c :: (r ++ ':' :: rest) = key.toList ++ ':' :: rest := by
        simp [hcr]
      have hplain :=
        plain_key hkey
          (start m (key.toList ++ ':' :: rest) before left).leastColumn m hrest
      rw [next_word hc, htext]
      show (plain false _ m _ >>= _) = _
      rw [hplain]
      exact scalar_start ..
    exact run_next (n + 1) h (dropStale_eq rfl (by simp [start]))
      (by simp [start, hcr]) hnext
  have hcolon :
      run (n + 1) u = run n (behindKey (m.move (key.toList.length + 1)) rest
        (.value :: .scalar .plain key :: .key
          :: (enter m.column indents tokens).2)
        (enter m.column indents tokens).1) := by
    have hsolid : Solid (':' :: rest) := by simp [Solid, isGap, isBreak]
    have hskip : u.skip (u.rest.length + 1) = u :=
      skip_blanks (k := 0) _ rfl hsolid
    have hfresh : u.dropStale = .ok u := by
      refine dropStale_eq rfl fun k hk => ?_
      cases hk
      have hnear : ¬ m.index + 1024 < m.index + key.toList.length := by omega
      simp [stale, u, Mark.move, hnear]
    have hopen : u.closeTo (some u.mark.column) = u :=
      closeTo_eq fun i hi => Nat.le_trans (head_left_le m.column indents i hi)
        (Nat.le_add_right ..)
    refine run_next n hskip hfresh (c := ':') (r := rest) rfl ?_
    rw [hopen, next_colon hrest]
    exact value_of_key m _ key _ rest before left
  rw [hword, hcolon]

/-- A value takes one round, up to the word after it. -/
theorem run_value {value : String} (hvalue : IsWord value) {column k : Nat}
    {cs : List Char} (hcolumn : indents.head? = some column)
    (hm : column ≤ m.column) (hk : k ≤ column) (hcs : AtWord cs) (n : Nat) :
    run (n + 1)
        (behindKey m
          (' ' :: (value.toList ++ '\n' :: (List.replicate k ' ' ++ cs)))
          tokens indents)
      = run n
        (start ((((m.move 1).move value.toList.length).nextLine 1).move k) cs
          (.scalar .plain value :: tokens) indents) := by
  let rest := '\n' :: (List.replicate k ' ' ++ cs)
  let t := behindKey (m.move 1) (value.toList ++ rest) tokens indents
  obtain ⟨c, r, hcr, hc⟩ := hvalue.cons
  have htext : c :: (r ++ rest) = value.toList ++ rest := by simp [hcr]
  have hskip :
      Ready (behindKey m (' ' :: (value.toList ++ rest)) tokens indents) t :=
    skip_blanks (k := 1) _ rfl (solid_of_atWord (hvalue.atWord rest))
  have hopen : t.closeTo (some t.mark.column) = t := by
    refine closeTo_eq fun i hi => ?_
    rw [show t.indents.head? = some column from hcolumn] at hi
    cases hi
    exact Nat.le_trans hm (Nat.le_add_right ..)
  have hleast : t.leastColumn = column + 1 := by
    cases indents with
    | nil => cases hcolumn
    | cons i indents =>
      cases hcolumn
      rfl
  have hplain : plain t.inFlow t.leastColumn t.mark (value.toList ++ rest)
      = .ok ⟨value.toList,
          (((m.move 1).move value.toList.length).nextLine 1).move k, cs,
          true⟩ := by
    rw [hleast]
    exact plain_value hvalue (column + 1) (m.move 1) (Nat.lt_succ_of_le hk) hcs
  refine run_next n hskip (dropStale_eq rfl (by simp [t, behindKey]))
    htext.symm ?_
  rw [hopen, next_word hc, htext, hplain]
  simp [bind, Except.bind, scalar, word, maybeKey, start, emit, pure,
    Except.pure, t, behindKey]

end Rounds

end Layout

-- ============================================================= whole lines

open Layout

/-- A plain line: a key at a column, and its value. Without a value it opens a
section. -/
structure Line where
  column : Nat
  key : String
  value : String := ""

namespace Line

/-- Key and value are words, and the key is no longer than a key may be. -/
structure Plain (l : Line) : Prop where
  key : IsWord l.key
  short : l.key.toList.length ≤ 1024
  value : l.value = "" ∨ IsWord l.value

/-- The line behind its indentation. -/
def content (l : Line) : List Char :=
  l.key.toList ++ ':'
    :: ((if l.value = "" then [] else ' ' :: l.value.toList) ++ ['\n'])

def text (l : Line) : List Char := List.replicate l.column ' ' ++ l.content

/-- The words of a line itself, latest first. -/
def said (l : Line) : List Token :=
  (if l.value = "" then [] else [.scalar .plain l.value])
    ++ [.value, .scalar .plain l.key, .key]

/-- What a line makes of the open collections and of the words so far. -/
def scan (state : List Nat × List Token) (l : Line) : List Nat × List Token :=
  let (indents, tokens) := enter l.column state.1 state.2
  (indents, l.said ++ tokens)

/-- How many rounds it takes to read a line. -/
def rounds (l : Line) : Nat := if l.value = "" then 2 else 3

/-- A line may follow another: behind a value no line is indented further. -/
def Precedes (l next : Line) : Prop := l.value ≠ "" → next.column ≤ l.column

end Line

section Reading

variable {l : Line} (hl : l.Plain) {s : Layout} {m : Mark}
  {state : List Nat × List Token} {k : Nat} {cs : List Char} (hcs : AtWord cs)
  (hm : m.column = l.column)
  (h : Ready s
    (start m (l.content ++ (List.replicate k ' ' ++ cs)) state.2 state.1))
include hl hcs hm h

/-- Reading the line of a section: the break behind the colon is skipped in
front of the next word. -/
theorem run_section (hvalue : l.value = "") :
    ∃ s' m', m'.column = k
      ∧ Ready s' (start m' cs (l.scan state).2 (l.scan state).1)
      ∧ ∀ n, run (n + l.rounds) s = run n s' := by
  have hcontent : l.content ++ (List.replicate k ' ' ++ cs)
      = l.key.toList ++ ':' :: '\n' :: (List.replicate k ' ' ++ cs) := by
    simp [Line.content, hvalue]
  rw [hcontent] at h
  let indents := (enter m.column state.1 state.2).1
  let tokens := (enter m.column state.1 state.2).2
  let tokens' := .value :: .scalar .plain l.key :: .key :: tokens
  have hscan : l.scan state = (indents, tokens') := by
    simp [Line.scan, Line.said, hvalue, hm, indents, tokens', tokens]
  have hrounds : l.rounds = 2 := if_pos hvalue
  rw [hscan, hrounds]
  let colon := m.move (l.key.toList.length + 1)
  refine
    ⟨behindKey colon ('\n' :: (List.replicate k ' ' ++ cs)) tokens' indents,
      (colon.nextLine 1).move k, by simp [Mark.move, Mark.nextLine], ?_, ?_⟩
  · exact skip_break _ rfl rfl (solid_of_atWord hcs)
  · exact run_key hl.key hl.short (endsWord_break _) h

/-- Reading the line of a setting: the scalar that is its value takes in the
break behind it. -/
theorem run_setting (hvalue : l.value ≠ "") (hk : k ≤ l.column) :
    ∃ s' m', m'.column = k
      ∧ Ready s' (start m' cs (l.scan state).2 (l.scan state).1)
      ∧ ∀ n, run (n + l.rounds) s = run n s' := by
  have hword : IsWord l.value := hl.value.resolve_left hvalue
  have hcontent : l.content ++ (List.replicate k ' ' ++ cs)
      = l.key.toList ++ ':' :: ' '
        :: (l.value.toList ++ '\n' :: (List.replicate k ' ' ++ cs)) := by
    simp [Line.content, hvalue]
  rw [hcontent] at h
  let indents := (enter m.column state.1 state.2).1
  let tokens :=
    .value :: .scalar .plain l.key :: .key
      :: (enter m.column state.1 state.2).2
  have hscan : l.scan state = (indents, .scalar .plain l.value :: tokens) := by
    simp [Line.scan, Line.said, hvalue, hm, indents, tokens]
  have hrounds : l.rounds = 3 := if_neg hvalue
  rw [hscan, hrounds]
  let colon := m.move (l.key.toList.length + 1)
  let m' := (((colon.move 1).move l.value.toList.length).nextLine 1).move k
  refine ⟨start m' cs (.scalar .plain l.value :: tokens) indents, m',
    by simp [m', Mark.move, Mark.nextLine], ?_, fun n => ?_⟩
  · exact skip_blanks (k := 0) _ rfl (solid_of_atWord hcs)
  · calc run (n + 3) s
        = run (n + 1) (behindKey colon
            (' ' :: (l.value.toList ++ '\n' :: (List.replicate k ' ' ++ cs)))
            tokens indents) :=
          run_key hl.key hl.short rfl h (n + 1)
      _ = run n (start m' cs (.scalar .plain l.value :: tokens) indents) :=
          run_value hword (head_enter ..) (Nat.le_add_right ..) (hm ▸ hk) hcs n

/-- Reading a line: from its first word to the first word behind it. -/
theorem run_line (hk : l.value ≠ "" → k ≤ l.column) :
    ∃ s' m', m'.column = k
      ∧ Ready s' (start m' cs (l.scan state).2 (l.scan state).1)
      ∧ ∀ n, run (n + l.rounds) s = run n s' := by
  by_cases hvalue : l.value = ""
  · exact run_section hl hcs hm h hvalue
  · exact run_setting hl hcs hm h hvalue (hk hvalue)

end Reading

-- ============================================================ whole texts

section Texts

variable {lines : List Line}

/-- How far the first of some lines is indented. -/
def indentation : List Line → Nat
  | [] => 0
  | l :: _ => l.column

/-- The text of some lines behind the indentation of the first. -/
def body : List Line → List Char
  | [] => []
  | l :: lines =>
    l.content ++ (List.replicate (indentation lines) ' ' ++ body lines)

theorem flatMap_text (lines : List Line) :
    lines.flatMap Line.text
      = List.replicate (indentation lines) ' ' ++ body lines := by
  induction lines with
  | nil => rfl
  | cons l lines ih => simp [ih, Line.text, indentation, body]

theorem atWord_body (h : ∀ l ∈ lines, l.Plain) : AtWord (body lines) := by
  cases lines with
  | nil => exact atWord_nil
  | cons l lines =>
    simp only [body, Line.content, List.append_assoc]
    exact (h l List.mem_cons_self).key.atWord _

/-- The rounds it takes to read some lines. -/
def rounds : List Line → Nat
  | [] => 0
  | l :: lines => l.rounds + rounds lines

/-- A line takes no more rounds of the scanner than it has characters, so the
characters of a text are fuel enough. -/
theorem rounds_le_text {l : Line} (hl : l.Plain) :
    l.rounds ≤ l.text.length := by
  obtain ⟨c, r, hkey, -⟩ := hl.key.cons
  have hlength : l.text.length = l.column + (r.length + 1)
      + (1 + (if l.value = "" then [] else ' ' :: l.value.toList).length
        + 1) := by
    simp only [Line.text, Line.content, hkey, List.length_append,
      List.length_replicate, List.length_cons, List.length_nil]
    omega
  unfold Line.rounds
  rw [hlength]
  by_cases hvalue : l.value = ""
  · rw [if_pos hvalue]
    omega
  · rw [if_neg hvalue, if_neg hvalue, List.length_cons]
    omega

/-- There are no more rounds than characters. -/
theorem rounds_le (h : ∀ l ∈ lines, l.Plain) :
    rounds lines ≤ (lines.flatMap Line.text).length := by
  induction lines with
  | nil => exact Nat.le_refl 0
  | cons l lines ih =>
    have hrest := ih fun l hl => h l (List.mem_cons_of_mem _ hl)
    have hline := rounds_le_text (h l List.mem_cons_self)
    simp only [rounds, List.flatMap_cons, List.length_append]
    omega

/-- The words of a text that ends with these open collections and words. -/
def ended (state : List Nat × List Token) : List Token :=
  state.2.reverse ++ List.replicate state.1.length .blockEnd

theorem finish_start (m : Mark) (rest : List Char)
    (state : List Nat × List Token) :
    (start m rest state.2 state.1).finish = .ok (ended state) := by
  have hall : state.1.takeWhile (fun _ => true) = state.1 :=
    List.takeWhile_eq_self_iff.2 fun _ _ => rfl
  simp [finish, noKey, closeTo, start, inFlow, hall, ended, bind, Except.bind,
    pure, Except.pure]

/-- At the end it does not matter what is closed first. -/
theorem finish_closeTo (m : Mark) (rest : List Char)
    (state : List Nat × List Token) (column : Nat) :
    ((start m rest state.2 state.1).closeTo (some column)).finish
      = .ok (ended state) := by
  have hclosed : rightOf column state.1 ≤ state.1.length :=
    (List.takeWhile_prefix _).length_le
  let left : List Nat × List Token := (state.1.drop (rightOf column state.1),
    List.replicate (rightOf column state.1) .blockEnd ++ state.2)
  have hleft : (start m rest state.2 state.1).closeTo (some column)
      = start m rest left.2 left.1 := rfl
  have hended : ended left = ended state := by
    simp only [left, ended, List.reverse_append, List.reverse_replicate,
      List.length_drop, List.append_assoc, List.replicate_append_replicate,
      Nat.add_sub_cancel' hclosed]
  rw [hleft, finish_start, hended]

/-- Reading some lines: their words, and at the end all that is open is
closed. -/
theorem run_lines (hplain : ∀ l ∈ lines, l.Plain)
    (hchain : lines.IsChain Line.Precedes) {s : Layout} {m : Mark}
    {state : List Nat × List Token} (hm : m.column = indentation lines)
    (h : Ready s (start m (body lines) state.2 state.1)) (n : Nat) :
    run (n + 1 + rounds lines) s
      = .ok (ended (lines.foldl Line.scan state)) := by
  induction lines generalizing s m state with
  | nil =>
    calc run (n + 1) s
        = ((start m [] state.2 state.1).closeTo (some m.column)).finish :=
          run_end n h (dropStale_eq rfl (by simp [start])) rfl
      _ = .ok (ended state) := finish_closeTo m [] state m.column
  | cons l lines ih =>
    have hrest : ∀ l ∈ lines, l.Plain :=
      fun l hl => hplain l (List.mem_cons_of_mem _ hl)
    have hnext : l.value ≠ "" → indentation lines ≤ l.column := by
      intro hvalue
      cases lines with
      | nil => exact Nat.zero_le _
      | cons next lines => exact (List.isChain_cons_cons.1 hchain).1 hvalue
    obtain ⟨s', m', hm', hready, hrun⟩ :=
      run_line (hplain l List.mem_cons_self) (atWord_body hrest) hm h hnext
    calc run (n + 1 + rounds (l :: lines)) s
        = run (n + 1 + rounds lines + l.rounds) s := by
          congr 1
          simp only [rounds]
          omega
      _ = run (n + 1 + rounds lines) s' := hrun _
      _ = .ok (ended (lines.foldl Line.scan (l.scan state))) :=
          ih hrest hchain.tail hm' hready

theorem IsWord.isAllowed {w : String} (h : IsWord w) :
    ∀ c ∈ w.toList, isAllowed c = true :=
  fun c hc => isAllowed_of_isWordChar (h.chars c hc)

/-- Lines of words are printable. -/
theorem isAllowed_text {l : Line} (hl : l.Plain) :
    ∀ c ∈ l.text, isAllowed c = true := by
  intro c hc
  simp only [Line.text, Line.content, List.mem_append, List.mem_cons,
    List.not_mem_nil, or_false] at hc
  rcases hc with hblank | hkey | rfl | hvalue | rfl
  · rw [List.eq_of_mem_replicate hblank]
    decide
  · exact hl.key.isAllowed c hkey
  · decide
  · rcases hl.value with hnone | hword
    · simp [hnone] at hvalue
    · simp only [hword.1, if_false, List.mem_cons] at hvalue
      rcases hvalue with rfl | hvalue
      · decide
      · exact hword.isAllowed c hvalue
  · decide

/-- The words of a text of plain lines. -/
theorem tokens_lines {text : String}
    (htext : text.toList = lines.flatMap Line.text)
    (hplain : ∀ l ∈ lines, l.Plain) (hchain : lines.IsChain Line.Precedes) :
    tokens text = .ok (ended (lines.foldl Line.scan ([], []))) := by
  let opening : List Nat × List Token := ([], [])
  have hready : Ready { rest := text.toList }
      (start (Mark.move {} (indentation lines)) (body lines) opening.2
        opening.1) := by
    have hbody :
        text.toList = List.replicate (indentation lines) ' ' ++ body lines :=
      htext.trans (flatMap_text lines)
    refine (skip_blanks _ hbody (solid_of_atWord (atWord_body hplain))).trans
      ?_
    simp [hbody, advance, start, opening]
  have hcolumn : (Mark.move {} (indentation lines)).column
      = indentation lines :=
    Nat.zero_add _
  have hfuel : text.toList.length + 1
      = (text.toList.length - rounds lines) + 1 + rounds lines := by
    have hle := rounds_le hplain
    rw [← htext] at hle
    omega
  have hallowed : text.toList.all isAllowed = true := by
    rw [htext, List.all_flatMap]
    exact List.all_eq_true.2 fun l hl =>
      List.all_eq_true.2 (isAllowed_text (hplain l hl))
  unfold tokens
  dsimp only
  rw [if_pos hallowed, hfuel, run_lines hplain hchain hcolumn hready]

end Texts

end Fleetkeeper.Yaml
