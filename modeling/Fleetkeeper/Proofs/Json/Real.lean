/-
Binary64 numbers as text. A number is written with the fewest digits that
tell it from its neighbours, and the reader rounds at every step, so whether
its text is read back as the number is a property of each number (`Readable`).

A number that is read back alone is read back inside other text
(`value_real`): its text is a numeral, with a digit in front behind the sign
and no blank anywhere (`magnitude_numeric`), so alone it is read to its end,
and numerals do not depend on what follows.
-/
import Fleetkeeper.Proofs.Json.Numeral
import Mathlib.Tactic.SplitIfs

namespace Fleetkeeper.Binary64

-- =================================================================== shape

/-- Characters of the text of a magnitude. -/
def inNumeral (c : Char) : Bool := c.isDigit || c = '.' || c = 'e' || c = '-'

/-- A digit, and then such characters. -/
def Numeric (cs : List Char) : Prop :=
  ∃ c r, cs = c :: r ∧ c.isDigit = true ∧ ∀ d ∈ r, inNumeral d = true

theorem inNumeral_iff {c : Char} :
    inNumeral c = true ↔ c.isDigit = true ∨ c = '.' ∨ c = 'e' ∨ c = '-' := by
  simp [inNumeral, or_assoc]

theorem inNumeral_of_isDigit {c : Char} (h : c.isDigit = true) :
    inNumeral c = true :=
  inNumeral_iff.2 (.inl h)

theorem inNumeral_digits (n : Nat) :
    ∀ c ∈ Nat.toDigits 10 n, inNumeral c = true :=
  fun _ hc => inNumeral_of_isDigit (Text.isDigit_of_mem_numeral hc)

/-- The point of a whole number. -/
theorem inNumeral_wholePoint : ∀ c ∈ ['.', '0'], inNumeral c = true := by
  simp [inNumeral]

theorem inNumeral_exponentChars (e : Int) :
    ∀ c ∈ exponentChars e, inNumeral c = true := by
  unfold exponentChars
  rw [List.forall_mem_append]
  refine ⟨?_, inNumeral_digits _⟩
  split_ifs
  · simp [inNumeral]
  · exact nofun

theorem Numeric.append {cs xs : List Char} (h : Numeric cs)
    (hxs : ∀ c ∈ xs, inNumeral c = true) : Numeric (cs ++ xs) := by
  obtain ⟨c, r, rfl, hc, hr⟩ := h
  exact ⟨c, r ++ xs, rfl, hc, List.forall_mem_append.2 ⟨hr, hxs⟩⟩

theorem numeric_digits {ds : List Char} (hsome : ds ≠ [])
    (h : ∀ c ∈ ds, c.isDigit = true) :
    Numeric ds := by
  obtain ⟨d, ds, rfl⟩ := List.exists_cons_of_ne_nil hsome
  rw [List.forall_mem_cons] at h
  exact ⟨d, ds, rfl, h.1, fun c hc => inNumeral_of_isDigit (h.2 c hc)⟩

/-- Wherever the point goes, a digit is in front. -/
theorem placed_numeric {ds : List Char} (k : Int) (hsome : ds ≠ [])
    (h : ∀ c ∈ ds, c.isDigit = true) : Numeric (placed ds k) := by
  have hzeros : ∀ n, ∀ c ∈ List.replicate n '0', inNumeral c = true :=
    fun n c hc => List.eq_of_mem_replicate hc ▸ rfl
  have htake : ∀ {n : Nat}, 0 < n → Numeric (ds.take n) := by
    intro n hn
    have hlength := List.length_pos_iff.2 hsome
    refine numeric_digits ?_ fun c hc => h c (List.mem_of_mem_take hc)
    rw [← List.length_pos_iff, List.length_take]
    omega
  have hdrop : ∀ n, ∀ c ∈ ds.drop n, inNumeral c = true := fun n c hc =>
    inNumeral_of_isDigit (h c (List.mem_of_mem_drop hc))
  have hexponent : ∀ e, ∀ c ∈ 'e' :: exponentChars e, inNumeral c = true :=
    fun e => List.forall_mem_cons.2 ⟨rfl, inNumeral_exponentChars e⟩
  unfold placed
  dsimp only
  split_ifs with hwhole hinside hbefore hone
  · exact ((numeric_digits hsome h).append (hzeros _)).append
      inNumeral_wholePoint
  · refine (htake (by omega)).append (List.forall_mem_cons.2 ⟨rfl, hdrop _⟩)
  · refine ⟨'0', _, rfl, rfl,
      List.forall_mem_cons.2 ⟨rfl, List.forall_mem_append.2 ⟨hzeros _, ?_⟩⟩⟩
    exact fun c hc => inNumeral_of_isDigit (h c hc)
  · exact (numeric_digits hsome h).append (hexponent _)
  · exact (htake Nat.one_pos).append
      (List.forall_mem_cons.2
        ⟨rfl, List.forall_mem_append.2 ⟨hdrop _, hexponent _⟩⟩)

theorem magnitude_numeric (units : Nat) : Numeric (magnitude units) := by
  unfold magnitude
  split_ifs
  · exact ⟨'0', ['.', '0'], rfl, rfl, inNumeral_wholePoint⟩
  · exact placed_numeric _ Nat.toDigits_ne_nil fun _ =>
      Text.isDigit_of_mem_numeral

/-- The text of a number is read back as this number. -/
def Readable (x : Binary64) : Prop := Json.parse x.toText = some (.real x)

/-- The number that its text is read back as, if it is read back as one. -/
def readBack? (x : Binary64) : Option Binary64 :=
  match Json.parse x.toText with
  | some (.real y) => some y
  | _ => none

/-- Reading back what is written is the question that `Readable` asks. -/
theorem readBack?_eq_some_iff (x : Binary64) :
    x.readBack? = some x ↔ x.Readable := by
  unfold readBack? Readable
  constructor
  · intro h
    split at h
    · rename_i y hy
      rw [hy, Option.some.inj h]
    · cases h
  · intro h
    rw [h]

instance (x : Binary64) : Decidable x.Readable :=
  decidable_of_iff (x.readBack? = some x) (readBack?_eq_some_iff x)

/-- The characters of a number. -/
def chars (x : Binary64) : List Char :=
  (if x.negative then ['-'] else []) ++ magnitude x.units

theorem toList_toText (x : Binary64) : x.toText.toList = x.chars :=
  String.toList_ofList

theorem isBlank_of_inNumeral {c : Char} (h : inNumeral c = true) :
    Json.isBlank c = false := by
  rcases inNumeral_iff.1 h with hdigit | rfl | rfl | rfl
  · exact Json.isBlank_of_isDigit hdigit
  · rfl
  · rfl
  · rfl

theorem inNumeral_magnitude (units : Nat) :
    ∀ c ∈ magnitude units, inNumeral c = true := by
  obtain ⟨c, r, hmagnitude, hc, hr⟩ := magnitude_numeric units
  rw [hmagnitude]
  exact List.forall_mem_cons.2 ⟨inNumeral_of_isDigit hc, hr⟩

end Fleetkeeper.Binary64

namespace Fleetkeeper.Json

-- ================================================================= reading

open Binary64 (magnitude)

/-- Behind its sign a number is a numeral. -/
theorem value_chars (n : Nat) (x : Binary64) (rest : List Char) :
    value (n + 1) (x.chars ++ rest)
      = numeral x.negative (magnitude x.units ++ rest) := by
  obtain ⟨c, r, hmagnitude, hc, -⟩ := Binary64.magnitude_numeric x.units
  unfold Binary64.chars
  rw [hmagnitude]
  cases x.negative with
  | false => exact value_of_isDigit hc n (r ++ rest)
  | true =>
    rw [value]
    simp [skipBlank_cons (show isBlank '-' = false from rfl)]

/-- A number that is read back takes up all of its text. -/
theorem numeral_of_readable {x : Binary64} (h : x.Readable) :
    numeral x.negative (magnitude x.units) = some (real x, []) := by
  unfold Binary64.Readable parse at h
  have hvalue := value_chars x.chars.length x []
  rw [List.append_nil, List.append_nil] at hvalue
  rw [Binary64.toList_toText] at h
  dsimp only at h
  rw [hvalue] at h
  cases hread : numeral x.negative (magnitude x.units) with
  | none =>
    rw [hread] at h
    cases h
  | some p =>
    obtain ⟨j, r⟩ := p
    rw [hread] at h
    dsimp only at h
    have hsuffix := (numeral_local _ hread).1
    have hblank : skipBlank r = r := by
      cases r with
      | nil => rfl
      | cons c r =>
        have hc :=
          Binary64.inNumeral_magnitude x.units c
            (hsuffix.subset List.mem_cons_self)
        exact skipBlank_cons (Binary64.isBlank_of_inNumeral hc) r
    rw [hblank] at h
    split_ifs at h with hr
    rw [Option.some.inj h, hr]

/-- A number that is read back is read back in front of anything that does not
go on with it. -/
theorem value_real (n : Nat) {x : Binary64} (h : x.Readable) {rest : List Char}
    (hrest : Ends rest) :
    value (n + 1) (x.toText.toList ++ rest) = some (real x, rest) := by
  rw [Binary64.toList_toText, value_chars]
  exact (numeral_local _ (numeral_of_readable h)).2 rest hrest

end Fleetkeeper.Json
