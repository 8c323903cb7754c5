/-
Numerals of values. A whole number is written as its digits, and these are
read back, as long as what follows them does not go on with the numeral
(`Ends`).

Nor does a numeral with a fraction or an exponent depend on what follows it:
the reader of numerals takes a piece from the front and looks at no more than
the one character behind it. This is a law of the reader, for every numeral
(`numeral_local`), put together piece by piece: digits and what is made of
them (`afterDigits`), a mark and what is read behind it (`onMark`).
-/
import Fleetkeeper.Json.Reader
import Fleetkeeper.Proofs.Text.Numeral
import Mathlib.Data.List.TakeWhile

namespace Fleetkeeper.Json

/-- Characters that a numeral goes on with. -/
def goesOn (c : Char) : Bool := c.isDigit || c = '.' || c = 'e' || c = 'E'

/-- What follows a numeral and is none of it. -/
def Ends (rest : List Char) : Prop := ∀ c ∈ rest.head?, goesOn c = false

theorem ends_nil : Ends [] := nofun

theorem ends_cons {c : Char} (rest : List Char) (h : goesOn c = false) :
    Ends (c :: rest) := by
  intro d hd
  cases hd
  exact h

-- ================================================================== blanks

theorem skipBlank_cons {c : Char} (h : isBlank c = false) (rest : List Char) :
    skipBlank (c :: rest) = c :: rest := by
  simp [skipBlank, h]

theorem ne_of_isDigit {c d : Char} (h : c.isDigit = true)
    (hd : d.isDigit = false) : c ≠ d := by
  rintro rfl
  rw [h] at hd
  cases hd

theorem isBlank_of_isDigit {c : Char} (h : c.isDigit = true) :
    isBlank c = false := by
  simp (disch := decide) [isBlank, ne_of_isDigit h]

/-- What starts with a digit is a numeral. -/
theorem value_of_isDigit {c : Char} (h : c.isDigit = true) (n : Nat)
    (r : List Char) :
    value (n + 1) (c :: r) = numeral false (c :: r) := by
  have hother : ∀ d : Char, d.isDigit = false → c ≠ d :=
    fun d => ne_of_isDigit h
  rw [value, skipBlank_cons (isBlank_of_isDigit h)]
  simp [hother '{' rfl, hother '[' rfl, hother '"' rfl, hother 't' rfl,
    hother 'f' rfl, hother 'n' rfl, hother '-' rfl]

-- =========================================================== whole numbers

/-- Digits only make a number larger. -/
theorem le_ofDigitChars (ds : List Char) (start : Nat) :
    start ≤ Nat.ofDigitChars 10 ds start := by
  induction ds generalizing start with
  | nil => exact Nat.le_refl _
  | cons c ds ih =>
    rw [Nat.ofDigitChars_cons]
    have hrest := ih (10 * start + (c.toNat - '0'.toNat))
    omega

/-- Digits of a number of 64 bits are all taken. -/
theorem significand_eq (ds : List Char) (value taken : Nat)
    (h : Nat.ofDigitChars 10 ds value ≤ maxU64) :
    ds.foldl (fun s c => s.push (digitValue c))
        (⟨value, 0, taken⟩ : Significand)
      = ⟨Nat.ofDigitChars 10 ds value, 0, taken + ds.length⟩ := by
  induction ds generalizing value taken with
  | nil => rfl
  | cons c ds ih =>
    rw [Nat.ofDigitChars_cons] at h ⊢
    have hle := le_ofDigitChars ds (10 * value + (c.toNat - '0'.toNat))
    have hpush : (⟨value, 0, taken⟩ : Significand).push (digitValue c)
        = ⟨10 * value + (c.toNat - '0'.toNat), 0, taken + 1⟩ := by
      have hfits : value * 10 + (c.toNat - 48) ≤ maxU64 := by
        have hle' : 10 * value + (c.toNat - 48) ≤ _ := hle
        omega
      simp [Significand.push, digitValue, hfits, Nat.mul_comm]
    rw [List.foldl_cons, hpush, ih _ _ h, List.length_cons]
    congr 1
    omega

theorem significand_numeral {n : Nat} (h : n ≤ maxU64) :
    significand 0 (Nat.toDigits 10 n)
      = ⟨n, 0, (Nat.toDigits 10 n).length⟩ := by
  have hvalue := @Nat.ofDigitChars_ten_toDigits n
  have heq := significand_eq (Nat.toDigits 10 n) 0 0 (hvalue.symm ▸ h)
  rw [hvalue, Nat.zero_add] at heq
  exact heq

/-- What follows a numeral starts with no digit. -/
theorem takeDigits_ends {rest : List Char} (h : Ends rest) :
    takeDigits rest = ([], rest) := by
  cases rest with
  | nil => rfl
  | cons c rest =>
    have hc : goesOn c = false := h c rfl
    simp only [goesOn, Bool.or_eq_false_iff] at hc
    simp [takeDigits, hc.1.1.1]

/-- Digits end where a text does that may be followed by anything but more of
its numeral. -/
theorem takeDigits_append (cs : List Char) {rest : List Char} (h : Ends rest) :
    takeDigits (cs ++ rest)
      = ((takeDigits cs).1, (takeDigits cs).2 ++ rest) := by
  induction cs with
  | nil => exact takeDigits_ends h
  | cons c cs ih =>
    unfold takeDigits at ih ⊢
    by_cases hc : c.isDigit = true
    · simpa [hc] using ih
    · simp [hc]

/-- The digits of a number, and no more. -/
theorem takeDigits_numeral (n : Nat) {rest : List Char} (h : Ends rest) :
    takeDigits (Nat.toDigits 10 n ++ rest) = (Nat.toDigits 10 n, rest) := by
  have hdigits : ∀ c ∈ Nat.toDigits 10 n, c.isDigit = true :=
    fun c => Text.isDigit_of_mem_numeral
  have htaken : takeDigits (Nat.toDigits 10 n) = (Nat.toDigits 10 n, []) :=
    Prod.ext (List.takeWhile_eq_self_iff.2 hdigits)
      (List.dropWhile_eq_nil_iff.2 hdigits)
  rw [takeDigits_append _ h, htaken, List.nil_append]

/-- A numeral without a fraction or exponent. -/
theorem numeral_digits (negative : Bool) (n : Nat) {rest : List Char}
    (h : Ends rest) :
    numeral negative (Nat.toDigits 10 n ++ rest)
      = some (wholeOf negative (Nat.toDigits 10 n), rest) := by
  have hzero :
      ¬((Nat.toDigits 10 n).head? = some '0'
          ∧ (Nat.toDigits 10 n).length ≠ 1) := by
    rintro ⟨hhead, hlength⟩
    obtain ⟨ds, hds⟩ := List.head?_eq_some_iff.1 hhead
    rw [hds, Text.numeral_of_zero hds] at hlength
    exact hlength rfl
  have hsome : Nat.toDigits 10 n ≠ [] := Nat.toDigits_ne_nil
  unfold numeral
  rw [takeDigits_numeral n h]
  generalize Nat.toDigits 10 n = ds at hzero hsome
  cases ds with
  | nil => exact absurd rfl hsome
  | cons d ds =>
    dsimp only
    rw [if_neg hzero]
    cases rest with
    | nil => rfl
    | cons c rest =>
      have hc : goesOn c = false := h c rfl
      simp only [goesOn, Bool.or_eq_false_iff, decide_eq_false_iff_not] at hc
      simp [hc]

theorem wholeOf_numeral {n : Nat} (h : n ≤ maxU64) :
    wholeOf false (Nat.toDigits 10 n) = int n := by
  simp [wholeOf, significand_numeral h]

theorem wholeOf_negative {n : Nat} (hpos : 0 < n)
    (h : n ≤ 9223372036854775808) :
    wholeOf true (Nat.toDigits 10 n) = int (-(n : Int)) := by
  have hzero : n ≠ 0 := by omega
  have hsmall : ¬ 9223372036854775808 < n := by omega
  have hmax : n ≤ maxU64 := by
    unfold maxU64
    omega
  simp [wholeOf, significand_numeral hmax, hzero, hsmall]

-- ================================================================ locality

section Locality

variable {β γ : Type}

/-- What is read is the front of a text, and what goes on behind the text is
not looked at. -/
def Local (read : List Char → Option (β × List Char)) : Prop :=
  ∀ ⦃cs : List Char⦄ ⦃b : β⦄ ⦃r : List Char⦄, read cs = some (b, r) →
    r <:+ cs ∧ ∀ rest, Ends rest → read (cs ++ rest) = some (b, r ++ rest)

theorem local_some (b : β) : Local fun cs => some (b, cs) := by
  rintro cs b r ⟨⟩
  exact ⟨List.suffix_rfl, fun _ _ => rfl⟩

/-- What is made of the value changes nothing about where reading ends. -/
theorem Local.map {read : List Char → Option (β × List Char)} (h : Local read)
    (f : β → γ) :
    Local fun cs => (read cs).map fun p => (f p.1, p.2) := by
  intro cs c r hmap
  obtain ⟨⟨b, r⟩, hread, hc⟩ := Option.map_eq_some_iff.1 hmap
  cases hc
  obtain ⟨hsuffix, hgoes⟩ := h hread
  refine ⟨hsuffix, fun rest hrest => ?_⟩
  dsimp only
  rw [hgoes rest hrest]
  rfl

/-- Digits, at least one, and what `next` makes of them and the rest. -/
def afterDigits (next : List Char → List Char → Option (β × List Char))
    (cs : List Char) :
    Option (β × List Char) :=
  match takeDigits cs with
  | ([], _) => none
  | (ds, r) => next ds r

/-- Digits come to an end where the first other character stands, so a reader
that goes on behind them is as local as what it goes on with. -/
theorem Local.afterDigits {next : List Char → List Char →
      Option (β × List Char)}
    (h : ∀ ds, Local (next ds)) : Local (afterDigits next) := by
  intro cs b r hread
  have hsuffix : (takeDigits cs).2 <:+ cs := List.dropWhile_suffix _
  have hdigits : ∀ rest, Ends rest → takeDigits (cs ++ rest) = _ := fun rest =>
    takeDigits_append cs
  unfold Json.afterDigits at hread ⊢
  generalize takeDigits cs = taken at hread hsuffix hdigits
  obtain ⟨_ | ⟨d, ds⟩, left⟩ := taken
  · cases hread
  · obtain ⟨hleft, hgoes⟩ := h (d :: ds) hread
    refine ⟨hleft.trans hsuffix, fun rest hrest => ?_⟩
    rw [hdigits rest hrest]
    exact hgoes rest hrest

/-- What `next` reads behind a character of a kind, or else `other`. -/
def onMark (kind : Char → Bool)
    (next other : List Char → Option (β × List Char)) :
    List Char → Option (β × List Char)
  | [] => other []
  | c :: r => if kind c then next r else other (c :: r)

/-- Nothing that may follow a text is taken for the mark. -/
theorem Local.onMark {kind : Char → Bool}
    {next other : List Char → Option (β × List Char)}
    (hkind : ∀ c, kind c = true → goesOn c = true) (hnext : Local next)
    (hother : Local other) :
    Local (onMark kind next other) := by
  have hends :
      ∀ rest, Ends rest → Json.onMark kind next other rest = other rest := by
    intro rest hrest
    cases rest with
    | nil => rfl
    | cons c rest =>
      have hc : kind c ≠ true :=
        fun hc => absurd (hkind c hc) (by simp [hrest c rfl])
      exact if_neg hc
  intro cs b r hread
  cases cs with
  | nil =>
    obtain ⟨hsuffix, hgoes⟩ := hother hread
    refine ⟨hsuffix, fun rest hrest => ?_⟩
    rw [List.nil_append, hends rest hrest]
    exact hgoes rest hrest
  | cons c cs =>
    unfold Json.onMark at hread ⊢
    dsimp only [List.cons_append] at hread ⊢
    by_cases hc : kind c = true
    · simp only [if_pos hc] at hread ⊢
      obtain ⟨hsuffix, hgoes⟩ := hnext hread
      exact ⟨hsuffix.trans (List.suffix_cons _ _), hgoes⟩
    · simp only [if_neg hc] at hread ⊢
      exact hother hread

end Locality

/-- The sign needs no such care: without digits behind it there is no
exponent. -/
theorem exponentPart_local : Local exponentPart := by
  have hsigned :
      ∀ down : Bool, Local (afterDigits fun ds r => some ((down, ds), r)) :=
    fun down => .afterDigits fun ds => local_some (down, ds)
  intro cs b r h
  cases cs with
  | nil => cases h
  | cons c cs =>
    by_cases hminus : c = '-'
    · subst hminus
      obtain ⟨hsuffix, hgoes⟩ := hsigned true h
      exact ⟨hsuffix.trans (List.suffix_cons _ _), hgoes⟩
    · by_cases hplus : c = '+'
      · subst hplus
        obtain ⟨hsuffix, hgoes⟩ := hsigned false h
        exact ⟨hsuffix.trans (List.suffix_cons _ _), hgoes⟩
      · have heq : ∀ cs, exponentPart (c :: cs)
            = afterDigits (fun ds r => some ((false, ds), r)) (c :: cs) := by
          intro cs
          simp [exponentPart, hminus, hplus]
          rfl
        rw [heq] at h
        simp only [List.cons_append, heq]
        exact hsigned false h

/-- The end of a numeral: an exponent, or else `plain`. -/
def scaling (negative : Bool) (ds fs : List Char) (plain : Json) :
    List Char → Option (Json × List Char) :=
  onMark (fun c => c = 'e' || c = 'E')
    (fun r => (exponentPart r).map fun p =>
      (realOf negative ds fs (some p.1), p.2))
    fun r => some (plain, r)

/-- An exponent, or none, is read from its own characters. -/
theorem scaling_local (negative : Bool) (ds fs : List Char) (plain : Json) :
    Local (scaling negative ds fs plain) := by
  refine .onMark (fun c hc => ?_)
    (exponentPart_local.map fun e => realOf negative ds fs (some e))
    (local_some plain)
  rcases Bool.or_eq_true_iff.1 hc with he | hE
  · rw [of_decide_eq_true he]
    rfl
  · rw [of_decide_eq_true hE]
    rfl

/-- What follows the digits in front. -/
def behindDigits (negative : Bool) (ds : List Char) :
    List Char → Option (Json × List Char) :=
  onMark (· = '.')
    (afterDigits fun fs => scaling negative ds fs (realOf negative ds fs none))
    (scaling negative ds [] (wholeOf negative ds))

/-- It is the match over the letter that the reader makes. -/
theorem scaling_eq (negative : Bool) (ds fs : List Char) (plain : Json)
    (cs : List Char) :
    scaling negative ds fs plain cs
      = match cs with
        | 'e' :: r | 'E' :: r =>
          (exponentPart r).map fun (e, r) =>
            (realOf negative ds fs (some e), r)
        | r => some (plain, r) := by
  split
  · rfl
  · rfl
  · rename_i hlower hupper
    cases cs with
    | nil => rfl
    | cons c cs =>
      have he : c ≠ 'e' := fun h => hlower cs (h ▸ rfl)
      have hE : c ≠ 'E' := fun h => hupper cs (h ▸ rfl)
      simp [scaling, onMark, he, hE]

/-- What follows the digits in front, as `numeral` has it. What is done with an
exponent stands there twice, behind a point and without one; `behindDigits` has
it once, and is put together from readers that are local. -/
theorem behindDigits_eq (negative : Bool) (ds cs : List Char) :
    behindDigits negative ds cs
      = match cs with
        | '.' :: r =>
          match takeDigits r with
          | ([], _) => none
          | (fs, r) =>
            match r with
            | 'e' :: r | 'E' :: r =>
              (exponentPart r).map fun (e, r) =>
                (realOf negative ds fs (some e), r)
            | r => some (realOf negative ds fs none, r)
        | 'e' :: r | 'E' :: r =>
          (exponentPart r).map fun (e, r) =>
            (realOf negative ds [] (some e), r)
        | r => some (wholeOf negative ds, r) := by
  split
  · rename_i r
    show afterDigits _ r = _
    unfold afterDigits
    generalize takeDigits r = taken
    obtain ⟨_ | ⟨f, fs⟩, left⟩ := taken
    · rfl
    · exact scaling_eq ..
  · rfl
  · rfl
  · rename_i hpoint hlower hupper
    cases cs with
    | nil => rfl
    | cons c cs =>
      have hp : c ≠ '.' := fun h => hpoint cs (h ▸ rfl)
      have he : c ≠ 'e' := fun h => hlower cs (h ▸ rfl)
      have hE : c ≠ 'E' := fun h => hupper cs (h ▸ rfl)
      simp [behindDigits, scaling, onMark, hp, he, hE]

theorem numeral_eq (negative : Bool) (cs : List Char) :
    numeral negative cs = afterDigits (fun ds r =>
      if ds.head? = some '0'
        ∧ ds.length ≠ 1 then none else behindDigits negative ds r) cs := by
  unfold numeral afterDigits
  generalize takeDigits cs = taken
  obtain ⟨_ | ⟨d, ds⟩, left⟩ := taken
  · rfl
  · exact ite_congr rfl (fun _ => rfl) fun _ => (behindDigits_eq ..).symm

/-- A numeral is read in the same way whatever follows it. -/
theorem numeral_local (negative : Bool) : Local (numeral negative) := by
  have hbehind : ∀ ds, Local (behindDigits negative ds) := fun ds =>
    .onMark (fun c hc => by rw [of_decide_eq_true hc]; rfl)
      (.afterDigits fun fs => scaling_local ..) (scaling_local ..)
  have hnone : Local fun _ : List Char => (none : Option (Json × List Char)) :=
    nofun
  have heq : numeral negative = afterDigits _ := funext (numeral_eq negative)
  rw [heq]
  refine .afterDigits fun ds => ?_
  split
  · exact hnone
  · exact hbehind ds

end Fleetkeeper.Json
