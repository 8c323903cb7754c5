/-
One value per line. A written value holds no control character, hence no line
break, whatever texts stand in it (`printable_write`): the writer puts no blank
between its parts, and inside quotes it escapes what it has to.

An object starts and ends with its braces, so a line with nothing but an object
is not blank, and trimming takes nothing off it (`trimChars_obj`).
-/
import Fleetkeeper.Proofs.Json.Text
import Fleetkeeper.Text.Blank

namespace Fleetkeeper.Json

/-- Characters without a control character. -/
def Printable (cs : List Char) : Prop := ∀ c ∈ cs, 32 ≤ c.toNat

instance (cs : List Char) : Decidable (Printable cs) := List.decidableBAll _ cs

theorem Printable.append {xs ys : List Char} (hxs : Printable xs)
    (hys : Printable ys) :
    Printable (xs ++ ys) :=
  List.forall_mem_append.2 ⟨hxs, hys⟩

theorem Printable.cons {c : Char} {cs : List Char} (hc : 32 ≤ c.toNat)
    (hcs : Printable cs) :
    Printable (c :: cs) :=
  List.forall_mem_cons.2 ⟨hc, hcs⟩

-- ================================================================== scalars

theorem printable_of_isDigit {cs : List Char}
    (h : ∀ c ∈ cs, c.isDigit = true) :
    Printable cs := by
  intro c hc
  have hrange := Text.toNat_of_isDigit (h c hc)
  omega

theorem printable_numeral (n : Nat) : Printable (Nat.toDigits 10 n) :=
  printable_of_isDigit fun _ => Text.isDigit_of_mem_numeral

theorem printable_digits (i : Int) : Printable (digits i) := by
  cases i with
  | ofNat n =>
    rw [digits_ofNat]
    exact printable_numeral n
  | negSucc n =>
    rw [digits_negSucc]
    exact (printable_numeral (n + 1)).cons (by decide)

/-- A number is written without breaks: digits, a point, an exponent and
signs. -/
theorem printable_toText (x : Binary64) : Printable x.toText.toList := by
  have hmagnitude : Printable (Binary64.magnitude x.units) := by
    intro c hc
    have hnumeral := Binary64.inNumeral_magnitude x.units c hc
    rcases Binary64.inNumeral_iff.1 hnumeral with hdigit | rfl | rfl | rfl
    · have hrange := Text.toNat_of_isDigit hdigit
      omega
    · decide
    · decide
    · decide
  rw [Binary64.toList_toText]
  unfold Binary64.chars
  cases x.negative with
  | false => exact hmagnitude
  | true => exact hmagnitude.cons (by decide)

/-- Inside quotes a control character is escaped. -/
theorem printable_escape (c : Char) : Printable (escape c) := by
  have hhex : ∀ n < 16, 32 ≤ (hexDigit n).toNat := by decide
  unfold escape
  split_ifs with _ _ _ _ _ _ _ hcontrol
  all_goals try decide
  · have hhigh := hhex (c.toNat / 16) (by omega)
    have hlow := hhex (c.toNat % 16) (by omega)
    simp [Printable, hhigh, hlow]
  · exact List.forall_mem_singleton.2 (Nat.le_of_not_lt hcontrol)

theorem printable_quote (s : String) : Printable (quote s) := by
  have hescaped : Printable (s.toList.flatMap escape) := fun d hd => by
    obtain ⟨c, -, hc⟩ := List.mem_flatMap.1 hd
    exact printable_escape c d hc
  exact (hescaped.append (by decide)).cons (by decide)

-- =================================================================== values

mutual

/-- Whatever is written as text has no break in it, by induction on the value.
Texts are the one place where a break could stand, and there it is escaped. -/
theorem printable_write : ∀ j : Json, Printable (write j)
  | .null => by decide
  | .bool true => by decide
  | .bool false => by decide
  | .int i => printable_digits i
  | .real x => printable_toText x
  | .str s => printable_quote s
  | .arr items => (printable_writeItems items).cons (by decide)
  | .obj members => (printable_writeMembers members).cons (by decide)
  | .unreadable => by decide

theorem printable_writeItems :
    ∀ items : List Json, Printable (writeItems items)
  | [] => by decide
  | [x] => (printable_write x).append (by decide)
  | x :: y :: rest =>
    (printable_write x).append
      ((printable_writeItems (y :: rest)).cons (by decide))

theorem printable_writeMembers :
    ∀ members : List (String × Json), Printable (writeMembers members)
  | [] => by decide
  | [(k, v)] =>
    (printable_quote k).append
      (((printable_write v).append (by decide)).cons (by decide))
  | (k, v) :: m :: rest =>
    (printable_quote k).append (((printable_write v).append
      ((printable_writeMembers (m :: rest)).cons (by decide))).cons
        (by decide))

end

/-- A written value has no line break. -/
theorem lineBreak_notMem_render (j : Json) : '\n' ∉ j.render.toList := by
  rw [toList_render]
  intro h
  exact absurd (printable_write j _ h) (by decide)

-- ================================================================== objects

/-- The members of an object end with its bracket. -/
theorem writeMembers_concat : ∀ members : List (String × Json),
    ∃ inner, writeMembers members = inner ++ ['}']
  | [] => ⟨[], rfl⟩
  | [(k, v)] => by
    refine ⟨quote k ++ ':' :: write v, ?_⟩
    rw [writeMembers, List.append_assoc, List.cons_append]
  | (k, v) :: m :: rest => by
    obtain ⟨inner, hinner⟩ := writeMembers_concat (m :: rest)
    refine ⟨quote k ++ ':' :: (write v ++ ',' :: inner), ?_⟩
    rw [writeMembers, hinner]
    simp only [List.append_assoc, List.cons_append]

/-- Nothing is taken off an object. -/
theorem trimChars_obj (members : List (String × Json)) :
    Text.trimChars (write (.obj members)) = write (.obj members) := by
  obtain ⟨inner, hinner⟩ := writeMembers_concat members
  have hopen : Text.isBlank '{' = false := by decide
  have hclose : Text.isBlank '}' = false := by decide
  have hwrite : write (.obj members) = '{' :: (inner ++ ['}']) := by
    rw [← hinner, write]
  rw [hwrite]
  simp [Text.trimChars, Text.dropBlank, hopen, hclose]

end Fleetkeeper.Json
