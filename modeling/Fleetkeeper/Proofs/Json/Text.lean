/-
Values as text and back. What the writer puts into a text the reader finds
there, wherever the text goes on: a text is read up to its closing quote, an
array or object up to its bracket, and a number as far as its characters go,
so behind a number there may be no more of a numeral (`Ends`).

The reader spends fuel where it descends and where it goes on to the next
member, and each time it has passed a character; so a text is fuel enough for
itself. The law is one induction on fuel over values, items and members
together (`ReadsBack`).

Nothing is lost that is `Lossless`: whole numbers beyond 64 bits are read as
binary64 numbers, and of these some are not read back.
-/
import Fleetkeeper.Json.Writer
import Fleetkeeper.Proofs.Json.Codec
import Fleetkeeper.Proofs.Json.Real
import Mathlib.Tactic.SplitIfs

namespace Fleetkeeper.Json

/-- Values whose whole numbers fit 64 bits and whose binary64 numbers are read
back. -/
inductive Lossless : Json → Prop where
  | null : Lossless null
  | bool (b : Bool) : Lossless (bool b)
  | int {i : Int} (hlow : -9223372036854775808 ≤ i)
      (hhigh : i ≤ 18446744073709551615) :
    Lossless (int i)
  | real {x : Binary64} (h : x.Readable) : Lossless (real x)
  | str (s : String) : Lossless (str s)
  | arr {items : List Json} (h : ∀ x ∈ items, Lossless x) :
      Lossless (arr items)
  | obj {members : List (String × Json)} (h : ∀ m ∈ members, Lossless m.2) :
    Lossless (obj members)

theorem lossless_ofList {α : Type} {f : α → Json} {l : List α}
    (h : ∀ a ∈ l, Lossless (f a)) :
    Lossless (ofList f l) :=
  .arr (List.forall_mem_map.2 h)

theorem lossless_ofTable {α : Type} {f : α → Json} {t : Table α}
    (h : ∀ e ∈ t.entries, Lossless (f e.2)) : Lossless (ofTable f t) :=
  .obj (List.forall_mem_map.2 h)

theorem lossless_ofOption {α : Type} {f : α → Json} {o : Option α}
    (h : ∀ a, o = some a → Lossless (f a)) : Lossless (ofOption f o) := by
  cases o with
  | none => exact .null
  | some a => exact h a rfl

theorem lossless_i64 {i : Int} (h : Signed64 i) : Lossless (int i) :=
  .int h.1 (Int.le_trans h.2 (by decide))

theorem lossless_u64 {n : Nat} (h : Unsigned64 n) : Lossless (ofNat n) :=
  .int (Int.le_trans (by decide) (Int.natCast_nonneg n)) (Int.ofNat_le.2 h)

theorem lossless_ofText? (o : Option String) : Lossless (ofText? o) := by
  rw [ofText?_eq]
  exact lossless_ofOption fun s _ => .str s

theorem lossless_texts (l : List String) : Lossless (ofList .str l) :=
  lossless_ofList fun s _ => .str s

-- =================================================================== texts

theorem hexValue?_hexDigit :
    ∀ n < 16, Text.hexValue? (hexDigit n) = some n := by
  decide

theorem hex4?_hexDigit {n : Nat} (h : n < 256) (rest : List Char) :
    hex4? ('0' :: '0' :: hexDigit (n / 16) :: hexDigit (n % 16) :: rest)
      = some (n, rest) := by
  have hzero : Text.hexValue? '0' = some 0 := rfl
  have hhigh := hexValue?_hexDigit (n / 16) (by omega)
  have hlow := hexValue?_hexDigit (n % 16) (by omega)
  have hsum : ((0 * 16 + 0) * 16 + n / 16) * 16 + n % 16 = n := by omega
  simp only [hex4?, hzero, hhigh, hlow, bind, Option.bind, pure, hsum]

/-- One round reads one character, escaped or not. -/
theorem textBody_escape (n : Nat) (acc : List Char) (c : Char)
    (rest : List Char) :
    textBody (n + 1) (some acc) (escape c ++ rest)
      = textBody n (some (c :: acc)) rest := by
  have hnumber : ∀ k, c.toNat = k → c = Char.ofNat k := fun k hk =>
    hk ▸ (Char.ofNat_toNat c).symm
  unfold escape
  split_ifs with hquote hslash hbreak hreturn htab hback hfeed hcontrol
  · subst hquote; rfl
  · subst hslash; rfl
  · subst hbreak; rfl
  · subst hreturn; rfl
  · subst htab; rfl
  · rw [hnumber 8 hback]; rfl
  · rw [hnumber 12 hfeed]; rfl
  · have hhex := hex4?_hexDigit (n := c.toNat) (by omega) rest
    have hnoHigh : ¬(0xD800 ≤ c.toNat ∧ c.toNat ≤ 0xDBFF) := by omega
    have hnoLow : ¬(0xDC00 ≤ c.toNat ∧ c.toNat ≤ 0xDFFF) := by omega
    simp [textBody, hhex, hnoHigh, hnoLow]
  · simp [textBody, hquote, hslash, hcontrol]

/-- The body of a text is read back, escapes and all, up to the quote at its
end. -/
theorem textBody_chars {l : List Char} {n : Nat} (hn : l.length < n)
    (acc rest : List Char) :
    textBody n (some acc) (l.flatMap escape ++ '"' :: rest)
      = some (some (l.reverse ++ acc), rest) := by
  induction l generalizing n acc with
  | nil =>
    obtain ⟨n, rfl⟩ := Nat.exists_eq_succ_of_ne_zero (Nat.ne_of_gt hn)
    rfl
  | cons c l ih =>
    obtain ⟨n, rfl⟩ :=
      Nat.exists_eq_succ_of_ne_zero (Nat.ne_of_gt (Nat.zero_lt_of_lt hn))
    rw [List.flatMap_cons, List.append_assoc, textBody_escape,
      ih (Nat.lt_of_succ_lt_succ hn)]
    simp

/-- No character is written shorter than it is. -/
theorem length_le_flatMap_escape (l : List Char) :
    l.length ≤ (l.flatMap escape).length := by
  induction l with
  | nil => exact Nat.le_refl 0
  | cons c l ih =>
    have hc : 1 ≤ (escape c).length := by
      unfold escape
      split_ifs <;> exact Nat.succ_pos _
    simp only [List.flatMap_cons, List.length_append, List.length_cons]
    omega

/-- A text is read up to its closing quote. -/
theorem text_quote (s : String) (rest : List Char) :
    text (s.toList.flatMap escape ++ '"' :: rest) = some (some s, rest) := by
  have hfuel :
      s.toList.length
          < (s.toList.flatMap escape ++ '"' :: rest).length + 1 := by
    have hle := length_le_flatMap_escape s.toList
    rw [List.length_append]
    omega
  unfold text
  rw [textBody_chars hfuel]
  simp

-- ================================================================= values

/-- The characters of a whole number. -/
theorem digits_ofNat (n : Nat) : digits (Int.ofNat n) = Nat.toDigits 10 n :=
  Text.toList_toString n

theorem digits_negSucc (n : Nat) :
    digits (Int.negSucc n) = '-' :: Nat.toDigits 10 (n + 1) := by
  have htext : toString (Int.negSucc n) = "-" ++ toString (n + 1) := rfl
  rw [digits, htext, String.toList_append, Text.toList_toString]
  rfl

/-- A whole number is read as far as its digits go. -/
theorem value_digits (n : Nat) {i : Int} (hlow : -9223372036854775808 ≤ i)
    (hhigh : i ≤ 18446744073709551615) {rest : List Char} (h : Ends rest) :
    value (n + 1) (digits i ++ rest) = some (int i, rest) := by
  cases i with
  | ofNat m =>
    have hmax : m ≤ maxU64 := Int.ofNat_le.1 hhigh
    have hnumeral := numeral_digits false m h
    rw [digits_ofNat]
    cases hdigits : Nat.toDigits 10 m with
    | nil => exact absurd hdigits Nat.toDigits_ne_nil
    | cons c ds =>
      have hc : c.isDigit = true :=
        Text.isDigit_of_mem_numeral (hdigits ▸ List.mem_cons_self)
      rw [List.cons_append, value_of_isDigit hc, ← List.cons_append,
        ← hdigits, hnumeral, wholeOf_numeral hmax]
      rfl
  | negSucc m =>
    have hmin : m + 1 ≤ 9223372036854775808 := by omega
    rw [digits_negSucc, List.cons_append, value, skipBlank_cons rfl]
    simp [numeral_digits true (m + 1) h,
      wholeOf_negative (Nat.succ_pos m) hmin, Int.negSucc_eq]

theorem value_quote (n : Nat) (s : String) (rest : List Char) :
    value (n + 1) (quote s ++ rest) = some (str s, rest) := by
  have htext := text_quote s rest
  rw [value]
  simp [quote, skipBlank, isBlank, htext]

/-- How a written value starts: not with a blank, and not like the end of an
array. -/
def Starts (cs : List Char) : Prop :=
  ∃ c r, cs = c :: r ∧ isBlank c = false ∧ c ≠ ']'

theorem Starts.append {cs : List Char} (h : Starts cs) (rest : List Char) :
    Starts (cs ++ rest) := by
  obtain ⟨c, r, rfl, hc⟩ := h
  exact ⟨c, r ++ rest, rfl, hc⟩

/-- Digits start with a digit or the sign in front of them. -/
theorem starts_digits (i : Int) : Starts (digits i) := by
  cases i with
  | ofNat n =>
    rw [digits_ofNat]
    cases hdigits : Nat.toDigits 10 n with
    | nil => exact absurd hdigits Nat.toDigits_ne_nil
    | cons c r =>
      have hc : c.isDigit = true :=
        Text.isDigit_of_mem_numeral (hdigits ▸ List.mem_cons_self)
      exact ⟨c, r, rfl, isBlank_of_isDigit hc, ne_of_isDigit hc (by decide)⟩
  | negSucc n =>
    rw [digits_negSucc]
    exact ⟨_, _, rfl, by decide, by decide⟩

theorem starts_toText (x : Binary64) : Starts x.toText.toList := by
  obtain ⟨c, r, hmagnitude, hc, -⟩ := Binary64.magnitude_numeric x.units
  rw [Binary64.toList_toText]
  unfold Binary64.chars
  rw [hmagnitude]
  cases x.negative with
  | false =>
    exact ⟨c, r, rfl, isBlank_of_isDigit hc, ne_of_isDigit hc (by decide)⟩
  | true => exact ⟨'-', c :: r, rfl, by decide, by decide⟩

theorem starts_write {j : Json} (h : Lossless j) : Starts (write j) := by
  cases h with
  | null => exact ⟨_, _, rfl, by decide, by decide⟩
  | bool b => cases b <;> exact ⟨_, _, rfl, by decide, by decide⟩
  | int => exact starts_digits _
  | real => exact starts_toText _
  | str s => exact ⟨_, _, rfl, by decide, by decide⟩
  | arr => exact ⟨_, _, rfl, by decide, by decide⟩
  | obj => exact ⟨_, _, rfl, by decide, by decide⟩

section Rounds

variable {n : Nat} {cs r rest : List Char}

theorem value_arr {xs : List Json} (hstart : Starts cs)
    (h : items n cs = some (xs, rest)) :
    value (n + 1) ('[' :: cs) = some (arr xs, rest) := by
  obtain ⟨c, r, rfl, hblank, hend⟩ := hstart
  rw [value, skipBlank_cons rfl]
  simp [skipBlank_cons hblank, hend, h]

theorem value_obj {ms : List (String × Json)}
    (h : members n ('"' :: r) = some (some ms, rest)) :
    value (n + 1) ('{' :: '"' :: r) = some (obj ms, rest) := by
  rw [value, skipBlank_cons rfl]
  simp [skipBlank_cons (show isBlank '"' = false from rfl), h]

theorem items_last {x : Json} (h : value n cs = some (x, ']' :: rest)) :
    items (n + 1) cs = some ([x], rest) := by
  rw [items]
  simp [h, skipBlank_cons (show isBlank ']' = false from rfl)]

theorem items_next {x : Json} {xs : List Json}
    (h : value n cs = some (x, ',' :: r))
    (hnext : items n r = some (xs, rest)) :
    items (n + 1) cs = some (x :: xs, rest) := by
  rw [items]
  simp [h, skipBlank_cons (show isBlank ',' = false from rfl), hnext]

theorem members_last (k : String) {v : Json}
    (h : value n cs = some (v, '}' :: rest)) :
    members (n + 1) (quote k ++ ':' :: cs) = some (some [(k, v)], rest) := by
  have hkey := text_quote k (':' :: cs)
  rw [members]
  simp [quote, skipBlank_cons (show isBlank '"' = false from rfl), hkey,
    skipBlank_cons (show isBlank ':' = false from rfl), h,
    skipBlank_cons (show isBlank '}' = false from rfl)]

/-- A member and the comma behind it leave the members that follow. -/
theorem members_next (k : String) {v : Json} {ms : List (String × Json)}
    (h : value n cs = some (v, ',' :: r))
    (hnext : members n r = some (some ms, rest)) :
    members (n + 1) (quote k ++ ':' :: cs)
      = some (some ((k, v) :: ms), rest) := by
  have hkey := text_quote k (':' :: cs)
  rw [members]
  simp [quote, skipBlank_cons (show isBlank '"' = false from rfl), hkey,
    skipBlank_cons (show isBlank ':' = false from rfl), h,
    skipBlank_cons (show isBlank ',' = false from rfl), hnext]

end Rounds

-- ============================================================== induction

/-- With this fuel every text is read back that is shorter. -/
structure ReadsBack (n : Nat) : Prop where
  value : ∀ {j} rest, Lossless j → (write j).length < n → Ends rest →
    value n (write j ++ rest) = some (j, rest)
  items : ∀ {x xs} rest, (∀ y ∈ x :: xs, Lossless y) →
    (writeItems (x :: xs)).length < n →
      items n (writeItems (x :: xs) ++ rest) = some (x :: xs, rest)
  members : ∀ {m ms} rest, (∀ e ∈ m :: ms, Lossless e.2) →
    (writeMembers (m :: ms)).length < n →
      members n (writeMembers (m :: ms) ++ rest) = some (some (m :: ms), rest)

theorem starts_writeItems {x : Json} (h : Lossless x) (xs : List Json) :
    Starts (writeItems (x :: xs)) := by
  cases xs with
  | nil => exact (starts_write h).append _
  | cons y xs => exact (starts_write h).append _

theorem writeMembers_cons (m : String × Json) (ms : List (String × Json)) :
    ∃ r, writeMembers (m :: ms) = '"' :: r := by
  cases ms with
  | nil => exact ⟨_, rfl⟩
  | cons => exact ⟨_, rfl⟩

namespace ReadsBack

variable {n : Nat} (h : ReadsBack n)
include h

/-- One step of the reader on a value that was written, with what is shorter
taken as read back already. The reader counts its steps, so the induction is on
a length that bounds the text. -/
theorem value_succ {j : Json} (rest : List Char) (hj : Lossless j)
    (hn : (write j).length < n + 1) (hrest : Ends rest) :
    Json.value (n + 1) (write j ++ rest) = some (j, rest) := by
  cases hj with
  | null => simp [write, Json.value, skipBlank, isBlank, expect]
  | bool b => cases b <;> simp [write, Json.value, skipBlank, isBlank, expect]
  | int hlow hhigh => exact value_digits n hlow hhigh hrest
  | real hx => exact value_real n hx hrest
  | str s => exact value_quote n s rest
  | @arr items hitems =>
    cases items with
    | nil => simp [write, writeItems, Json.value, skipBlank, isBlank]
    | cons x xs =>
      simp only [write, List.length_cons] at hn
      have hstart :=
        (starts_writeItems (hitems x List.mem_cons_self) xs).append rest
      exact value_arr hstart (h.items rest hitems (by omega))
  | @obj members hmembers =>
    cases members with
    | nil => simp [write, writeMembers, Json.value, skipBlank, isBlank]
    | cons m ms =>
      simp only [write, List.length_cons] at hn
      obtain ⟨r, hr⟩ := writeMembers_cons m ms
      have hread := h.members rest hmembers (by omega)
      rw [hr, List.cons_append] at hread
      rw [write, hr]
      exact value_obj hread

/-- The same for the items of an array, of which the first is read as a
value. -/
theorem items_succ {x : Json} {xs : List Json} (rest : List Char)
    (hxs : ∀ y ∈ x :: xs, Lossless y)
    (hn : (writeItems (x :: xs)).length < n + 1) :
    Json.items (n + 1) (writeItems (x :: xs) ++ rest)
      = some (x :: xs, rest) := by
  have hx : Lossless x := hxs x List.mem_cons_self
  cases xs with
  | nil =>
    simp only [writeItems, List.length_append, List.length_cons] at hn
    have hvalue := h.value (']' :: rest) hx (by omega) (ends_cons rest rfl)
    simp only [writeItems, List.append_assoc, List.singleton_append]
    exact items_last hvalue
  | cons y xs =>
    simp only [writeItems, List.length_append, List.length_cons] at hn
    have hvalue :=
      h.value (',' :: (writeItems (y :: xs) ++ rest)) hx (by omega)
        (ends_cons _ rfl)
    have hnext :=
      h.items rest (fun z hz => hxs z (List.mem_cons_of_mem _ hz)) (by omega)
    simp only [writeItems, List.append_assoc, List.cons_append]
    exact items_next hvalue hnext

/-- The same for the members of an object, each behind its name. -/
theorem members_succ {m : String × Json} {ms : List (String × Json)}
    (rest : List Char) (hms : ∀ e ∈ m :: ms, Lossless e.2)
    (hn : (writeMembers (m :: ms)).length < n + 1) :
    Json.members (n + 1) (writeMembers (m :: ms) ++ rest)
      = some (some (m :: ms), rest) := by
  obtain ⟨k, v⟩ := m
  have hv : Lossless v := hms (k, v) List.mem_cons_self
  cases ms with
  | nil =>
    simp only [writeMembers, List.length_append, List.length_cons] at hn
    have hvalue := h.value ('}' :: rest) hv (by omega) (ends_cons rest rfl)
    simp only [writeMembers, List.append_assoc, List.cons_append,
      List.nil_append]
    exact members_last k hvalue
  | cons m ms =>
    simp only [writeMembers, List.length_append, List.length_cons] at hn
    have hvalue :=
      h.value (',' :: (writeMembers (m :: ms) ++ rest)) hv (by omega)
        (ends_cons _ rfl)
    have hnext :=
      h.members rest (fun e he => hms e (List.mem_cons_of_mem _ he)) (by omega)
    simp only [writeMembers, List.append_assoc, List.cons_append]
    exact members_next k hvalue hnext

end ReadsBack

theorem readsBack (n : Nat) : ReadsBack n := by
  induction n with
  | zero =>
    exact ⟨fun _ _ hn => absurd hn (Nat.not_lt_zero _),
      fun _ _ hn => absurd hn (Nat.not_lt_zero _),
      fun _ _ hn => absurd hn (Nat.not_lt_zero _)⟩
  | succ n ih =>
    exact ⟨ih.value_succ, ih.items_succ, ih.members_succ⟩

theorem toList_render (j : Json) : j.render.toList = write j :=
  String.toList_ofList

/-- What is written is read back. -/
theorem parse_render {j : Json} (h : Lossless j) :
    parse j.render = some j := by
  have hvalue :=
    (readsBack ((write j).length + 1)).value [] h (Nat.lt_succ_self _) ends_nil
  rw [List.append_nil] at hvalue
  unfold parse
  rw [toList_render]
  dsimp only
  rw [hvalue]
  rfl

/-- The value in a text, for a reader of values. -/
def decodeText {α : Type} (dec : Decoder α) (s : String) : Except Mismatch α :=
  match parse s with
  | some j => dec j
  | none => .error .malformed

/-- From its text a value is read as it is. -/
theorem decodeText_render {α : Type} (dec : Decoder α) {j : Json}
    (h : Lossless j) :
    decodeText dec j.render = dec j := by
  unfold decodeText
  rw [parse_render h]

end Fleetkeeper.Json
