/-
Decoding an outline: its members are the fields of a record, and its values
are read as what they were written for. In the other direction, a number that
was read is within the bound of its reader.
-/
import Fleetkeeper.Proofs.Json.Codec
import Fleetkeeper.Proofs.Text.Numeral
import Fleetkeeper.Proofs.Yaml.Outline

namespace Fleetkeeper.Yaml

open Outline

/-- A computation in steps that succeeds has succeeded in its first step. -/
theorem exists_of_bind_ok {ε α β : Type} {x : Except ε α} {f : α → Except ε β}
    {b : β} (h : x >>= f = .ok b) : ∃ a, x = .ok a ∧ f a = .ok b := by
  cases x with
  | error e => cases h
  | ok a => exact ⟨a, rfl, h⟩

-- ================================================================= records

/-- The members of a collection, if they are known by different names, are the
fields of a record. -/
theorem fields_entries {names : List String} {members : List (String × Node)}
    (hknown : ∀ m ∈ members, m.1 ∈ names)
    (hdistinct : distinct (members.map Prod.fst) = true) (d : Document)
    (props : Props) :
    fields names d (.mapping props (entries members)) = .ok members := by
  have hkeys :
      (entries members).mapM (fun e => (keyText d e.1).map fun k => (k, e.2))
        = .ok (members.map id) :=
    Json.mapM_of_ok fun _ _ => rfl
  rw [List.map_id] at hkeys
  have hall : members.filter (fun e => names.contains e.1) = members :=
    List.filter_eq_self.2 fun m hm => List.contains_iff_mem.2 (hknown m hm)
  simp only [fields, Document.resolve, hkeys, bind, Except.bind, hall,
    hdistinct, if_true, pure, Except.pure]

section Fields

variable {α : Type} {fs : Fields} {d : Document} {name : String}
  {f : Decoder α} {default : α}

theorem Fields.orElse_eq {node : Node} (h : fs.lookup name = some node) :
    fs.orElse d name f default = f d node := by
  simp only [orElse, h]

/-- What holds of the default and of all that is read holds of the field. -/
theorem Fields.orElse_all {P : α → Prop} {a : α}
    (h : fs.orElse d name f default = .ok a) (hdefault : P default)
    (hread : ∀ node a, f d node = .ok a → P a) : P a := by
  unfold orElse at h
  cases hnode : fs.lookup name with
  | none =>
    simp only [hnode] at h
    cases h
    exact hdefault
  | some node =>
    simp only [hnode] at h
    exact hread node a h

end Fields

-- ================================================================= scalars

/-- A numeral is read as its number: it has no sign and no zero in front, so
it is to no other base. -/
theorem wholeNumber?_numeral (n : Nat) :
    wholeNumber? (toString n) = some n := by
  have hnumber := Text.number?_numeral n
  unfold wholeNumber?
  rw [Text.toList_toString]
  cases hdigits : Nat.toDigits 10 n with
  | nil => exact absurd hdigits Nat.toDigits_ne_nil
  | cons c rest =>
    rw [hdigits] at hnumber
    have hsign : c ≠ '+' := by
      rintro rfl
      have hplus : '+' ∈ Nat.toDigits 10 n := hdigits ▸ List.mem_cons_self
      exact absurd (Text.isDigit_of_mem_numeral hplus) (by decide)
    by_cases hzero : c = '0'
    · subst hzero
      rw [Text.numeral_of_zero hdigits] at hnumber ⊢
      exact hnumber
    · simp [hsign, hzero, hnumber]

theorem asWhole_numeral {most n : Nat} (h : n ≤ most) (d : Document) :
    asWhole most d (leaf (toString n)) = .ok n := by
  simp only [asWhole, leaf, Document.resolve, isUntyped, decide_true,
    Bool.true_or, if_true, wholeNumber?_numeral, if_pos h]

/-- A number that is read is within the bound. -/
theorem le_of_asWhole {most n : Nat} {d : Document} {node : Node}
    (h : asWhole most d node = .ok n) : n ≤ most := by
  unfold asWhole at h
  split at h
  · split at h
    · split at h
      · cases h
        assumption
      · cases h
    · cases h
  · cases h

/-- A number of a record is within its bound, given or not. -/
theorem Fields.le_of_orElse {most n default : Nat} {fs : Fields} {d : Document}
    {name : String} (h : fs.orElse d name (asWhole most) default = .ok n)
    (hdefault : default ≤ most) :
    n ≤ most :=
  orElse_all (P := (· ≤ most)) h hdefault fun _ _ => le_of_asWhole

theorem asVariant_word {α : Type} {known : List (String × α)}
    {word : String} {a : α} (h : known.lookup word = some a) (d : Document) :
    asVariant known d (leaf word) = .ok a := by
  simp [asVariant, leaf, Document.resolve, h]

end Fleetkeeper.Yaml
