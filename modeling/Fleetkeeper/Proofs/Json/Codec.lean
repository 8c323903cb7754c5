/-
Reading back what was written, part by part. A value denotes `a` for a reader
that reads it as `a`. The law of a record is put together as the record is:
each field finds the values given under its name (`under`), and reads the one
there is.

An unset part is left out of an object or written `null`, so a part that is
set may not be written `null`; therefore `Denotes` says that too.
-/
import Fleetkeeper.Json.Record

namespace Fleetkeeper.Json

variable {α β : Type}

/-- A whole number of 64 bits, one of which is the sign. -/
def Signed64 (i : Int) : Prop :=
  -9223372036854775808 ≤ i ∧ i ≤ 9223372036854775807

/-- A count of 64 bits. -/
def Unsigned64 (n : Nat) : Prop := n ≤ 18446744073709551615

/-- A value stands for `a`: it is read as `a`, and it is not what stands for
nothing. -/
structure Denotes (dec : Decoder α) (j : Json) (a : α) : Prop where
  reads : dec j = .ok a
  notNull : j ≠ .null

-- ===================================================== scalars, containers

theorem denotes_text (s : String) : Denotes asText (.str s) s := ⟨rfl, nofun⟩

theorem denotes_bool (b : Bool) : Denotes asBool (.bool b) b := ⟨rfl, nofun⟩

theorem denotes_i64 {i : Int} (hlow : -9223372036854775808 ≤ i)
    (hhigh : i ≤ 9223372036854775807) : Denotes asI64 (.int i) i :=
  ⟨if_pos ⟨hlow, hhigh⟩, nofun⟩

theorem denotes_u64 {n : Nat} (h : Unsigned64 n) :
    Denotes asU64 (.ofNat n) n := by
  have hrange : (0 : Int) ≤ n ∧ (n : Int) ≤ 18446744073709551615 :=
    ⟨Int.natCast_nonneg n, Int.ofNat_le.2 h⟩
  refine ⟨?_, nofun⟩
  unfold asU64 asInt ofNat
  dsimp only
  rw [if_pos hrange]
  rfl

theorem denotes_real (x : Binary64) : Denotes asReal (.real x) x :=
  ⟨rfl, nofun⟩

/-- A word of a type is read as the first value under it. -/
theorem denotes_variant {known : List (String × α)} {s : String}
    {e : String × α} (h : known.find? (fun e => e.1 == s) = some e) :
    Denotes (asVariant known) (.str s) e.2 := by
  refine ⟨?_, nofun⟩
  simp only [asVariant, asWord, bind, Except.bind, h]
  rfl

/-- Reading every item of a list of values. -/
theorem mapM_of_ok {γ ε : Type} {read : γ → Except ε α} {f : β → γ} {g : β → α}
    {l : List β} (h : ∀ b ∈ l, read (f b) = .ok (g b)) :
    (l.map f).mapM read = .ok (l.map g) := by
  induction l with
  | nil => rfl
  | cons b rest ih =>
    have hhead := h b List.mem_cons_self
    have hrest := ih fun b hb => h b (List.mem_cons_of_mem _ hb)
    rw [List.map_cons, List.mapM_cons, hhead, hrest]
    rfl

theorem denotes_list {dec : Decoder α} {f : α → Json} {l : List α}
    (h : ∀ a ∈ l, Denotes dec (f a) a) :
    Denotes (asList dec) (.ofList f l) l := by
  refine ⟨?_, nofun⟩
  have hitems := mapM_of_ok (g := id) fun a ha => (h a ha).reads
  rw [List.map_id] at hitems
  exact hitems

/-- A table is read back entry by entry. It is put together again by inserting
them, and they were in order. -/
theorem denotes_table {dec : Decoder α} {f : α → Json} {t : Table α}
    (h : ∀ e ∈ t.entries, Denotes dec (f e.2) e.2) :
    Denotes (asTable dec) (.ofTable f t) t := by
  refine ⟨?_, nofun⟩
  have hentries : (t.entries.map fun e => (e.1, f e.2)).mapM
      (fun m => (dec m.2).map fun v => (m.1, v)) = .ok (t.entries.map id) := by
    refine mapM_of_ok fun e he => ?_
    dsimp only
    rw [(h e he).reads]
    rfl
  unfold ofTable asTable
  dsimp only
  rw [hentries, List.map_id]
  exact congrArg Except.ok (Table.ofList_entries t)

theorem denotes_texts (l : List String) :
    Denotes (asList asText) (.ofList .str l) l :=
  denotes_list fun s _ => denotes_text s

theorem denotes_textTable (t : Table String) :
    Denotes (asTable asText) (.ofTable .str t) t :=
  denotes_table fun e _ => denotes_text e.2

theorem ofText?_eq (o : Option String) : ofText? o = ofOption .str o := by
  cases o <;> rfl

-- ================================================================= records

/-- The values under a name among the members of an object. -/
def under (name : String) (members : List (String × Json)) : List Json :=
  (members.filter fun m => m.1 == name).map Prod.snd

@[simp] theorem under_nil (name : String) : under name [] = [] := rfl

@[simp] theorem under_cons (name key : String) (j : Json)
    (members : List (String × Json)) :
    under name ((key, j) :: members)
      = if key = name then j :: under name members else
        under name members := by
  unfold under
  by_cases hkey : key = name <;> simp [hkey]

@[simp] theorem under_append (name : String) (xs ys : List (String × Json)) :
    under name (xs ++ ys) = under name xs ++ under name ys := by
  simp [under]

namespace Record

variable {fs : Fields}

theorem read_map {r : Record α} {a : α} (g : α → β) (h : r.read fs = .ok a) :
    (g <$> r).read fs = .ok (g a) := by
  show (r.read fs).map g = _
  rw [h]
  rfl

theorem read_seq {f : Record (α → β)} {r : Record α} {g : α → β} {a : α}
    (hf : f.read fs = .ok g) (hr : r.read fs = .ok a) :
    (f <*> r).read fs = .ok (g a) := by
  show both (f.read fs) (r.read fs) = _
  rw [hf, hr]
  rfl

/-- A field that is given once. -/
theorem read_field {name : String} {dec : Decoder α}
    {absent : Fields → Except Complaint α} {j : Json} {a : α}
    (hvalues : under name fs.members = [j]) (h : dec j = .ok a) :
    (field name dec absent).read fs = .ok a := by
  have hfound : fs.values name = [j] := hvalues
  simp [field, hfound, h]

/-- A field that is not given. -/
theorem read_field_absent {name : String} {dec : Decoder α}
    {absent : Fields → Except Complaint α}
    (hvalues : under name fs.members = []) :
    (field name dec absent).read fs = absent fs := by
  have hfound : fs.values name = [] := hvalues
  simp [field, hfound]

theorem asOption_of_denotes {dec : Decoder α} {j : Json} {a : α}
    (h : Denotes dec j a) :
    asOption dec j = .ok (some a) := by
  have hnull := h.notNull
  unfold asOption
  split
  · exact absurd rfl hnull
  · rw [h.reads]
    rfl

theorem read_required {name : String} {dec : Decoder α} {j : Json} {a : α}
    (hvalues : under name fs.members = [j]) (h : Denotes dec j a) :
    (required name dec).read fs = .ok a :=
  read_field hvalues h.reads

theorem read_orElse {name : String} {dec : Decoder α} {j : Json}
    {a default : α} (hvalues : under name fs.members = [j])
    (h : Denotes dec j a) :
    (orElse name dec default).read fs = .ok a :=
  read_field hvalues h.reads

/-- A part that is left out when it is unset. -/
theorem read_omittable {name : String} {dec : Decoder α} {f : α → Json}
    {o : Option α} (hvalues : under name fs.members = (o.map f).toList)
    (h : ∀ a, o = some a → Denotes dec (f a) a) :
    (omittable name dec).read fs = .ok o := by
  cases o with
  | none => exact read_field_absent hvalues
  | some a => exact read_field hvalues (asOption_of_denotes (h a rfl))

/-- A part that is written either way, `null` when it is unset. It does not
matter what its absence would mean. -/
theorem read_nullable {name : String} {dec : Decoder α} {f : α → Json}
    {o : Option α} {absent : Fields → Except Complaint (Option α)}
    (hvalues : under name fs.members = [.ofOption f o])
    (h : ∀ a, o = some a → Denotes dec (f a) a) :
    (field name (asOption dec) absent).read fs = .ok o := by
  cases o with
  | none => exact read_field hvalues rfl
  | some a => exact read_field hvalues (asOption_of_denotes (h a rfl))

/-- A part that is left out when it is unset, in a reader that would rather see
`null`. That its absence counts as `null` holds of objects only. -/
theorem read_optional {name : String} {dec : Decoder α} {f : α → Json}
    {o : Option α} (hobject : fs.positional = false)
    (hvalues : under name fs.members = (o.map f).toList)
    (h : ∀ a, o = some a → Denotes dec (f a) a) :
    (optional name dec).read fs = .ok o := by
  cases o with
  | none =>
    unfold optional
    rw [read_field_absent hvalues, hobject]
    rfl
  | some a => exact read_field hvalues (asOption_of_denotes (h a rfl))

end Record

/-- An object denotes what its members are read as. -/
theorem denotes_obj {what : String} {r : Record α}
    {members : List (String × Json)} {a : α}
    (h : r.read ⟨members, false, what, r.names⟩ = .ok a) :
    Denotes (record what r) (.obj members) a := by
  refine ⟨?_, nofun⟩
  unfold record
  dsimp only
  rw [h]
  rfl

end Fleetkeeper.Json
