/-
The order of members. A table has no order of its own, and whoever writes one
may write its entries in any; so a record can be written in many ways, which
differ in the order of members, in any object inside objects.

# Orders

One order comes from another by exchanging neighbours of different names, one
pair after the other (`Exchange`, `Reordered`). Members of one name keep their
order, since the last of them counts. Where no name comes twice these are all
the orders there are (`reordered_of_perm`), so they are all the orders in which
a table can be written (`reordered_ofTable`).

# Readers

A reader is steady if it reads the same after an exchange, and then it does
after any number of them (`Steady.run`). What refuses objects is steady. A
record looks for its members by name, and under a name nothing changes places
(`Exchange.under_cases`); a table is filled entry by entry, and two entries of
different names can be put in either order (`Table.ofList_swap`). All else is
put together from these.
-/
import Fleetkeeper.Proofs.Json.Text
import Mathlib.Data.List.Perm.Basic
import Mathlib.Logic.Relation

namespace Fleetkeeper

namespace Table

variable {α : Type}

/-- Entries under different names can be put in either order. -/
theorem insert_comm (t : Table α) {k l : String} (h : k ≠ l) (v w : α) :
    (t.insert k v).insert l w = (t.insert l w).insert k v := by
  refine ext_find? fun name => ?_
  simp only [find?_insert]
  by_cases hk : name = k
  · have hl : name ≠ l := fun hl => h (hk.symm.trans hl)
    rw [if_pos hk, if_neg hl, if_pos hk]
  · rw [if_neg hk, if_neg hk]

theorem ofList_swap (front : List (String × α)) {d e : String × α}
    (back : List (String × α)) (h : d.1 ≠ e.1) :
    ofList (front ++ e :: d :: back) = ofList (front ++ d :: e :: back) := by
  unfold ofList
  rw [List.foldl_append, List.foldl_append]
  simp only [List.foldl_cons]
  rw [insert_comm _ h]

end Table

namespace Json

-- =================================================================== orders

/-- Two neighbours of different names change places, in an object or in the
value of one of its members. -/
inductive Exchange : Json → Json → Prop where
  | swap (front : List (String × Json)) {m n : String × Json}
      (back : List (String × Json)) (h : m.1 ≠ n.1) :
      Exchange (obj (front ++ m :: n :: back)) (obj (front ++ n :: m :: back))
  | inside (front : List (String × Json)) (name : String) {j j' : Json}
      (back : List (String × Json)) (h : Exchange j j') :
      Exchange (obj (front ++ (name, j) :: back))
        (obj (front ++ (name, j') :: back))

/-- The same value with its members in another order. -/
def Reordered : Json → Json → Prop := Relation.ReflTransGen Exchange

theorem Reordered.refl (j : Json) : Reordered j j := Relation.ReflTransGen.refl

/-- Members of different names may stand in any order. -/
theorem reordered_of_perm {ms ms' : List (String × Json)} (h : ms.Perm ms')
    (hnames : (ms.map Prod.fst).Nodup) : Reordered (obj ms) (obj ms') := by
  -- behind members that stay where they are
  have hbehind :
      ∀ front, Reordered (obj (front ++ ms)) (obj (front ++ ms')) := by
    induction h with
    | nil => exact fun front => .refl _
    | cons m h ih =>
      intro front
      have hrest := ih (List.nodup_cons.1 hnames).2 (front ++ [m])
      rwa [List.append_assoc, List.append_assoc] at hrest
    | swap m n rest =>
      intro front
      have hne : n.1 ≠ m.1 := fun heq =>
        (List.nodup_cons.1 hnames).1 (heq ▸ List.mem_cons_self)
      exact .single (.swap front rest hne)
    | trans h h' ih ih' =>
      exact fun front => (ih hnames front).trans
        (ih' ((h.map Prod.fst).nodup_iff.1 hnames) front)
  exact hbehind []

/-- The entries of a table may be written in any order. -/
theorem reordered_ofTable {α : Type} (f : α → Json) (t : Table α)
    {entries : List (String × α)} (h : t.entries.Perm entries) :
    Reordered (ofTable f t) (obj (entries.map fun e => (e.1, f e.2))) := by
  refine reordered_of_perm (h.map _) ?_
  rw [List.map_map]
  refine List.pairwise_map.2 (t.sorted.imp fun {d e} hlt heq => ?_)
  have hnames : d.1 = e.1 := heq
  rw [hnames] at hlt
  exact String.lt_irrefl _ hlt

/-- Inside a member the order may be another too. -/
theorem Reordered.member {j j' : Json} (h : Reordered j j')
    (front : List (String × Json)) (name : String)
    (back : List (String × Json)) :
    Reordered (obj (front ++ (name, j) :: back))
      (obj (front ++ (name, j') :: back)) := by
  induction h with
  | refl => exact .refl _
  | tail _ hstep ih => exact ih.tail (.inside front name back hstep)

-- ========================================================== what stays put

namespace Exchange

/-- Only objects have an order. -/
theorem exists_obj {j j' : Json} (h : Exchange j j') :
    ∃ ms ms', j = obj ms ∧ j' = obj ms' := by
  cases h with
  | swap | inside => exact ⟨_, _, rfl, rfl⟩

/-- An exchange loses nothing that was there. -/
theorem lossless {j j' : Json} (h : Exchange j j') (hj : Lossless j) :
    Lossless j' := by
  induction h with
  | swap front back hne =>
    cases hj with
    | obj hms =>
      simp only [List.forall_mem_append, List.forall_mem_cons] at hms
      obtain ⟨hfront, hm, hn, hback⟩ := hms
      refine .obj ?_
      simp only [List.forall_mem_append, List.forall_mem_cons]
      exact ⟨hfront, hn, hm, hback⟩
  | inside front name back h ih =>
    cases hj with
    | obj hms =>
      simp only [List.forall_mem_append, List.forall_mem_cons] at hms
      obtain ⟨hfront, hmember, hback⟩ := hms
      refine .obj ?_
      simp only [List.forall_mem_append, List.forall_mem_cons]
      exact ⟨hfront, ih hmember, hback⟩

/-- Under one name nothing changes places: all values stay, or one of them has
an exchange inside. -/
theorem under_cases {ms ms' : List (String × Json)}
    (h : Exchange (obj ms) (obj ms')) (name : String) :
    under name ms' = under name ms ∨
      ∃ front j j' back, Exchange j j' ∧ under name ms = front ++ j :: back
        ∧ under name ms' = front ++ j' :: back := by
  cases h with
  | @swap front m n back hne =>
    obtain ⟨mname, mvalue⟩ := m
    obtain ⟨nname, nvalue⟩ := n
    left
    simp only [under_append, under_cons]
    by_cases hm : mname = name
    · have hn : nname ≠ name := fun hn => hne (hm.trans hn.symm)
      rw [if_neg hn, if_neg hn]
    · rw [if_neg hm, if_neg hm]
  | @inside front key j j' back h =>
    by_cases hkey : key = name
    · exact .inr ⟨under name front, j, j', under name back,
        h, by simp [hkey], by simp [hkey]⟩
    · exact .inl (by simp [hkey])

end Exchange

theorem Reordered.lossless {j j' : Json} (h : Reordered j j')
    (hj : Lossless j) :
    Lossless j' := by
  induction h with
  | refl => exact hj
  | tail _ hstep ih => exact hstep.lossless ih

/-- An object in another order is an object. -/
theorem Reordered.exists_obj {ms : List (String × Json)} {j : Json}
    (h : Reordered (obj ms) j) :
    ∃ ms', j = obj ms' := by
  induction h with
  | refl => exact ⟨ms, rfl⟩
  | tail _ hstep _ =>
    obtain ⟨-, ms', -, hj⟩ := hstep.exists_obj
    exact ⟨ms', hj⟩

-- ================================================================== readers

/-- What is read is read after an exchange too. -/
def Steady {α : Type} (dec : Decoder α) : Prop :=
  ∀ ⦃j j' : Json⦄ ⦃a : α⦄, Exchange j j' → dec j = .ok a → dec j' = .ok a

section Readers

variable {α β : Type} {dec : Decoder α}

/-- What is read is read in every order. -/
theorem Steady.run (hdec : Steady dec) {j j' : Json} {a : α}
    (h : Reordered j j') (hj : dec j = .ok a) : dec j' = .ok a := by
  induction h with
  | refl => exact hj
  | tail _ hstep ih => exact hdec hstep ih

/-- What stands for something stands for it in every order. -/
theorem Denotes.reordered {j j' : Json} {a : α} (hj : Denotes dec j a)
    (hdec : Steady dec) (h : Reordered j j') : Denotes dec j' a := by
  refine ⟨hdec.run h hj.reads, ?_⟩
  cases h with
  | refl => exact hj.notNull
  | tail _ hstep =>
    obtain ⟨-, ms, -, rfl⟩ := hstep.exists_obj
    nofun

/-- A reader that refuses objects has nothing to mind. -/
theorem steady_of_refuses (hdec : ∀ ms, ∃ e, dec (obj ms) = .error e) :
    Steady dec := by
  intro j j' a h hj
  obtain ⟨ms, -, rfl, -⟩ := h.exists_obj
  obtain ⟨e, he⟩ := hdec ms
  rw [he] at hj
  cases hj

/-- What is made of a value that was read. -/
theorem Steady.bind (hdec : Steady dec) (f : α → Except Mismatch β) :
    Steady fun j => dec j >>= f := by
  intro j j' b h hj
  cases hread : dec j with
  | error e =>
    simp only [hread] at hj
    cases hj
  | ok a =>
    simp only [hread] at hj
    simp only [hdec h hread]
    exact hj

theorem steady_text : Steady asText := steady_of_refuses fun _ => ⟨_, rfl⟩

theorem steady_bool : Steady asBool := steady_of_refuses fun _ => ⟨_, rfl⟩

theorem steady_real : Steady asReal := steady_of_refuses fun _ => ⟨_, rfl⟩

theorem steady_i64 : Steady asI64 := steady_of_refuses fun _ => ⟨_, rfl⟩

theorem steady_u64 : Steady asU64 := steady_of_refuses fun _ => ⟨_, rfl⟩

/-- A list is no object; what stands in it keeps its order. -/
theorem steady_list (dec : Decoder α) : Steady (asList dec) :=
  steady_of_refuses fun _ => ⟨_, rfl⟩

/-- An object stands for a word if the word is its only name, with nothing
under it. -/
theorem eq_of_asWord_obj {ms : List (String × Json)} {s : String}
    (h : asWord (obj ms) = .ok s) :
    ms = [(s, null)] := by
  unfold asWord at h
  split at h <;> simp_all

/-- A word that is written as an object has one member and nothing in it, so
there is nothing to exchange. -/
theorem steady_word : Steady asWord := by
  intro j j' s h hj
  exfalso
  cases h with
  | swap front back hne =>
    have hlength := congrArg List.length (eq_of_asWord_obj hj)
    simp only [List.length_append, List.length_cons, List.length_nil]
      at hlength
    omega
  | inside front name back h =>
    obtain ⟨ms, -, rfl, -⟩ := h.exists_obj
    have hmem : (name, obj ms) ∈ [(s, null)] :=
      eq_of_asWord_obj hj ▸ List.mem_append_right front List.mem_cons_self
    cases List.mem_singleton.1 hmem

theorem steady_variant (known : List (String × α)) :
    Steady (asVariant known) :=
  steady_word.bind _

/-- An object is never null, so it is read as what it is. -/
theorem steady_option (hdec : Steady dec) : Steady (asOption dec) := by
  intro j j' o h hj
  obtain ⟨ms, ms', rfl, rfl⟩ := h.exists_obj
  unfold asOption at hj ⊢
  cases hread : dec (obj ms) with
  | error e =>
    simp only [hread] at hj
    cases hj
  | ok a =>
    simp only [hread] at hj
    simp only [hdec h hread]
    exact hj

/-- A list was read item by item. -/
theorem mapM_eq_ok_iff {γ ε : Type} {read : γ → Except ε α} {l : List γ}
    {results : List α} :
    l.mapM read = .ok results ↔ l.map read = results.map .ok := by
  constructor
  · induction l generalizing results with
    | nil =>
      rintro ⟨⟩
      rfl
    | cons c rest ih =>
      rw [List.mapM_cons, List.map_cons]
      intro h
      cases hc : read c with
      | error e =>
        rw [hc] at h
        cases h
      | ok a =>
        cases hrest : rest.mapM read with
        | error e =>
          rw [hc, hrest] at h
          cases h
        | ok as =>
          rw [hc, hrest] at h
          cases h
          rw [ih hrest, List.map_cons]
  · intro h
    have hitems : (results.map Except.ok).mapM id
        = Except.ok (ε := ε) (results.map id) :=
      mapM_of_ok fun _ _ => rfl
    rw [← h, List.mapM_map, List.map_id] at hitems
    exact hitems

/-- A member as an entry of a table. -/
def asEntry (dec : Decoder α) (m : String × Json) :
    Except Mismatch (String × α) :=
  (dec m.2).map fun v => (m.1, v)

theorem asEntry_eq_ok_iff {m : String × Json} {e : String × α} :
    asEntry dec m = .ok e ↔ m.1 = e.1 ∧ dec m.2 = .ok e.2 := by
  unfold asEntry
  cases dec m.2 with
  | error c => simp [Except.map]
  | ok v => simp [Except.map, Prod.ext_iff]

/-- A table is read entry by entry, and each entry has to be read. -/
theorem asTable_obj_eq_ok_iff {ms : List (String × Json)} {t : Table α} :
    asTable dec (obj ms) = .ok t
      ↔ ∃ entries : List (String × α), ms.map (asEntry dec) = entries.map .ok
        ∧ Table.ofList entries = t := by
  have hread : asTable dec (obj ms)
      = (ms.mapM (asEntry dec) >>= fun entries =>
        pure (Table.ofList entries)) := rfl
  simp only [hread, ← mapM_eq_ok_iff]
  cases ms.mapM (asEntry dec) with
  | error c => simp [Bind.bind, Except.bind]
  | ok entries => simp [Bind.bind, Except.bind, pure, Except.pure]

/-- A table is filled in the order of its members, and two neighbours of
different names can be filled in either order. An exchange inside a member
leaves what is read from it. -/
theorem steady_table (hdec : Steady dec) : Steady (asTable dec) := by
  intro j j' t h hj
  cases h with
  | swap front back hne =>
    obtain ⟨entries, hentries, rfl⟩ := asTable_obj_eq_ok_iff.1 hj
    simp only [List.map_append, List.map_cons] at hentries
    obtain ⟨before, rest, rfl, hbefore, hrest⟩ :=
      List.map_eq_append_iff.1 hentries.symm
    obtain ⟨d, rest, rfl, hd, hrest⟩ := List.map_eq_cons_iff.1 hrest
    obtain ⟨e, behind, rfl, he, hbehind⟩ := List.map_eq_cons_iff.1 hrest
    have hnames : d.1 ≠ e.1 := by
      rw [← (asEntry_eq_ok_iff.1 hd.symm).1, ← (asEntry_eq_ok_iff.1 he.symm).1]
      exact hne
    refine asTable_obj_eq_ok_iff.2 ⟨before ++ e :: d :: behind, ?_,
      Table.ofList_swap _ _ hnames⟩
    simp only [List.map_append, List.map_cons, hbefore, hd, he, hbehind]
  | @inside front name i i' back h =>
    obtain ⟨entries, hentries, rfl⟩ := asTable_obj_eq_ok_iff.1 hj
    refine asTable_obj_eq_ok_iff.2 ⟨entries, ?_, rfl⟩
    simp only [List.map_append, List.map_cons] at hentries ⊢
    obtain ⟨before, rest, rfl, hbefore, hrest⟩ :=
      List.map_eq_append_iff.1 hentries.symm
    obtain ⟨d, behind, rfl, hd, hbehind⟩ := List.map_eq_cons_iff.1 hrest
    obtain ⟨hname, hvalue⟩ := asEntry_eq_ok_iff.1 hd.symm
    have hentry : asEntry dec (name, i') = .ok d :=
      asEntry_eq_ok_iff.2 ⟨hname, hdec h hvalue⟩
    simp only [List.map_append, List.map_cons, hbefore, hbehind, hentry]

end Readers

-- ================================================================== records

namespace Record

variable {α β : Type}

/-- What is read from members is read after an exchange too. -/
def Steady (r : Record α) : Prop :=
  ∀ ⦃ms ms' : List (String × Json)⦄ ⦃what : String⦄ ⦃names : List String⦄
    ⦃a : α⦄,
    Exchange (obj ms) (obj ms') → r.read ⟨ms, false, what, names⟩ = .ok a →
      r.read ⟨ms', false, what, names⟩ = .ok a

/-- What is made of the result does not depend on the order. -/
theorem steady_map {r : Record α} (hr : r.Steady) (g : α → β) :
    (g <$> r).Steady := by
  intro ms ms' what names b h hread
  have hmap : (r.read ⟨ms, false, what, names⟩).map g = .ok b := hread
  cases ha : r.read ⟨ms, false, what, names⟩ with
  | error c =>
    rw [ha] at hmap
    cases hmap
  | ok a =>
    rw [ha] at hmap
    cases hmap
    exact read_map g (hr h ha)

/-- Two parts of a record are read apart from each other, so both stay what
they were. -/
theorem steady_seq {f : Record (α → β)} {r : Record α} (hf : f.Steady)
    (hr : r.Steady) :
    (f <*> r).Steady := by
  intro ms ms' what names b h hread
  have hboth : both (f.read ⟨ms, false, what, names⟩)
      (r.read ⟨ms, false, what, names⟩) = .ok b :=
    hread
  unfold both at hboth
  split at hboth
  · rename_i g a hg ha
    cases hboth
    exact read_seq (hf h hg) (hr h ha)
  all_goals cases hboth

/-- A field was read from its one value, or it is missing. -/
theorem cases_of_read_field {name : String} {dec : Decoder α}
    {absent : Fields → Except Complaint α} {fs : Fields} {a : α}
    (h : (field name dec absent).read fs = .ok a) :
    (under name fs.members = [] ∧ absent fs = .ok a)
      ∨ ∃ j, under name fs.members = [j] ∧ dec j = .ok a := by
  have hfound : fs.values name = under name fs.members := rfl
  unfold field at h
  dsimp only at h
  rw [hfound] at h
  split at h
  · exact .inl ⟨‹_›, h⟩
  · rename_i j more hvalues
    split at h
    · cases h
    · split at h
      · rename_i hmore
        cases h
        rw [List.isEmpty_iff.1 hmore] at hvalues
        exact .inr ⟨j, hvalues, ‹_›⟩
      · cases h

/-- What it means that a field is missing may depend on what it is missing
from, but not on the other members. -/
theorem steady_field {name : String} {dec : Decoder α}
    {absent : Fields → Except Complaint α} (hdec : Json.Steady dec)
    (habsent : ∀ {fs fs' : Fields} {a : α}, fs.positional = fs'.positional →
      absent fs = .ok a → absent fs' = .ok a) :
    (field name dec absent).Steady := by
  intro ms ms' what names a h hread
  have hpositional : Fields.positional ⟨ms, false, what, names⟩
      = Fields.positional ⟨ms', false, what, names⟩ := rfl
  obtain ⟨hnone, habs⟩ | ⟨j, hone, hj⟩ := cases_of_read_field hread
  · obtain hsame | ⟨front, i, i', back, -, hvalues, -⟩ := h.under_cases name
    · exact (read_field_absent (hsame.trans hnone)).trans
        (habsent hpositional habs)
    · rw [hnone] at hvalues
      simp at hvalues
  · obtain hsame | ⟨front, i, i', back, hstep, hvalues, hvalues'⟩ :=
      h.under_cases name
    · exact read_field (hsame.trans hone) hj
    · obtain ⟨rfl, rfl, rfl⟩ : front = [] ∧ j = i ∧ back = [] := by
        cases front <;> simp_all
      exact read_field hvalues' (hdec hstep hj)

theorem steady_required {name : String} {dec : Decoder α}
    (hdec : Json.Steady dec) :
    (required name dec).Steady :=
  steady_field hdec nofun

theorem steady_orElse {name : String} {dec : Decoder α} {default : α}
    (hdec : Json.Steady dec) :
    (orElse name dec default).Steady :=
  steady_field hdec fun _ h => h

theorem steady_omittable {name : String} {dec : Decoder α}
    (hdec : Json.Steady dec) :
    (omittable name dec).Steady :=
  steady_orElse (steady_option hdec)

theorem steady_optional {name : String} {dec : Decoder α}
    (hdec : Json.Steady dec) :
    (optional name dec).Steady :=
  steady_field (steady_option hdec) fun {fs fs' _} hpositional h => by
    rw [hpositional] at h
    split at h
    · cases h
    · rename_i hobject
      rwa [if_neg hobject]

end Record

/-- A record is read from its members, in whatever order they stand. -/
theorem steady_record {α : Type} {what : String} {r : Record α}
    (hr : r.Steady) :
    Steady (record what r) := by
  intro j j' a h hj
  obtain ⟨ms, ms', rfl, rfl⟩ := h.exists_obj
  unfold record at hj ⊢
  dsimp only at hj ⊢
  cases hread : r.read ⟨ms, false, what, r.names⟩ with
  | error c =>
    rw [hread] at hj
    cases hj
  | ok b =>
    rw [hread] at hj
    rw [hr h hread]
    exact hj

-- ===================================================================== texts

/-- What denotes something and loses nothing gives it back from its text,
whatever order that is written in. -/
theorem decodeText_of_reordered {α : Type} {dec : Decoder α}
    {j j' : Json} {a : α} (hdenotes : Denotes dec j a) (hlossless : Lossless j)
    (hdec : Steady dec) (h : Reordered j j') :
    decodeText dec j'.render = .ok a := by
  rw [decodeText_render dec (h.lossless hlossless)]
  exact hdec.run h hdenotes.reads

end Json

end Fleetkeeper
