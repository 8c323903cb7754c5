/-
Tables keyed by text: labels, attributes, disks, port bindings, the names a
storage knows. Entries are kept in strictly ascending key order, so two
tables with the same content are the same value and equality can be decided
entry by entry.

Main statements: `find?_insert` and `find?_erase`, what an update does to
every look-up, and `ext_find?`, that look-ups determine the table.
-/
namespace Fleetkeeper

/-- A finite map from text, in ascending key order. -/
structure Table (α : Type) where
  entries : List (String × α)
  sorted : entries.Pairwise (fun a b => a.1 < b.1)
deriving DecidableEq, Repr

namespace Table

variable {α β : Type}

-- ================================================= the sorted entry list

/-- Put `v` under `k`, in place of what was there. -/
def insertEntry (k : String) (v : α) : List (String × α) → List (String × α)
  | [] => [(k, v)]
  | e :: rest =>
    if k < e.1 then (k, v) :: e :: rest
    else if k = e.1 then (k, v) :: rest
    else e :: insertEntry k v rest

theorem mem_insertEntry {k : String} {v : α} {l : List (String × α)}
    {e : String × α} (h : e ∈ insertEntry k v l) : e = (k, v) ∨ e ∈ l := by
  induction l with
  | nil => simpa [insertEntry] using h
  | cons d rest ih =>
    unfold insertEntry at h
    split at h
    · simpa using h
    · split at h
      · rcases List.mem_cons.1 h with h | h
        · exact .inl h
        · exact .inr (List.mem_cons_of_mem _ h)
      · rcases List.mem_cons.1 h with h | h
        · exact .inr (h ▸ List.mem_cons_self ..)
        · rcases ih h with h | h
          · exact .inl h
          · exact .inr (List.mem_cons_of_mem _ h)

theorem sorted_insertEntry (k : String) (v : α) {l : List (String × α)}
    (h : l.Pairwise (fun a b => a.1 < b.1)) :
    (insertEntry k v l).Pairwise (fun a b => a.1 < b.1) := by
  induction l with
  | nil => simp [insertEntry]
  | cons d rest ih =>
    have hd := List.pairwise_cons.1 h
    unfold insertEntry
    split
    · rename_i hk
      refine List.pairwise_cons.2 ⟨fun e he => ?_, h⟩
      rcases List.mem_cons.1 he with rfl | he
      · exact hk
      · exact String.lt_trans hk (hd.1 e he)
    · rename_i hk
      split
      · rename_i heq
        subst heq
        exact List.pairwise_cons.2 ⟨fun e he => hd.1 e he, hd.2⟩
      · rename_i hne
        refine List.pairwise_cons.2 ⟨fun e he => ?_, ih hd.2⟩
        rcases mem_insertEntry he with rfl | he
        · have hle : d.1 ≤ k := String.not_lt.1 hk
          by_cases hlt : d.1 < k
          · exact hlt
          · exact absurd (String.le_antisymm (String.not_lt.1 hlt) hle) hne
        · exact hd.1 e he

-- ============================================================ operations

/-- The table without entries. -/
def empty : Table α := ⟨[], .nil⟩

instance : EmptyCollection (Table α) := ⟨empty⟩
instance : Inhabited (Table α) := ⟨empty⟩

/-- Put `v` under `k`; an earlier value of `k` is replaced. -/
def insert (t : Table α) (k : String) (v : α) : Table α :=
  ⟨insertEntry k v t.entries, sorted_insertEntry k v t.sorted⟩

/-- The value under `k`. -/
def find? (t : Table α) (k : String) : Option α :=
  (t.entries.find? (fun e => e.1 == k)).map Prod.snd

/-- Whether `k` has a value. -/
def contains (t : Table α) (k : String) : Bool :=
  t.entries.any (fun e => e.1 == k)

/-- Take `k` out. -/
def erase (t : Table α) (k : String) : Table α :=
  ⟨t.entries.filter (fun e => e.1 != k), t.sorted.filter _⟩

/-- The entries of a list in which a later entry replaces an earlier one of
the same key. -/
def ofList (l : List (String × α)) : Table α :=
  l.foldl (fun t e => t.insert e.1 e.2) empty

/-- The keys, ascending. -/
def keys (t : Table α) : List String := t.entries.map Prod.fst

/-- The values, in key order. -/
def values (t : Table α) : List α := t.entries.map Prod.snd

/-- Number of entries. -/
def size (t : Table α) : Nat := t.entries.length

-- ======================================================== what they hold

private theorem find_insertEntry (k k' : String) (v : α)
    {l : List (String × α)} (h : l.Pairwise (fun a b => a.1 < b.1)) :
    (insertEntry k v l).find? (fun e => e.1 == k')
      = if k' = k then some (k, v) else l.find? (fun e => e.1 == k') := by
  induction l with
  | nil =>
    by_cases hk : k' = k
    · simp [insertEntry, hk]
    · simp [insertEntry, hk, Ne.symm hk]
  | cons d rest ih =>
    have hd := List.pairwise_cons.1 h
    have hstep (p : String × α) (l : List (String × α)) :
        (p :: l).find? (fun e => e.1 == k')
          = if p.1 = k' then some p else l.find? (fun e => e.1 == k') := by
      by_cases hp : p.1 = k' <;> simp [hp]
    unfold insertEntry
    split
    · rw [hstep]
      by_cases hk : k' = k
      · simp [hk]
      · simp [hk, Ne.symm hk]
    · split
      · rename_i heq
        rw [hstep, hstep]
        by_cases hk : k' = k
        · simp [hk]
        · have : d.1 ≠ k' := fun hc => hk (by rw [← hc, heq])
          simp [hk, Ne.symm hk, this]
      · rename_i hne
        rw [hstep, hstep, ih hd.2]
        by_cases hdk : d.1 = k'
        · have : k' ≠ k := fun hc => hne (by rw [← hc, hdk])
          simp [hdk, this]
        · simp [hdk]

/-- Writing a key changes the look-up of that key alone. -/
theorem find?_insert (t : Table α) (k k' : String) (v : α) :
    (t.insert k v).find? k' = if k' = k then some v else t.find? k' := by
  unfold find? insert
  rw [find_insertEntry k k' v t.sorted]
  split <;> simp

@[simp] theorem find?_empty (k : String) : (empty : Table α).find? k = none :=
  rfl

/-- Erasing a key changes the look-up of that key alone. -/
theorem find?_erase (t : Table α) (k k' : String) :
    (t.erase k).find? k' = if k' = k then none else t.find? k' := by
  unfold find? erase
  rw [List.find?_filter]
  by_cases hk : k' = k
  · subst hk
    simp only [if_true]
    rw [List.find?_eq_none.2]
    · rfl
    · intro e _ he
      simp at he
  · simp only [hk, if_false]
    congr 2
    funext e
    by_cases he : e.1 = k'
    · simp [he, hk]
    · simp [he]

-- ================================================ what determines a table

/-- Entries in ascending order have different keys. -/
private theorem eq_of_key_eq {l : List (String × α)}
    (h : l.Pairwise (fun a b => a.1 < b.1)) :
    ∀ a ∈ l, ∀ b ∈ l, a.1 = b.1 → a = b := by
  induction h with
  | nil =>
    intro a ha
    cases ha
  | cons hhead _ ih =>
    intro a ha b hb hab
    rcases List.mem_cons.1 ha with rfl | ha'
    · rcases List.mem_cons.1 hb with rfl | hb'
      · rfl
      · exact absurd (hab ▸ hhead b hb') (String.lt_irrefl _)
    · rcases List.mem_cons.1 hb with rfl | hb'
      · exact absurd (hab ▸ hhead a ha') (String.lt_irrefl _)
      · exact ih a ha' b hb' hab

/-- A table holds exactly the entries that look-ups find. -/
theorem mem_entries_iff (t : Table α) (k : String) (v : α) :
    (k, v) ∈ t.entries ↔ t.find? k = some v := by
  unfold find?
  constructor
  · intro hmem
    cases hfind : t.entries.find? (fun e => e.1 == k) with
    | none =>
      have hne := List.find?_eq_none.1 hfind (k, v) hmem
      simp at hne
    | some e =>
      have hek : e.1 = k := by simpa using List.find?_some hfind
      have heq := eq_of_key_eq t.sorted e (List.mem_of_find?_eq_some hfind)
        (k, v) hmem hek
      rw [heq]
      rfl
  · intro h
    obtain ⟨e, he, hv⟩ := Option.map_eq_some_iff.1 h
    have hek : e.1 = k := by simpa using List.find?_some he
    have hpair : (k, v) = e := by rw [← hek, ← hv]
    rw [hpair]
    exact List.mem_of_find?_eq_some he

theorem ext_entries {t u : Table α} (h : t.entries = u.entries) : t = u := by
  cases t
  cases u
  cases h
  rfl

/-- Tables that answer every look-up alike are the same table. -/
theorem ext_find? {t u : Table α} (h : ∀ k, t.find? k = u.find? k) :
    t = u := by
  have hnodup (t : Table α) : t.entries.Nodup := by
    refine t.sorted.imp ?_
    intro a b hlt heq
    rw [heq] at hlt
    exact String.lt_irrefl _ hlt
  have hperm : t.entries.Perm u.entries :=
    (List.perm_ext_iff_of_nodup (hnodup t) (hnodup u)).2 fun e => by
      rw [mem_entries_iff t e.1 e.2, mem_entries_iff u e.1 e.2, h]
  have heq : t.entries = u.entries :=
    hperm.eq_of_pairwise
      (fun a b _ _ hab hba =>
        absurd (String.lt_trans hab hba) (String.lt_irrefl _))
      t.sorted u.sorted
  exact ext_entries heq

private theorem insertEntry_of_lt {k : String} {v : α} {l : List (String × α)}
    (h : ∀ e ∈ l, e.1 < k) : insertEntry k v l = l ++ [(k, v)] := by
  induction l with
  | nil => rfl
  | cons d rest ih =>
    have hd : d.1 < k := h d (List.mem_cons_self ..)
    have hlt : ¬ k < d.1 :=
      fun hk => String.lt_irrefl _ (String.lt_trans hd hk)
    have hne : k ≠ d.1 := fun hk => String.lt_irrefl _ (hk ▸ hd)
    have hrest := ih fun e he => h e (List.mem_cons_of_mem _ he)
    rw [insertEntry, if_neg hlt, if_neg hne, hrest]
    rfl

/-- The entries of a table, put into one after the other, make it again. -/
theorem ofList_entries (t : Table α) : ofList t.entries = t := by
  have hfold : ∀ (l : List (String × α)) (u : Table α),
      (u.entries ++ l).Pairwise (fun a b => a.1 < b.1) →
        (l.foldl (fun t e => t.insert e.1 e.2) u).entries
          = u.entries ++ l := by
    intro l
    induction l with
    | nil =>
      intro u _
      exact (List.append_nil u.entries).symm
    | cons e rest ih =>
      intro u hsorted
      have hbefore : ∀ d ∈ u.entries, d.1 < e.1 := fun d hd =>
        (List.pairwise_append.1 hsorted).2.2 d hd e (List.mem_cons_self ..)
      have hinsert : (u.insert e.1 e.2).entries = u.entries ++ [e] :=
        insertEntry_of_lt hbefore
      have hrest := ih (u.insert e.1 e.2)
      rw [hinsert, List.append_assoc, List.singleton_append] at hrest
      exact hrest hsorted
  exact ext_entries (hfold t.entries empty t.sorted)

/-- A key that holds nothing can be erased without a trace. -/
theorem erase_eq_self {t : Table α} {k : String} (h : t.find? k = none) :
    t.erase k = t := by
  refine ext_find? fun k' => ?_
  rw [find?_erase]
  split
  · rename_i heq
    rw [heq, h]
  · rfl

/-- Erasing takes back what was put under a free key. -/
theorem erase_insert {t : Table α} {k : String} (h : t.find? k = none)
    (v : α) :
    (t.insert k v).erase k = t := by
  refine ext_find? fun k' => ?_
  rw [find?_erase, find?_insert]
  split
  · rename_i heq
    rw [heq, h]
  · rfl

/-- Of two values put under a key the second stays. -/
theorem insert_insert (t : Table α) (k : String) (v w : α) :
    (t.insert k v).insert k w = t.insert k w := by
  refine ext_find? fun k' => ?_
  rw [find?_insert, find?_insert, find?_insert]
  split <;> rfl

/-- An erased key takes what was put under it along. -/
theorem erase_insert_self (t : Table α) (k : String) (v : α) :
    (t.insert k v).erase k = t.erase k := by
  refine ext_find? fun k' => ?_
  rw [find?_erase, find?_erase, find?_insert]
  split <;> rfl

/-- Putting back what was erased gives the table there was. -/
theorem insert_erase_self {t : Table α} {k : String} {v : α}
    (h : t.find? k = some v) : (t.erase k).insert k v = t := by
  refine ext_find? fun k' => ?_
  rw [find?_insert, find?_erase]
  split
  · rename_i heq
    rw [heq, h]
  · rfl

/-- What is put under a key takes the place of what is there. -/
theorem insert_erase (t : Table α) (k : String) (v : α) :
    (t.erase k).insert k v = t.insert k v := by
  refine ext_find? fun k' => ?_
  rw [find?_insert, find?_insert, find?_erase]
  split <;> rfl

private theorem length_insertEntry {k : String} {v : α} {l : List (String × α)}
    (h : ∀ e ∈ l, e.1 ≠ k) : (insertEntry k v l).length = l.length + 1 := by
  induction l with
  | nil => rfl
  | cons d rest ih =>
    have hd : k ≠ d.1 := fun heq => h d (List.mem_cons_self ..) heq.symm
    have hrest := ih fun e he => h e (List.mem_cons_of_mem _ he)
    unfold insertEntry
    split
    · rfl
    · rw [List.length_cons, hrest, List.length_cons]

/-- A value under a free key is one entry more. -/
theorem size_insert {t : Table α} {k : String} (h : t.find? k = none) (v : α) :
    (t.insert k v).size = t.size + 1 := by
  refine length_insertEntry fun e he hek => ?_
  have hfind := (mem_entries_iff t e.1 e.2).1 he
  rw [hek, h] at hfind
  cases hfind

/-- Erasing a key that holds a value is one entry less. -/
theorem size_erase {t : Table α} {k : String} {v : α}
    (h : t.find? k = some v) :
    (t.erase k).size + 1 = t.size := by
  have hfree : (t.erase k).find? k = none := by rw [find?_erase, if_pos rfl]
  rw [← size_insert hfree v, insert_erase_self h]

end Table

end Fleetkeeper
