/-
Calls that overlap. Registering takes two steps, each of which happens at
once: a name is taken, then an address is bound, and where that fails the name
is removed again. In between anybody else may do the same, remove a name or
shut the storage down. `Traffic` is a storage with such calls under way, and a
schedule says whose step comes next.

# Whose registration is taken back

A call that fails undoes what its name leads to. That is the registration that
it has made itself unless somebody has removed it meanwhile; and if the name
was taken once more since then, it is the registration of another call, which
may be through with success (`undo_hits_another`).

Where no name is taken while another call to register it is still under way,
this cannot be: the name of a call then leads to its own registration or
nowhere (`Traffic.Own`), and a call undoes nothing but itself
(`undo_spares_others`). Two calls for a name that is in use are no harm, since
the second is refused.

# What holds on every schedule

A name leads to a registration of that name that is open, and every call to
register returns once (`Traffic.Sound`).
-/
import Fleetkeeper.Proofs.Node.Keeping
import Fleetkeeper.Proofs.Node.Registering

namespace Fleetkeeper.Storage

-- ============================================================ the traffic

/-- A step of a call: one of the two of a call to register, of which the second
goes by the place of the registration that the first has made, or the only one
of another call. -/
inductive Act where
  | enrol (info : NodeInfo)
  | settle (i : Slot)
  | remove (name : String)
  | shutdown

/-- A storage with calls to register under way. A call is told apart by the
place of the registration that it has made. -/
structure Traffic where
  storage : Storage := {}
  /-- The calls that are between their two steps. -/
  pending : List (Slot × NodeInfo) := []
  /-- What the calls that are through have returned. -/
  returned : List (Slot × Except Fault Slot) := []

/-- Take a step. A call that is not under way has none to take. -/
def Act.perform (env : Surroundings) (t : Traffic) : Act → Traffic
  | enrol info =>
    match t.storage.enrol env info with
    | (st, .ok i) =>
      { t with storage := st, pending := t.pending ++ [(i, info)] }
    | (_, .error _) => t
  | settle i =>
    match t.pending.find? (·.1 = i) with
    | none => t
    | some x =>
      let out := t.storage.settle env x.2 i
      { storage := out.1
        pending := t.pending.filter (·.1 ≠ i)
        returned := t.returned ++ [(i, out.2.1)] }
  | remove name => { t with storage := (t.storage.remove name).1 }
  | shutdown => { t with storage := t.storage.shutdown.1 }

/-- The steps of any number of calls, in the order in which they come, each
with what the storage finds around it. -/
abbrev Schedule := List (Surroundings × Act)

namespace Traffic

/-- The traffic behind all steps of a schedule. -/
def after (t : Traffic) : Schedule → Traffic
  | [] => t
  | (env, a) :: rest => (a.perform env t).after rest

/-- No name that is free is taken while another call to register it is under
way. -/
def Clear (t : Traffic) : Schedule → Prop
  | [] => True
  | (env, a) :: rest =>
    (∀ info, a = .enrol info → t.storage.slot? info.name = none →
      ∀ x ∈ t.pending, x.2.name ≠ info.name)
    ∧ (a.perform env t).Clear rest

/-- The places of all calls that have made a registration. -/
def calls (t : Traffic) : List Slot :=
  t.pending.map Prod.fst ++ t.returned.map Prod.fst

end Traffic

-- ================================================== steps on the storage

variable {st st' : Storage} {env : Surroundings} {info : NodeInfo} {i j : Slot}
  {name : String}

/-- Every name leads to a registration of that name that is open. -/
def Open (st : Storage) : Prop :=
  ∀ name i, st.slot? name = some i →
    ∃ r, st.at? i = some r ∧ r.name = name ∧ r.closed = false

/-- All names and registrations are as they were, but for that at `i`, which is
called as before and open if it was. -/
structure Tended (i : Slot) (st st' : Storage) : Prop where
  names : st'.names = st.names
  length : st'.slots.length = st.slots.length
  each : ∀ j r, st.at? j = some r → ∃ r', st'.at? j = some r'
    ∧ r'.name = r.name ∧ r'.closed = r.closed ∧ (j ≠ i → r' = r)

/-- All names that lead elsewhere than to `i`, and all registrations but that
at `i`, are as they were. -/
structure Spares (i : Slot) (st st' : Storage) : Prop where
  names : ∀ name j, j ≠ i → st.slot? name = some j → st'.slot? name = some j
  places : ∀ j r, j ≠ i → st.at? j = some r → st'.at? j = some r

theorem Tended.slot?_eq (h : Tended i st st') (name : String) :
    st'.slot? name = st.slot? name :=
  congrArg (Table.find? · name) h.names

theorem Tended.spares (h : Tended i st st') : Spares i st st' where
  names name j _ hslot := (h.slot?_eq name).trans hslot
  places j r hj hat := by
    obtain ⟨r', hat', -, -, hsame⟩ := h.each j r hat
    rw [hat', hsame hj]

theorem Tended.open (h : Tended i st st') (hopen : st.Open) : st'.Open := by
  intro name j hslot
  rw [h.slot?_eq] at hslot
  obtain ⟨r, hat, hname, hclosed⟩ := hopen name j hslot
  obtain ⟨r', hat', hname', hclosed', -⟩ := h.each j r hat
  exact ⟨r', hat', hname'.trans hname, hclosed'.trans hclosed⟩

/-- Binding leaves a registration its name, and open if it was. -/
theorem tended_of_bind {r : Registration} (hat : st.at? i = some r)
    (services : Services) (address : String) :
    Tended i st (st.commit i (r.bind services address)).1 := by
  obtain ⟨client, poller, hstate⟩ :=
    (Registration.binding_of_bind services address r).state_eq
  refine ⟨rfl, List.length_set, ?_⟩
  intro j r' hat'
  rw [at?_commit hat]
  by_cases hij : i = j
  · have hsame : r = r' := Option.some.inj (hat.symm.trans (hij ▸ hat'))
    rw [if_pos hij, hstate, ← hsame]
    exact ⟨_, rfl, rfl, rfl, fun hne => absurd hij.symm hne⟩
  · rw [if_neg hij]
    exact ⟨r', hat', rfl, rfl, fun _ => rfl⟩

/-- The second step of registering: the registration is tended, and then the
call is through, or its name is removed. -/
theorem settle_cases (env : Surroundings) (info : NodeInfo) (i : Slot)
    (st : Storage) :
    ∃ st₁, Tended i st st₁
      ∧ ((st.settle env info i).1 = st₁ ∧ (st.settle env info i).2.1 = .ok i
        ∨ (st.settle env info i).1 = (st₁.remove info.name).1
          ∧ ∃ f, (st.settle env info i).2.1 = .error f) := by
  unfold settle
  dsimp only
  split
  case h_1 address r _ hat =>
    refine ⟨_, tended_of_bind hat (st.services env st.clusterOf) address, ?_⟩
    split
    case h_1 => exact Or.inl ⟨rfl, rfl⟩
    case h_2 f _ =>
      split
      case h_1 => exact Or.inr ⟨rfl, f, rfl⟩
      case h_2 gone _ => exact Or.inr ⟨rfl, gone, rfl⟩
  case h_2 =>
    refine ⟨st, ⟨rfl, rfl, ?_⟩, Or.inl ⟨rfl, rfl⟩⟩
    intro j r hat
    exact ⟨r, hat, rfl, rfl, fun _ => rfl⟩

/-- Closing registrations leaves the names. -/
theorem names_teardowns (places : List Slot) (st : Storage) :
    (teardowns places st).1.names = st.names := by
  induction places generalizing st with
  | nil => rfl
  | cons i rest ih =>
    have hfirst : (st.teardownAt i).1.names = st.names := by
      unfold teardownAt
      split <;> rfl
    exact (ih _).trans hfirst

theorem slot?_shutdown (name : String) (st : Storage) :
    st.shutdown.1.slot? name = none := by
  unfold slot? shutdown
  rw [names_teardowns]
  rfl

/-- Removing a name takes out that name alone. -/
theorem slot?_remove (name other : String) (st : Storage) :
    (st.remove name).1.slot? other = if other
      = name then none else st.slot? other := by
  unfold remove
  split
  case h_1 hnone =>
    by_cases hother : other = name
    · rw [if_pos hother, hother]
      exact hnone
    · rw [if_neg hother]
  case h_2 i _ =>
    have hnames :
        ({ st with names := st.names.erase name }.teardownAt i).1.names
          = st.names.erase name := names_teardowns [i] _
    unfold slot?
    dsimp only
    rw [hnames]
    exact Table.find?_erase ..

/-- Removing a name closes what it leads to, and no other registration. -/
theorem at?_remove (h : st.slot? name ≠ some j) :
    (st.remove name).1.at? j = st.at? j := by
  unfold remove
  split
  case h_1 => rfl
  case h_2 i hslot =>
    have hij : i ≠ j := fun heq => h (heq ▸ hslot)
    unfold teardownAt
    dsimp only
    split
    case h_1 r hat => exact (at?_commit hat _ j).trans (if_neg hij)
    case h_2 => rfl

/-- Where the name of a call leads to its own registration or nowhere, its
second step leaves all others alone. -/
theorem spares_settle (env : Surroundings)
    (hown : ∀ j, st.slot? info.name = some j → j = i) :
    Spares i st (st.settle env info i).1 := by
  obtain ⟨st₁, htended, ⟨hst, -⟩ | ⟨hst, -⟩⟩ := settle_cases env info i st
  · rw [hst]
    exact htended.spares
  rw [hst]
  refine ⟨?_, ?_⟩
  · intro name j hj hslot
    rw [slot?_remove, if_neg, htended.slot?_eq]
    · exact hslot
    · rintro rfl
      exact hj (hown j hslot)
  · intro j r hj hat
    rw [at?_remove]
    · exact htended.spares.places j r hj hat
    · rw [htended.slot?_eq]
      intro hslot
      exact hj (hown j hslot)

/-- What is true of any two registrations is true of one and what becomes of
it; of interest is how many there are. -/
theorem tame_true : Tame fun _ _ => True where
  refl _ := trivial
  trans _ _ := trivial
  closed _ := trivial
  bound _ _ _ := trivial
  looked _ _ := trivial

theorem length_remove (name : String) (st : Storage) :
    (st.remove name).1.slots.length = st.slots.length :=
  (keeps_remove tame_true name st).length

theorem length_shutdown (st : Storage) :
    st.shutdown.1.slots.length = st.slots.length :=
  (keeps_shutdown tame_true st).length

/-- A name that is removed no longer leads to the registration that was closed;
all others lead where they did. -/
theorem open_remove (hopen : st.Open) (name : String) :
    (st.remove name).1.Open := by
  intro other j hslot
  rw [slot?_remove] at hslot
  split at hslot
  case isTrue => cases hslot
  case isFalse hother =>
    obtain ⟨r, hat, hname, hclosed⟩ := hopen other j hslot
    refine ⟨r, ?_, hname, hclosed⟩
    rw [at?_remove, hat]
    intro hremoved
    obtain ⟨r', hat', hname', -⟩ := hopen name j hremoved
    have hsame : r = r' := Option.some.inj (hat.symm.trans hat')
    exact hother (hname.symm.trans (hsame ▸ hname'))

/-- The storage behind a first step that was not refused. -/
theorem open_enrolled (hopen : st.Open) (info : NodeInfo) :
    Open { st with slots := st.slots ++ [Registration.ofInfo info],
                   names := st.names.insert info.name st.slots.length } := by
  intro other j hslot
  replace hslot := (Table.find?_insert ..).symm.trans hslot
  have hat : ∀ r, (st.slots ++ [Registration.ofInfo info])[j]? = some r
      ↔ (if j = st.slots.length then some (Registration.ofInfo info) else
          st.at? j)
        = some r := by
    intro r
    rw [getElem?_concat]
    rfl
  split at hslot
  case isTrue hother =>
    cases hslot
    exact ⟨Registration.ofInfo info, (hat _).2 (if_pos rfl), hother.symm, rfl⟩
  case isFalse =>
    obtain ⟨r, hr, hname, hclosed⟩ := hopen other j hslot
    have hold : j ≠ st.slots.length :=
      Nat.ne_of_lt (List.getElem?_eq_some_iff.1 hr).1
    exact ⟨r, (hat r).2 ((if_neg hold).trans hr), hname, hclosed⟩

-- ================================================== steps in the traffic

variable {t t' : Traffic} {a : Act}

/-- The ways in which a step in the traffic can go. -/
inductive Taken (t : Traffic) : Act → Traffic → Prop where
  | refused {info : NodeInfo} : Taken t (.enrol info) t
  | enrolled {info : NodeInfo} (hfree : t.storage.slot? info.name = none) :
      Taken t (.enrol info)
        { t with
          storage := { t.storage with
            slots := t.storage.slots ++ [Registration.ofInfo info]
            names := t.storage.names.insert info.name t.storage.slots.length }
          pending := t.pending ++ [(t.storage.slots.length, info)] }
  | idle {i : Slot} : Taken t (.settle i) t
  | done {x : Slot × NodeInfo} {st : Storage} (hx : x ∈ t.pending)
      (htended : Tended x.1 t.storage st) :
      Taken t (.settle x.1)
        { storage := st
          pending := t.pending.filter (·.1 ≠ x.1)
          returned := t.returned ++ [(x.1, .ok x.1)] }
  | undone {x : Slot × NodeInfo} {st : Storage} {f : Fault}
      (hx : x ∈ t.pending) (htended : Tended x.1 t.storage st) :
      Taken t (.settle x.1)
        { storage := (st.remove x.2.name).1
          pending := t.pending.filter (·.1 ≠ x.1)
          returned := t.returned ++ [(x.1, .error f)] }
  | removed {name : String} :
      Taken t (.remove name) { t with storage := (t.storage.remove name).1 }
  | shut : Taken t .shutdown { t with storage := t.storage.shutdown.1 }

/-- Every step in the traffic goes in one of the ways, by cases on what is
asked and on how it is answered. -/
theorem taken_of_perform (env : Surroundings) (a : Act) (t : Traffic) :
    Taken t a (a.perform env t) := by
  cases a with
  | enrol info =>
    rcases enrol_cases env info t.storage with ⟨e, henrol⟩ | ⟨-, hfree, henrol⟩
    · have hperform : (Act.enrol info).perform env t = t := by
        simp only [Act.perform, henrol]
      rw [hperform]
      exact .refused
    · simp only [Act.perform, henrol]
      exact .enrolled hfree
  | settle i =>
    simp only [Act.perform]
    split
    case h_1 => exact .idle
    case h_2 x hfind =>
      have hx := List.mem_of_find?_eq_some hfind
      obtain rfl : x.1 = i := by simpa using List.find?_some hfind
      obtain ⟨st, htended, ⟨hst, hok⟩ | ⟨hst, f, herror⟩⟩ :=
        settle_cases env x.2 x.1 t.storage
      · rw [hst, hok]
        exact .done hx htended
      · rw [hst, herror]
        exact .undone hx htended
  | remove name => exact .removed
  | shutdown => exact .shut

/-- Names lead to open registrations of theirs, and every call to register is
there once, under a place that has been made. -/
structure Traffic.Sound (t : Traffic) : Prop where
  storage : t.storage.Open
  made : ∀ i ∈ t.calls, i < t.storage.slots.length
  once : t.calls.Nodup

/-- The name of a call that is under way leads to its own registration or
nowhere. -/
def Traffic.Own (t : Traffic) : Prop :=
  ∀ x ∈ t.pending, ∀ j, t.storage.slot? x.2.name = some j → j = x.1

/-- A new call comes under a place of its own. -/
theorem calls_enrolled (info : NodeInfo) (hsound : t.Sound) :
    (t.pending ++ [(t.storage.slots.length, info)]).map Prod.fst
      ++ t.returned.map Prod.fst
      = t.pending.map Prod.fst
        ++ t.storage.slots.length :: t.returned.map Prod.fst
    ∧ t.storage.slots.length ∉ t.calls := by
  refine ⟨by simp, ?_⟩
  intro hin
  exact absurd (hsound.made _ hin) (Nat.lt_irrefl _)

/-- A call that takes its second step is one of those under way before, and one
of those that are through afterwards. -/
theorem calls_settled {x : Slot × NodeInfo} (result : Except Fault Slot)
    (hx : x ∈ t.pending) (honce : t.calls.Nodup) :
    let later := (t.pending.filter (·.1 ≠ x.1)).map Prod.fst
      ++ (t.returned ++ [(x.1, result)]).map Prod.fst
    later.Nodup ∧ ∀ i ∈ later, i ∈ t.calls := by
  intro later
  have hfewer : ((t.pending.filter (·.1 ≠ x.1)).map Prod.fst
      ++ t.returned.map Prod.fst).Sublist t.calls :=
    (List.filter_sublist.map Prod.fst).append (List.Sublist.refl _)
  have hlater : later = ((t.pending.filter (·.1 ≠ x.1)).map Prod.fst
      ++ t.returned.map Prod.fst) ++ [x.1] := by
    simp [later]
  have hin : x.1 ∈ t.pending.map Prod.fst := List.mem_map_of_mem hx
  have hnew : x.1 ∉ (t.pending.filter (·.1 ≠ x.1)).map Prod.fst
      ++ t.returned.map Prod.fst := by
    intro hmem
    rcases List.mem_append.1 hmem with hmem | hmem
    · simp at hmem
    · exact List.disjoint_of_nodup_append honce hin hmem
  rw [hlater]
  constructor
  · exact List.nodup_append_comm.1
      (List.nodup_cons.2 ⟨hnew, honce.sublist hfewer⟩)
  · intro i hi
    rcases List.mem_append.1 hi with hi | hi
    · exact hfewer.subset hi
    · rw [List.mem_singleton.1 hi]
      exact List.mem_append_left _ hin

/-- Every step keeps this. -/
theorem sound_taken (h : t.Sound) (hstep : Taken t a t') : t'.Sound := by
  cases hstep with
  | refused | idle => exact h
  | @enrolled info hfree =>
    obtain ⟨hcalls, hnew⟩ := calls_enrolled info h
    refine ⟨open_enrolled h.storage info, ?_, ?_⟩
    · intro i hi
      unfold Traffic.calls at hi
      rw [hcalls, List.mem_append, List.mem_cons] at hi
      show i < (t.storage.slots ++ [_]).length
      rw [List.length_append, List.length_singleton]
      rcases hi with hi | rfl | hi
      · exact Nat.lt_succ_of_lt (h.made i (List.mem_append_left _ hi))
      · exact Nat.lt_succ_self _
      · exact Nat.lt_succ_of_lt (h.made i (List.mem_append_right _ hi))
    · unfold Traffic.calls
      rw [hcalls, List.nodup_middle]
      exact List.nodup_cons.2 ⟨hnew, h.once⟩
  | @done x st hx htended =>
    obtain ⟨honce, hmade⟩ := calls_settled (.ok x.1) hx h.once
    refine ⟨htended.open h.storage, ?_, honce⟩
    intro i hi
    exact htended.length ▸ h.made i (hmade i hi)
  | @undone x st f hx htended =>
    obtain ⟨honce, hmade⟩ := calls_settled (.error f) hx h.once
    refine ⟨open_remove (htended.open h.storage) _, ?_, honce⟩
    intro i hi
    show i < (st.remove x.2.name).1.slots.length
    rw [length_remove, htended.length]
    exact h.made i (hmade i hi)
  | @removed name =>
    refine ⟨open_remove h.storage name, ?_, h.once⟩
    intro i hi
    show i < (t.storage.remove name).1.slots.length
    rw [length_remove]
    exact h.made i hi
  | shut =>
    refine ⟨?_, ?_, h.once⟩
    · intro name i hslot
      cases (slot?_shutdown name t.storage).symm.trans hslot
    · intro i hi
      show i < t.storage.shutdown.1.slots.length
      rw [length_shutdown]
      exact h.made i hi

/-- Where no name is taken while it is being registered, calls keep to their
own: a name that comes to lead to a new registration was that of no call. -/
theorem own_taken (h : t.Own)
    (hclear : ∀ info, a = .enrol info → t.storage.slot? info.name = none →
      ∀ x ∈ t.pending, x.2.name ≠ info.name)
    (hstep : Taken t a t') : t'.Own := by
  intro x hx j hj
  cases hstep with
  | refused | idle => exact h x hx j hj
  | @enrolled info hfree =>
    replace hj := (Table.find?_insert ..).symm.trans hj
    rcases List.mem_append.1 hx with hx | hx
    · rw [if_neg (hclear info rfl hfree x hx)] at hj
      exact h x hx j hj
    · cases List.mem_singleton.1 hx
      rw [if_pos rfl] at hj
      exact (Option.some.inj hj).symm
  | done _ htended =>
    rw [htended.slot?_eq] at hj
    exact h x (List.mem_filter.1 hx).1 j hj
  | undone _ htended =>
    rw [slot?_remove, htended.slot?_eq] at hj
    split at hj
    case isTrue => cases hj
    case isFalse => exact h x (List.mem_filter.1 hx).1 j hj
  | removed =>
    rw [slot?_remove] at hj
    split at hj
    case isTrue => cases hj
    case isFalse => exact h x hx j hj
  | shut =>
    rw [slot?_shutdown] at hj
    cases hj

/-- A registered node stays so in a step that neither removes it nor shuts
down, unless its own call fails. -/
theorem registered_taken (hown : t.Own) (hslot : t.storage.slot? name = some i)
    (hremove : a ≠ .remove name) (hshutdown : a ≠ .shutdown)
    (hstep : Taken t a t') :
    t'.storage.slot? name = some i ∨ ∃ f, (i, .error f) ∈ t'.returned := by
  cases hstep with
  | refused | idle => exact Or.inl hslot
  | @enrolled info hfree =>
    refine Or.inl ((Table.find?_insert ..).trans ((if_neg ?_).trans hslot))
    rintro rfl
    rw [hfree] at hslot
    cases hslot
  | done _ htended => exact Or.inl ((htended.slot?_eq name).trans hslot)
  | @undone x st f hx htended =>
    by_cases hname : name = x.2.name
    · -- the name is that of the call, so its registration is the call's own
      subst hname
      obtain rfl := hown x hx i hslot
      exact Or.inr ⟨f, by simp⟩
    · refine Or.inl ?_
      rw [slot?_remove, if_neg hname, htended.slot?_eq]
      exact hslot
  | @removed other =>
    refine Or.inl ((slot?_remove ..).trans ((if_neg ?_).trans hslot))
    rintro rfl
    exact hremove rfl
  | shut => exact absurd rfl hshutdown

/-- What was returned stays returned. -/
theorem returned_taken (hstep : Taken t a t') : t.returned ⊆ t'.returned := by
  cases hstep with
  | done | undone => exact List.subset_append_left ..
  | refused | idle | enrolled | removed | shut => exact List.Subset.refl _

-- ============================================================= schedules

theorem sound_after (schedule : Schedule) (h : t.Sound) :
    (t.after schedule).Sound := by
  induction schedule generalizing t with
  | nil => exact h
  | cons x rest ih => exact ih (sound_taken h (taken_of_perform x.1 x.2 t))

theorem own_after {schedule : Schedule} (hclear : t.Clear schedule)
    (h : t.Own) :
    (t.after schedule).Own := by
  induction schedule generalizing t with
  | nil => exact h
  | cons x rest ih =>
    exact ih hclear.2 (own_taken h hclear.1 (taken_of_perform x.1 x.2 t))

theorem returned_after (schedule : Schedule) (t : Traffic) :
    t.returned ⊆ (t.after schedule).returned := by
  induction schedule generalizing t with
  | nil => exact List.Subset.refl _
  | cons x rest ih =>
    exact List.Subset.trans (returned_taken (taken_of_perform x.1 x.2 t))
      (ih _)

/-- A registered node stays so until it is removed or the storage is shut down,
unless its own call fails. By induction on the steps. -/
theorem registered_after {later : Schedule} (hclear : t.Clear later)
    (hown : t.Own) (hslot : t.storage.slot? name = some i)
    (hlater : ∀ x ∈ later, x.2 ≠ .remove name ∧ x.2 ≠ .shutdown) :
    (t.after later).storage.slot? name = some i
      ∨ ∃ f, (i, .error f) ∈ (t.after later).returned := by
  induction later generalizing t with
  | nil => exact Or.inl hslot
  | cons x rest ih =>
    have hstep := taken_of_perform x.1 x.2 t
    obtain ⟨hremove, hshutdown⟩ := hlater x (List.mem_cons_self ..)
    rcases registered_taken hown hslot hremove hshutdown hstep with
      hslot | ⟨f, hf⟩
    · exact ih hclear.2 (own_taken hown hclear.1 hstep) hslot
        fun y hy => hlater y (List.mem_cons_of_mem _ hy)
    · exact Or.inr ⟨f, returned_after rest _ hf⟩

/-- A call has returned one thing only. -/
theorem Traffic.Sound.returned_once (h : t.Sound) {a b : Except Fault Slot}
    (ha : (i, a) ∈ t.returned) (hb : (i, b) ∈ t.returned) : a = b := by
  have hnodup : (t.returned.map Prod.fst).Nodup :=
    (List.nodup_append.1 h.once).2.1
  exact congrArg Prod.snd (List.inj_on_of_nodup_map hnodup ha hb rfl)

-- ============================================================== all of it

/-- For all calls that overlap, as long as no name is taken while another call
to register it is still under way.

A call to register that takes its second step, and fails or not, leaves all
registrations but its own as they are, and under their names. And a node whose
registration was made stays registered and open, once its call has returned
that all is well, until its name is removed or the storage is shut down. -/
theorem undo_spares_others (schedule : Schedule)
    (hclear : Traffic.Clear {} schedule) :
    let t := Traffic.after {} schedule
    (∀ env, ∀ x ∈ t.pending,
        Spares x.1 t.storage (t.storage.settle env x.2 x.1).1)
      ∧ ∀ name i later, t.storage.slot? name = some i → t.Clear later →
        (∀ x ∈ later, x.2 ≠ .remove name ∧ x.2 ≠ .shutdown) →
        (i, .ok i) ∈ (t.after later).returned →
        ∃ r, (t.after later).storage.find? name = some r ∧ r.name = name
          ∧ r.closed = false := by
  intro t
  have hsound : t.Sound := by
    refine sound_after schedule ⟨?_, ?_, List.nodup_nil⟩
    · intro name i hslot
      cases hslot
    · intro i hi
      cases hi
  have hown : t.Own := by
    refine own_after hclear ?_
    intro x hx
    cases hx
  refine ⟨fun env x hx => spares_settle env (hown x hx), ?_⟩
  intro name i later hslot hclear hlater hok
  have hend := sound_after later hsound
  rcases registered_after hclear hown hslot hlater with hslot | ⟨f, hf⟩
  · obtain ⟨r, hat, hname, hopen⟩ := hend.storage name i hslot
    refine ⟨r, ?_, hname, hopen⟩
    unfold find?
    rw [hslot]
    exact hat
  · cases hend.returned_once hok hf

/-- Two calls overlap, and the node of the first is registered. -/
def besides : Schedule :=
  [(oneEngine, .enrol (nodeAt "n1" "10.0.0.1:2375")),
   (oneEngine, .enrol (nodeAt "n2" "10.0.0.2:2375")),
   (oneEngine, .settle 0)]

/-- The address of the second cannot be bound. It leaves the first alone, which
stays registered. -/
theorem undo_spares_besides :
    let t := Traffic.after {} besides
    let t' := t.after [(oneEngine, .settle 1)]
    Traffic.Clear {} besides
      ∧ (1, .error (.docker "refused")) ∈ t'.returned
      ∧ Spares 1 t.storage t'.storage
      ∧ ∃ r, t'.storage.find? "n1" = some r ∧ r.name = "n1"
      ∧ r.closed = false := by
  intro t t'
  have hclear : Traffic.Clear {} besides := by
    refine ⟨?_, ?_, ?_, trivial⟩
    · intro info _ _ x hx
      cases hx
    · intro info hinfo _ x hx
      cases hinfo
      cases List.mem_singleton.1 hx
      decide
    · intro info hinfo
      cases hinfo
  obtain ⟨hspares, hstays⟩ := undo_spares_others besides hclear
  refine ⟨hclear, List.mem_of_getElem? (i := 1) rfl, ?_, ?_⟩
  · exact hspares oneEngine (1, nodeAt "n2" "10.0.0.2:2375")
      (List.mem_singleton_self _)
  · refine hstays "n1" 0 [(oneEngine, .settle 1)] rfl ⟨?_, trivial⟩ ?_ ?_
    · intro info hinfo
      cases hinfo
    · intro x hx
      cases List.mem_singleton.1 hx
      exact ⟨nofun, nofun⟩
    · exact List.mem_of_getElem? (i := 0) rfl

/-- A call has taken a name, which is removed at once; another call takes it
again and is through. -/
def overtaken : Schedule :=
  [(oneEngine, .enrol (nodeAt "n1" "10.0.0.1:2375")),
   (oneEngine, .remove "n1"),
   (oneEngine, .enrol (nodeAt "n1" "10.0.0.1:2375")),
   (oneEngine, .settle 1)]

/-- The first call then fails, since its registration is closed, and takes back
the registration of the other one: the node is registered no more and the
registration that was returned is closed, though nobody has removed the name
since it was taken again. -/
theorem undo_hits_another :
    let t := Traffic.after {} overtaken
    let t' := t.after [(oneEngine, .settle 0)]
    (1, .ok 1) ∈ t.returned ∧ t.storage.slot? "n1" = some 1
      ∧ (∃ r, t.storage.at? 1 = some r ∧ r.closed = false)
      ∧ (∃ f, (0, .error f) ∈ t'.returned)
      ∧ t'.storage.slot? "n1" = none
      ∧ ∃ r, t'.storage.at? 1 = some r ∧ r.closed = true := by
  intro t t'
  refine ⟨List.mem_of_getElem? (i := 0) rfl, rfl, ⟨_, rfl, rfl⟩, ?_, rfl,
    _, rfl, rfl⟩
  exact ⟨_, List.mem_of_getElem? (i := 1) rfl⟩

end Fleetkeeper.Storage
