/-
Orders to a guarded storage as its callers give them, and what they get back.

A caller has no places. It knows a node by its name, and a registration that
it once got hold of as the first, the second and so on that was made under a
name (`Storage.place?`). So an order means the same wherever the registrations
of other nodes stand, and it still means a registration that has lost its name
or that another one has followed.

The access list is part of what orders work on. Orders change it, and then it
counts for all that come later; what surroundings say of it counts for
nothing.
-/
import Mathlib.Data.List.Nodup
import Fleetkeeper.Proofs.Node.Registry

namespace Fleetkeeper

namespace Registration

-- =============================================================== deeds

/-- What can be done to a registration by whoever has it. -/
inductive Deed where
  | ask (q : Request)
  /-- An event of its engine comes in. -/
  | accept (e : EngineEvent)
  /-- Its poller moves on. -/
  | moveOn (phase : PollPhase)

def Deed.perform (env : Services) (r : Registration) : Deed → Step Answer
  | ask q =>
    let s := q.perform env r
    ⟨s.state, q.answer env r, s.effects⟩
  | accept e => ⟨r, .done (.ok ()), r.acceptEvent env e⟩
  | moveOn phase => ⟨r.inPhase phase, .done (.ok ()), []⟩

/-- The caller whose right to update the node is looked at. -/
def Deed.caller? : Deed → Option Caller
  | ask q => q.caller?
  | accept _ | moveOn _ => none

theorem Deed.perform_name (env : Services) (d : Deed) (r : Registration) :
    (d.perform env r).state.name = r.name := by
  cases d with
  | ask q => exact Registration.perform_name env q r
  | accept | moveOn => rfl

theorem startsIn_acceptEvent (env : Services) (e : EngineEvent)
    (r : Registration) :
    Storage.startsIn (r.acceptEvent env e) = 0 := by
  unfold acceptEvent
  split
  · split <;> rfl
  · rfl

end Registration

namespace Storage

variable {st : Storage} {name : String} {i j : Slot} {k : Nat}
  {r : Registration}

-- ========================================== registrations made under a name

/-- The places of all registrations that were made under a name, in order. -/
def places (name : String) (st : Storage) : List Slot :=
  (List.range st.slots.length).filter fun i => (st.at? i).any (·.name = name)

/-- Where the registration stands that is number `k` of those made under a
name, from 0 on. -/
def place? (name : String) (k : Nat) (st : Storage) : Option Slot :=
  (st.places name)[k]?

/-- The number of a registration among those made under a name. -/
def number (name : String) (st : Storage) (i : Slot) : Nat :=
  (st.places name).idxOf i

/-- A registration by name and number, with its place. -/
def made? (name : String) (k : Nat) (st : Storage) :
    Option (Slot × Registration) := do
  let i ← st.place? name k
  let r ← st.at? i
  pure (i, r)

/-- The places of a name are those where a registration bears it. -/
theorem mem_places :
    i ∈ st.places name ↔ ∃ r, st.at? i = some r ∧ r.name = name := by
  unfold places
  rw [List.mem_filter, List.mem_range]
  constructor
  · rintro ⟨-, hi⟩
    cases hat : st.at? i with
    | none => simp [hat] at hi
    | some r => exact ⟨r, rfl, by simpa [hat] using hi⟩
  · rintro ⟨r, hat, rfl⟩
    exact ⟨(List.getElem?_eq_some_iff.1 hat).1, by simp [hat]⟩

theorem nodup_places (name : String) (st : Storage) : (st.places name).Nodup :=
  List.nodup_range.filter _

/-- The registration that was the `k`-th of its name, at its place. -/
theorem made?_eq_some :
    st.made? name k = some (i, r)
      ↔ st.place? name k = some i ∧ st.at? i = some r := by
  unfold made?
  constructor
  · intro h
    obtain ⟨i', hplace, h⟩ := Option.bind_eq_some_iff.1 h
    obtain ⟨r', hat, h⟩ := Option.bind_eq_some_iff.1 h
    cases h
    exact ⟨hplace, hat⟩
  · rintro ⟨hplace, hat⟩
    rw [hplace]
    show (st.at? i).bind _ = _
    rw [hat]
    rfl

/-- A registration made under a name has it for good. -/
theorem name_of_made? (h : st.made? name k = some (i, r)) : r.name = name := by
  obtain ⟨hplace, hat⟩ := made?_eq_some.1 h
  obtain ⟨r', hat', hname⟩ := mem_places.1 (List.mem_of_getElem? hplace)
  cases hat.symm.trans hat'
  exact hname

/-- Requests lead from the empty storage to this one. -/
def Reached (st : Storage) : Prop := ∃ run : Run, (performAll run {}).1 = st

theorem Reached.named (h : st.Reached) : st.Named := by
  obtain ⟨run, rfl⟩ := h
  exact named_performAll run

end Storage

-- ============================================================== orders

/-- A storage and the access list that guards it. -/
structure Guarded where
  access : AccessControl
  storage : Storage

/-- What can be ordered. -/
inductive Order where
  | grant (principal : String) (g : Grant)
  | revokeAll (principal : String)
  | register (info : NodeInfo)
  | getOrRegister (name : String)
  | get (name : String)
  | remove (name : String)
  | list
  | shutdown
  /-- Something is done to number `k` of the registrations of a name. -/
  | call (name : String) (k : Nat) (d : Registration.Deed)

/-- What an order gives back. A registration is given as its number. -/
inductive Answer where
  | number (result : Except Fault Nat)
  | done (result : Except Fault Unit)
  | infos (infos : List NodeInfo)
  | called (answer : Registration.Answer)
  /-- No such registration was ever made. -/
  | nobody

namespace Guarded

/-- What orders find around them, with the access list that counts. -/
def around (env : Surroundings) (g : Guarded) : Surroundings :=
  { env with access := g.access }

/-- What registrations find around them. -/
def services (env : Surroundings) (g : Guarded) : Services :=
  g.storage.services (g.around env) g.storage.clusterOf

/-- Carry out an order: what it leaves, what it gives back, what it tells. -/
def perform (env : Surroundings) (g : Guarded) :
    Order → Guarded × Answer × List Effect
  | .grant principal more =>
    ({ g with access := g.access.grant principal more }, .done (.ok ()), [])
  | .revokeAll principal =>
    ({ g with access := g.access.revokeAll principal }, .done (.ok ()), [])
  | .register info =>
    let (storage, result, effects) := g.storage.register (g.around env) info
    ({ g with storage }, .number (result.map (storage.number info.name)),
      effects)
  | .getOrRegister name =>
    let (storage, result, effects) :=
      g.storage.getOrRegister (g.around env) name
    ({ g with storage }, .number (result.map (storage.number name)), effects)
  | .get name =>
    (g, .number ((g.storage.get name).map (g.storage.number name)), [])
  | .remove name =>
    let (storage, result, effects) := g.storage.remove name
    ({ g with storage }, .done result, effects)
  | .list =>
    let (storage, infos, effects) := g.storage.list (g.around env)
    ({ g with storage }, .infos infos, effects)
  | .shutdown =>
    let (storage, effects) := g.storage.shutdown
    ({ g with storage }, .done (.ok ()), effects)
  | .call name k d =>
    match g.storage.made? name k with
    | some (i, r) =>
      let (storage, answer, effects) :=
        g.storage.commit i (d.perform (g.services env) r)
      ({ g with storage }, .called answer, effects)
    | none => (g, .nobody, [])

/-- Orders, each with what the storage finds around it. -/
abbrev Run := List (Surroundings × Order)

/-- Carry out orders one after the other; all that they tell. -/
def performAll : Run → Guarded → Guarded × List Effect
  | [], g => (g, [])
  | (env, o) :: rest, g =>
    let (g, _, told) := g.perform env o
    let (g, more) := performAll rest g
    (g, told ++ more)

/-- An order, what it found around it, and what it was carried out on. -/
structure Turn where
  env : Surroundings
  order : Order
  before : Guarded

def Turn.answer (t : Turn) : Answer := (t.before.perform t.env t.order).2.1

/-- A run, order by order. -/
def turns : Run → Guarded → List Turn
  | [], _ => []
  | (env, o) :: rest, g => ⟨env, o, g⟩ :: turns rest (g.perform env o).1

variable {g : Guarded} {env : Surroundings} {name : String} {k : Nat}
  {d : Registration.Deed}

theorem performAll_cons (env : Surroundings) (o : Order) (rest : Run)
    (g : Guarded) :
    performAll ((env, o) :: rest) g
      = ((performAll rest (g.perform env o).1).1,
          (g.perform env o).2.2 ++ (performAll rest (g.perform env o).1).2) :=
  rfl

/-- An order through a handle is carried out by the registration that the
handle was made for, registered or not. -/
theorem perform_call {i : Slot} {r : Registration}
    (hmade : g.storage.made? name k = some (i, r)) :
    g.perform env (.call name k d)
      = ({ g with
        storage := (g.storage.commit i (d.perform (g.services env) r)).1 },
          .called (d.perform (g.services env) r).result,
          (d.perform (g.services env) r).effects) := by
  unfold perform
  dsimp only
  rw [hmade]
  rfl

theorem perform_nobody (hmade : g.storage.made? name k = none) :
    g.perform env (.call name k d) = (g, .nobody, []) := by
  unfold perform
  dsimp only
  rw [hmade]

-- ===================================================== storages in a run

/-- A deed that leaves its registration as it was leaves the storage. -/
theorem commit_self {α : Type} {st : Storage} {i : Slot} {r : Registration}
    (a : α) {effects : List Effect} (hat : st.at? i = some r)
    (hstarts : Storage.startsIn effects = 0) :
    (st.commit i (⟨r, a, effects⟩ : Step α)).1 = st := by
  have hset : st.slots.set i r = st.slots := by
    obtain ⟨hlt, hget⟩ := List.getElem?_eq_some_iff.1 hat
    rw [← hget]
    exact List.set_getElem_self hlt
  unfold Storage.commit
  dsimp only
  rw [hset, hstarts]
  rfl

/-- To the storage an order is a request, or nothing. -/
theorem requests_of_perform (env : Surroundings) (o : Order) (g : Guarded) :
    ∃ run : Storage.Run,
      (g.perform env o).1.storage = (Storage.performAll run g.storage).1 := by
  cases o with
  | grant | revokeAll | get => exact ⟨[], rfl⟩
  | register info => exact ⟨[(g.around env, .register info)], rfl⟩
  | getOrRegister name => exact ⟨[(g.around env, .getOrRegister name)], rfl⟩
  | remove name => exact ⟨[(g.around env, .remove name)], rfl⟩
  | list => exact ⟨[(g.around env, .list)], rfl⟩
  | shutdown => exact ⟨[(g.around env, .shutdown)], rfl⟩
  | call name k d =>
    cases hmade : g.storage.made? name k with
    | none =>
      rw [perform_nobody hmade]
      exact ⟨[], rfl⟩
    | some found =>
      obtain ⟨i, r⟩ := found
      obtain ⟨-, hat⟩ := Storage.made?_eq_some.1 hmade
      rw [perform_call hmade]
      cases d with
      | ask q =>
        refine ⟨[(g.around env, .ask i q)], ?_⟩
        show _ = (g.storage.operate i _).1
        unfold Storage.operate
        rw [hat]
        rfl
      | moveOn phase =>
        refine ⟨[(g.around env, .moveOn i phase)], ?_⟩
        show _ = (g.storage.operate i _).1
        unfold Storage.operate
        rw [hat]
        rfl
      | accept e =>
        exact ⟨[], commit_self _ hat (Registration.startsIn_acceptEvent _ e r)⟩

theorem reached_of_perform (env : Surroundings) (o : Order)
    (h : g.storage.Reached) :
    (g.perform env o).1.storage.Reached := by
  obtain ⟨run, hrun⟩ := h
  obtain ⟨more, hmore⟩ := requests_of_perform env o g
  refine ⟨run ++ more, ?_⟩
  rw [Storage.performAll_append, hmore, hrun]

theorem reached_of_performAll (run : Run) (h : g.storage.Reached) :
    (performAll run g).1.storage.Reached := by
  induction run generalizing g with
  | nil => exact h
  | cons x rest ih => exact ih (reached_of_perform x.1 x.2 h)

end Guarded

end Fleetkeeper
