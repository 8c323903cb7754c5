/-
What can be asked of a storage and of the registrations that it ever made, as
data; and the few moves that all of it is made of.

A registration can be asked at any time: whoever has its place keeps it after
its name is gone, and after the name leads to another place. So requests to
registrations name a place, not a node. Pollers move on by themselves
between requests, which is a request here as well.

A name and its registration do not go at once. `remove` and `shutdown` first
take the names out and then close what they led to. A move therefore has the
places of those registrations that lost their name and are still to be closed.
No such place is left over when a request has been carried out
(`moves_of_perform`), however many there were meanwhile.
-/
import Fleetkeeper.Node.Storage
import Fleetkeeper.Proofs.Node.Wiring

namespace Fleetkeeper

/-- A registration whose poller, if there is one, has moved on. -/
def Registration.inPhase (phase : PollPhase) (r : Registration) :
    Registration :=
  { r with poller := r.poller.map ({ · with phase }) }

namespace Storage

-- ============================================================= requests

/-- Something that can be asked of a storage, or of a registration that it
made. -/
inductive Request where
  | register (info : NodeInfo)
  | getOrRegister (name : String)
  | remove (name : String)
  | list
  | shutdown
  /-- A request to the registration at a place. -/
  | ask (i : Slot) (q : Registration.Request)
  /-- The poller at a place moves on. -/
  | moveOn (i : Slot) (phase : PollPhase)

/-- Carry out an operation on the registration at a place, if there is one. -/
def operate (st : Storage) (i : Slot) (op : Registration → Step Unit) :
    Storage × List Effect :=
  match st.at? i with
  | some r =>
    let (st, _, effects) := st.commit i (op r)
    (st, effects)
  | none => (st, [])

/-- Carry out a request. -/
def Request.perform (env : Surroundings) (st : Storage) :
    Request → Storage × List Effect
  | register info =>
    let (st, _, effects) := st.register env info
    (st, effects)
  | getOrRegister name =>
    let (st, _, effects) := st.getOrRegister env name
    (st, effects)
  | remove name =>
    let (st, _, effects) := st.remove name
    (st, effects)
  | list =>
    let (st, _, effects) := st.list env
    (st, effects)
  | shutdown => st.shutdown
  | ask i q => st.operate i fun r => q.perform (st.services env st.clusterOf) r
  | moveOn i phase => st.operate i fun r => ⟨r.inPhase phase, (), []⟩

/-- Requests, each with what the storage finds around it. -/
abbrev Run := List (Surroundings × Request)

/-- Carry out requests one after the other; the effects of all of them. -/
def performAll : Run → Storage → Storage × List Effect
  | [], st => (st, [])
  | (env, q) :: rest, st =>
    let (st, told) := q.perform env st
    let (st, more) := performAll rest st
    (st, told ++ more)

-- ================================================================ moves

/-- What a storage does at a time, and what it tells; `due` are the places of
registrations that have lost their name and are still to be closed. -/
inductive Move :
    List Slot → Storage → List Effect → List Slot → Storage → Prop where
  | noted {due : List Slot} {st : Storage} {notices : List Effect}
      (hnotices : notices.filter Effect.wires = []) :
      Move due st notices due st
  | enrolled {due : List Slot} {st : Storage} {info : NodeInfo}
      (hname : checkName info.name = true)
      (hfree : st.slot? info.name = none) :
      Move due st [] due
        { st with slots := st.slots ++ [Registration.ofInfo info],
                  names := st.names.insert info.name st.slots.length }
  | operated {α : Type} {due : List Slot} {st : Storage} {i : Slot}
      {r : Registration} {env : Services} {s : Step α}
      (hat : st.at? i = some r) (hserial : env.serial = st.started)
      (hname : s.state.name = r.name)
      (hwiring : r.Wiring env s.state s.effects) :
      Move due st s.effects due (st.commit i s).1
  | forgot {due : List Slot} {st : Storage} {names : Table Slot}
      (lost : List Slot)
      (hfewer : ∀ name i, names.find? name = some i → st.slot? name = some i)
      (hlost : ∀ name i, st.slot? name = some i →
          names.find? name = some i ∨ i ∈ lost) :
      Move due st [] (lost ++ due) { st with names }
  | closed {due : List Slot} {st : Storage} {i : Slot}
      (hclosed : ∀ r, st.at? i = some r → r.closed = true) :
      Move (i :: due) st [] due st

/-- Moves one after the other, with all that they tell. -/
inductive Moves :
    List Slot → Storage → List Effect → List Slot → Storage → Prop where
  | none {due : List Slot} {st : Storage} : Moves due st [] due st
  | more {due due' due'' : List Slot} {st st' st'' : Storage}
      {told more : List Effect} (hmove : Move due st told due' st')
      (hmoves : Moves due' st' more due'' st'') :
      Moves due st (told ++ more) due'' st''

variable {st st' st'' : Storage} {due due' due'' : List Slot}
  {told more : List Effect}

theorem Move.alone (h : Move due st told due' st') :
    Moves due st told due' st' := by
  have hmoves := Moves.more h .none
  rw [List.append_nil] at hmoves
  exact hmoves

theorem Moves.append (h : Moves due st told due' st')
    (h' : Moves due' st' more due'' st'') :
    Moves due st (told ++ more) due'' st'' := by
  induction h with
  | none => exact h'
  | more hmove _ ih =>
    rw [List.append_assoc]
    exact .more hmove (ih h')

/-- What every move keeps, moves keep. `P` speaks of what is still due, of the
storage, and of all effects so far. -/
theorem Moves.keeps {P : List Slot → Storage → List Effect → Prop}
    (hmove : ∀ {due st told more due' st'}, Move due st more due' st' →
      P due st told → P due' st' (told ++ more))
    (h : Moves due st more due' st') (told : List Effect)
    (hst : P due st told) :
    P due' st' (told ++ more) := by
  induction h generalizing told with
  | none =>
    rw [List.append_nil]
    exact hst
  | more hfirst _ ih =>
    have hrest := ih _ (hmove hfirst hst)
    rw [List.append_assoc] at hrest
    exact hrest

-- ================================================== moves of operations

/-- The registration at a place behind an operation on it. -/
theorem at?_commit {α : Type} {i : Slot} {r : Registration}
    (hat : st.at? i = some r) (s : Step α) (j : Slot) :
    (st.commit i s).1.at? j = if i = j then some s.state else st.at? j := by
  have hlt : i < st.slots.length := (List.getElem?_eq_some_iff.1 hat).1
  show (st.slots.set i s.state)[j]? = if i
    = j then some s.state else st.slots[j]?
  rw [List.getElem?_set]
  by_cases hij : i = j
  · rw [if_pos hij, if_pos hij, if_pos hlt]
  · rw [if_neg hij, if_neg hij]

/-- An operation that keeps the name and wires as requests do is one move. -/
theorem moves_of_operate {i : Slot} {op : Registration → Step Unit}
    (env : Services) (hserial : env.serial = st.started)
    (hname : ∀ r, (op r).state.name = r.name)
    (hwiring : ∀ r, Registration.Wiring env r (op r).state (op r).effects) :
    Moves [] st (st.operate i op).2 [] (st.operate i op).1 := by
  unfold operate
  split
  case h_1 r hat =>
    exact (Move.operated hat hserial (hname r) (hwiring r)).alone
  case h_2 => exact .none

/-- A registration that is still to be closed is closed. -/
theorem moves_of_teardownAt (i : Slot) (due : List Slot) (st : Storage) :
    Moves (i :: due) st (st.teardownAt i).2 due (st.teardownAt i).1 := by
  unfold teardownAt
  split
  case h_1 r hat =>
    -- Closing looks at nothing around it but the serial, and not even at that.
    have hwiring := Registration.wiring_of_teardown
      { now := ⟨0⟩, later := ⟨0⟩, serial := st.started } r
    have hname : r.teardown.state.name = r.name := by
      rw [Registration.teardown_eq]
    have hclosed : ∀ r', (st.commit i r.teardown).1.at? i = some r' →
        r'.closed = true := by
      intro r' hr'
      rw [at?_commit hat, if_pos rfl] at hr'
      cases hr'
      rw [Registration.teardown_eq]
    have hdone : Moves (i :: due) (st.commit i r.teardown).1 [] due
        (st.commit i r.teardown).1 := (Move.closed hclosed).alone
    have hmoves := (Move.operated hat rfl hname hwiring).alone.append hdone
    rw [List.append_nil] at hmoves
    exact hmoves
  case h_2 hat =>
    refine (Move.closed fun r hr => ?_).alone
    rw [hat] at hr
    cases hr

theorem moves_of_teardowns (places due : List Slot) (st : Storage) :
    Moves (places ++ due) st (teardowns places st).2 due
      (teardowns places st).1 := by
  induction places generalizing st with
  | nil => exact .none
  | cons i rest ih =>
    exact (moves_of_teardownAt i (rest ++ due) st).append (ih _)

/-- Removing a name, whether or not it is there. -/
theorem moves_of_remove (name : String) (st : Storage) :
    Moves [] st (st.remove name).2.2 [] (st.remove name).1 := by
  unfold remove
  split
  case h_1 => exact .none
  case h_2 i hslot =>
    have hforgot :
        Move [] st [] [i] { st with names := st.names.erase name } := by
      refine .forgot [i] (fun k j hk => ?_) (fun k j hk => ?_)
      · rw [Table.find?_erase] at hk
        split at hk
        · cases hk
        · exact hk
      · rw [Table.find?_erase]
        split
        case isTrue hkey =>
          rw [hkey, hslot] at hk
          cases hk
          exact .inr (List.mem_singleton_self _)
        case isFalse => exact .inl hk
    exact (hforgot.alone.append (moves_of_teardownAt i [] _)).append
      (Move.noted rfl).alone

/-- Taking all names out and closing what they led to. -/
theorem moves_of_shutdown (st : Storage) :
    Moves [] st st.shutdown.2 [] st.shutdown.1 := by
  have hforgot : Move [] st [] (st.names.values ++ [])
      { st with names := ∅ } := by
    refine .forgot _ (fun k j hk => ?_) (fun k j hk => .inr ?_)
    · cases hk
    · have hmem := (Table.mem_entries_iff st.names k j).2 hk
      exact List.mem_map_of_mem hmem
  exact hforgot.alone.append (moves_of_teardowns _ [] _)

/-- Binding what was just enrolled, with the name taken back where that
fails. -/
theorem moves_of_settle (env : Surroundings) (info : NodeInfo) (i : Slot)
    (st : Storage) :
    Moves [] st (st.settle env info i).2.2 [] (st.settle env info i).1 := by
  unfold settle
  dsimp only
  split
  case h_1 address r _ hat =>
    have hbinding := Registration.binding_of_bind
      (st.services env st.clusterOf) address r
    have hname : (r.bind (st.services env st.clusterOf) address).state.name
        = r.name := by
      obtain ⟨client, poller, hstate⟩ := hbinding.state_eq
      rw [hstate]
      rfl
    have hbound : Moves [] st
        (r.bind (st.services env st.clusterOf) address).effects []
        (st.commit i (r.bind (st.services env st.clusterOf) address)).1 :=
      (Move.operated hat rfl hname
        (Registration.wiring_of_binding hbinding)).alone
    split
    case h_1 => exact hbound.append (Move.noted rfl).alone
    case h_2 e _ =>
      -- Whether or not the name was still there to be removed.
      have hmoves := hbound.append (moves_of_remove info.name _)
      split
      case h_1 => exact hmoves
      case h_2 => exact hmoves
  case h_2 => exact (Move.noted rfl).alone

/-- The name is refused, or it is proper and free and leads to a new
registration. -/
theorem enrol_cases (env : Surroundings) (info : NodeInfo) (st : Storage) :
    (∃ e, st.enrol env info = (st, .error e))
      ∨ checkName info.name = true ∧ st.slot? info.name = none
        ∧ st.enrol env info
          = ({ st with slots := st.slots ++ [Registration.ofInfo info],
                       names := st.names.insert info.name st.slots.length },
              .ok st.slots.length) := by
  unfold enrol
  split
  case isTrue => exact .inl ⟨_, rfl⟩
  case isFalse hname =>
    split
    case isTrue => exact .inl ⟨_, rfl⟩
    case isFalse =>
      split
      case isTrue => exact .inl ⟨_, rfl⟩
      case isFalse hfree =>
        exact .inr ⟨by simpa using hname, by simpa using hfree, rfl⟩

/-- Registering: the name is checked and taken before anything is bound. -/
theorem moves_of_register (env : Surroundings) (info : NodeInfo)
    (st : Storage) :
    Moves [] st (st.register env info).2.2 [] (st.register env info).1 := by
  unfold register
  rcases enrol_cases env info st with ⟨e, henrol⟩ | ⟨hname, hfree, henrol⟩
  · rw [henrol]
    exact .none
  · rw [henrol]
    exact (Move.enrolled hname hfree).alone.append
      (moves_of_settle env info _ _)

/-- Listing the nodes is one request after another, and no name moves. -/
theorem moves_of_snapshots (env : Surroundings) (places : List Slot)
    (st : Storage) :
    Moves [] st (snapshots env places st).2.2 []
      (snapshots env places st).1 := by
  induction places generalizing st with
  | nil => exact .none
  | cons i rest ih =>
    have hsnapshot : Moves [] st (st.snapshotAt env i).2.2 []
        (st.snapshotAt env i).1 := by
      unfold snapshotAt
      split
      case h_1 r hat =>
        have hname := Registration.perform_name
          (st.services env st.clusterOf) .snapshot r
        exact (Move.operated hat rfl hname
          (Registration.wiring_of_perform _ .snapshot r)).alone
      case h_2 => exact .none
    exact hsnapshot.append (ih _)

/-- A poller that moves on stays the poller of its client. -/
theorem wiring_of_inPhase (env : Services) (phase : PollPhase)
    (r : Registration) :
    r.Wiring env (r.inPhase phase) [] := by
  refine .kept rfl ?_ rfl rfl
  unfold Registration.inPhase
  cases r.poller <;> rfl

/-- Every request is moves, and none of them leaves a registration that is
still to be closed. -/
theorem moves_of_perform (env : Surroundings) (q : Request) (st : Storage) :
    Moves [] st (q.perform env st).2 [] (q.perform env st).1 := by
  cases q with
  | register info => exact moves_of_register env info st
  | getOrRegister name =>
    show Moves [] st (st.getOrRegister env name).2.2 []
      (st.getOrRegister env name).1
    unfold getOrRegister
    split
    case h_1 => exact .none
    case h_2 => exact moves_of_register env _ st
  | remove name => exact moves_of_remove name st
  | list => exact moves_of_snapshots env _ st
  | shutdown => exact moves_of_shutdown st
  | ask i q =>
    exact moves_of_operate (st.services env st.clusterOf) rfl
      (Registration.perform_name _ q) (Registration.wiring_of_perform _ q)
  | moveOn i phase =>
    exact moves_of_operate (st.services env st.clusterOf) rfl (fun _ => rfl)
      (wiring_of_inPhase _ phase)

/-- So is every run. By induction on the requests. -/
theorem moves_of_performAll (run : Run) (st : Storage) :
    Moves [] st (performAll run st).2 [] (performAll run st).1 := by
  induction run generalizing st with
  | nil => exact .none
  | cons x rest ih =>
    exact (moves_of_perform x.1 x.2 st).append (ih _)

/-- A run in two parts. -/
theorem performAll_append (run later : Run) (st : Storage) :
    performAll (run ++ later) st
      = ((performAll later (performAll run st).1).1,
          (performAll run st).2
            ++ (performAll later (performAll run st).1).2) := by
  induction run generalizing st with
  | nil => rfl
  | cons x rest ih =>
    show ((performAll (rest ++ later) _).1,
      _ ++ (performAll (rest ++ later) _).2) = _
    rw [ih, ← List.append_assoc]
    rfl

end Storage

end Fleetkeeper
