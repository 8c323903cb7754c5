/-
The timer moves and pollers act: what that does to the storage, and which
polls it starts.

The storage changes in nothing but the phases of its pollers (`Paced`), and
every such change is a request to it. So the storage behind a run of the timer
is one that requests lead to, and what holds of all of those holds of it.
A poll is started by the poller of some registration, for the name of that
registration and at the address of its client.
-/
import Mathlib.Data.List.Basic
import Fleetkeeper.Node.Fleet
import Fleetkeeper.Proofs.Node.Moves

namespace Fleetkeeper

-- =========================================== storages with other phases

namespace Storage

variable {st st' : Storage}

/-- A storage in which pollers have moved on, and nothing else has
happened. -/
inductive Paced (st : Storage) : Storage → Prop where
  | still : Paced st st
  | moved {st' : Storage} (h : Paced st st') (i : Slot) (phase : PollPhase) :
      Paced st (st'.operate i fun r => ⟨r.inPhase phase, (), []⟩).1

/-- Requests lead there, and they tell nothing. -/
theorem Paced.reached (h : Paced st st') :
    ∃ run : Run, performAll run st = (st', []) := by
  induction h with
  | still => exact ⟨[], rfl⟩
  | @moved st' _ i phase ih =>
    obtain ⟨run, hrun⟩ := ih
    have hquiet : (st'.operate i fun r => ⟨r.inPhase phase, (), []⟩).2
        = [] := by
      unfold operate
      split <;> rfl
    refine ⟨run ++ [({ now := ⟨0⟩, later := ⟨0⟩ }, .moveOn i phase)], ?_⟩
    rw [performAll_append, hrun]
    show (_, [] ++ ((st'.operate i _).2 ++ [])) = _
    rw [hquiet]
    rfl

/-- A registration in such a storage was there before, with the same name,
the same client, and a poller of the same client. -/
theorem Paced.before (h : Paced st st') {i : Slot} {r' : Registration}
    (hat : st'.at? i = some r') :
    ∃ r, st.at? i = some r ∧ r'.name = r.name ∧ r'.client = r.client
      ∧ r'.poller.map Poller.client = r.poller.map Poller.client := by
  induction h generalizing r' with
  | still => exact ⟨r', hat, rfl, rfl, rfl⟩
  | @moved st' _ j phase ih =>
    cases hj : st'.at? j with
    | none =>
      have hsame : (st'.operate j fun r => ⟨r.inPhase phase, (), []⟩).1
          = st' := by
        unfold operate
        rw [hj]
      rw [hsame] at hat
      exact ih hat
    | some r₀ =>
      have hoperate : (st'.operate j fun r => ⟨r.inPhase phase, (), []⟩).1
          = (st'.commit j (⟨r₀.inPhase phase, (), []⟩ : Step Unit)).1 := by
        unfold operate
        rw [hj]
      rw [hoperate, at?_commit hj] at hat
      by_cases hij : j = i
      · rw [if_pos hij] at hat
        cases hat
        obtain ⟨r, hr, hname, hclient, hpoller⟩ := ih (hij ▸ hj)
        refine ⟨r, hr, hname, hclient, ?_⟩
        rw [← hpoller]
        show (r₀.poller.map ({ · with phase })).map Poller.client = _
        cases r₀.poller <;> rfl
      · rw [if_neg hij] at hat
        exact ih hat

end Storage

namespace Fleet

variable {σ : Type} {engines : Engines σ} {f : Fleet} {st : Storage}

-- ============================================== what delivering leaves be

/-- Publishing is a matter of channels and of the journal. -/
theorem publish_eq (i : Slot) (f : Fleet) (e : Effect) :
    ∃ lifecycle logs health journal,
      f.publish i e = { f with lifecycle, logs, health, journal } := by
  cases e <;> exact ⟨_, _, _, _, rfl⟩

/-- Whatever is told changes channels and the log, and neither registrations
nor pollers. -/
theorem publishAll_eq (i : Slot) (effects : List Effect) (f : Fleet) :
    ∃ lifecycle logs health journal,
      f.publishAll i effects
        = { f with lifecycle, logs, health, journal } := by
  unfold publishAll
  induction effects generalizing f with
  | nil => exact ⟨_, _, _, _, rfl⟩
  | cons e rest ih =>
    obtain ⟨_, _, _, _, hfirst⟩ := publish_eq i f e
    obtain ⟨_, _, _, _, hrest⟩ := ih (f.publish i e)
    rw [List.foldl_cons, hrest, hfirst]
    exact ⟨_, _, _, _, rfl⟩

theorem accept_eq (engines : Engines σ) (i : Slot) (e : EngineEvent)
    (f : Fleet) :
    ∃ lifecycle logs health journal,
      f.accept engines i e = { f with lifecycle, logs, health, journal } := by
  unfold accept
  split
  · exact publishAll_eq i _ f
  · exact ⟨_, _, _, _, rfl⟩

/-- What a poll delivers is told to channels and to the log. It reaches no
registration, whatever the events are: pollers, clock and storage stay as they
were. -/
theorem deliver_eq (engines : Engines σ) (i : Slot) (node : String)
    (answer : PollAnswer) (f : Fleet) :
    ∃ lifecycle logs health journal,
      f.deliver engines i node answer
        = { f with lifecycle, logs, health, journal } := by
  have hevents : ∀ (events : List EngineEvent) (f : Fleet),
      ∃ lifecycle logs health journal,
        events.foldl (fun f e => f.accept engines i e) f
          = { f with lifecycle, logs, health, journal } := by
    intro events
    induction events with
    | nil => exact fun _ => ⟨_, _, _, _, rfl⟩
    | cons e rest ih =>
      intro f
      obtain ⟨_, _, _, _, hfirst⟩ := accept_eq engines i e f
      obtain ⟨_, _, _, _, hrest⟩ := ih (f.accept engines i e)
      rw [List.foldl_cons, hrest, hfirst]
      exact ⟨_, _, _, _, rfl⟩
  obtain ⟨_, _, _, _, hremarks⟩ :=
    publishAll_eq i (answer.remarks.map .journal) f
  obtain ⟨_, _, _, _, hall⟩ := hevents answer.events
    (f.publishAll i (answer.remarks.map .journal))
  unfold deliver
  dsimp only
  rw [hall, hremarks]
  split
  · exact ⟨_, _, _, _, rfl⟩
  · exact publish_eq i _ _

-- ================================================ a poller that is due

/-- The pollers that will act are those of registrations, each at the moment
when it wakes. -/
theorem mem_waking {x : Slot × Poller × Nat} :
    x ∈ f.waking ↔ ∃ r, f.storage.at? x.1 = some r ∧ r.poller = some x.2.1
      ∧ x.2.1.wake? = some x.2.2 := by
  constructor
  · intro hx
    obtain ⟨⟨r, j⟩, hmem, hx⟩ := List.mem_filterMap.1 hx
    have hat := List.mk_mem_zipIdx_iff_getElem?.1 hmem
    obtain ⟨p, hp, hx⟩ := Option.bind_eq_some_iff.1 hx
    obtain ⟨moment, hwake, hx⟩ := Option.bind_eq_some_iff.1 hx
    cases hx
    exact ⟨r, hat, hp, hwake⟩
  · rintro ⟨r, hat, hp, hwake⟩
    refine List.mem_filterMap.2
      ⟨(r, x.1), List.mk_mem_zipIdx_iff_getElem?.2 hat, ?_⟩
    simp [hp, hwake]

/-- The poller that acts next is one of those that will act. -/
theorem next_mem_waking {x : Slot × Poller × Nat} (hnext : f.next? = some x) :
    x ∈ f.waking := by
  unfold next? at hnext
  split at hnext
  case h_1 => cases hnext
  case h_2 a rest hall =>
    rw [hall, ← Option.some.inj hnext]
    -- Of two pollers one is taken, so the choice is one of them all.
    refine List.foldlRecOn rest earlier (List.mem_cons_self ..)
      fun b hb c hc => ?_
    unfold earlier
    split
    · exact List.mem_cons_of_mem _ hc
    · exact hb

/-- The poller that acts next is that of some registration. -/
theorem at?_of_next {i : Slot} {p : Poller} {moment : Nat}
    (hnext : f.next? = some (i, p, moment)) :
    ∃ r, f.storage.at? i = some r ∧ r.poller = some p := by
  obtain ⟨r, hat, hpoller, -⟩ := mem_waking.1 (next_mem_waking hnext)
  exact ⟨r, hat, hpoller⟩

/-- Putting the poller of a registration into a phase is a request. -/
theorem setPoller_storage {i : Slot} {r : Registration} {p : Poller}
    (hat : f.storage.at? i = some r) (hpoller : r.poller = some p)
    (phase : PollPhase) :
    (f.setPoller i { p with phase }).storage
      = (f.storage.operate i fun r => ⟨r.inPhase phase, (), []⟩).1 := by
  have hslots : f.storage.slots.modify i (fun r =>
      { r with poller := some { p with phase } })
        = f.storage.slots.set i (r.inPhase phase) := by
    have hget : f.storage.slots[i]? = some r := hat
    rw [List.modify_eq_set_getElem?, hget]
    unfold Registration.inPhase
    rw [hpoller]
    rfl
  unfold setPoller Storage.operate
  rw [hat, hslots]
  rfl

/-- A poll that a storage has a poller for: it is made for the name of a
registration and at the address of its client. -/
def Owed (st : Storage) (poll : Poll) : Prop :=
  ∃ i r c, st.at? i = some r ∧ r.name = poll.node ∧ r.client = some c
    ∧ c.address = poll.address

/-- A poller that acts moves on, and a poll that it starts is owed. -/
theorem paced_of_act (engines : Engines σ) (f : Fleet) (s : σ) {i : Slot}
    {r : Registration} {p : Poller}
    (hwired : ∀ i r, st.at? i = some r → r.Wired)
    (hpaced : st.Paced f.storage) (hat : f.storage.at? i = some r)
    (hpoller : r.poller = some p) :
    st.Paced (f.act engines i r.name p s).1.storage
      ∧ ∀ poll ∈ (f.act engines i r.name p s).2.1, Owed st poll := by
  have hmoved :
      ∀ phase, st.Paced (f.setPoller i { p with phase }).storage := by
    intro phase
    rw [setPoller_storage hat hpoller]
    exact hpaced.moved i phase
  unfold act
  split
  case h_1 tick _ =>
    split
    case h_1 =>
      refine ⟨hmoved _, fun poll hpoll => ?_⟩
      cases hpoll
    case h_2 window _ =>
      refine ⟨hmoved _, fun poll hpoll => ?_⟩
      cases hpoll
      obtain ⟨r₀, hat₀, hname, hclient, hpolls⟩ := hpaced.before hat
      have hc : r₀.client = some p.client := by
        rw [← (hwired i r₀ hat₀).polls, ← hpolls, hpoller]
        rfl
      exact ⟨i, r₀, p.client, hat₀, hname.symm, hc, rfl⟩
  case h_2 =>
    refine ⟨?_, fun poll hpoll => ?_⟩
    · obtain ⟨_, _, _, _, hdeliver⟩ :=
        deliver_eq engines i r.name _ (f.setPoller i _)
      dsimp only
      rw [hdeliver]
      exact hmoved _
    cases hpoll
  case h_3 =>
    refine ⟨hpaced, fun poll hpoll => ?_⟩
    cases hpoll

-- ========================================================= the timer moves

/-- However often pollers act, they only move on, and all polls are owed. By
induction on how often. -/
theorem paced_of_runUntil {stop : Nat}
    (hwired : ∀ i r, st.at? i = some r → r.Wired) (fuel : Nat)
    {f : Fleet} {s : σ} (hpaced : st.Paced f.storage) :
    st.Paced (f.runUntil engines stop fuel s).1.storage
      ∧ ∀ poll ∈ (f.runUntil engines stop fuel s).2.1, Owed st poll := by
  have hend : st.Paced f.storage ∧ ∀ poll ∈ ([] : List Poll), Owed st poll :=
    ⟨hpaced, fun _ hpoll => absurd hpoll List.not_mem_nil⟩
  induction fuel generalizing f s with
  | zero => exact hend
  | succ fuel ih =>
    unfold runUntil
    split
    case h_1 => exact hend
    case h_2 i p moment hnext =>
      split
      case isTrue => exact hend
      case isFalse =>
        split
        case h_1 => exact hend
        case h_2 r hat =>
          obtain ⟨r', hat', hpoller⟩ := at?_of_next hnext
          rw [hat] at hat'
          cases hat'
          obtain ⟨hfirst, howed⟩ := paced_of_act engines
            { f with timer := max f.timer moment } s hwired hpaced hat hpoller
          obtain ⟨hrest, hmore⟩ := ih hfirst
            ⟨hfirst, fun _ hpoll => absurd hpoll List.not_mem_nil⟩
          refine ⟨hrest, fun poll hpoll => ?_⟩
          rcases List.mem_append.1 hpoll with hpoll | hpoll
          · exact howed poll (Option.mem_toList.1 hpoll)
          · exact hmore poll hpoll

theorem paced_of_run (engines : Engines σ) (secs : Nat) (f : Fleet) (s : σ)
    (hwired : ∀ i r, f.storage.at? i = some r → r.Wired) :
    f.storage.Paced (f.run engines secs s).1.storage
      ∧ ∀ poll ∈ (f.run engines secs s).2.1, Owed f.storage poll :=
  paced_of_runUntil hwired _ .still

end Fleet

end Fleetkeeper
