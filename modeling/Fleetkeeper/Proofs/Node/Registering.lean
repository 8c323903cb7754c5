/-
Registering a node is all or nothing.

The name is taken before the address is bound, so a registration that cannot
be bound stands in the storage for a while, and is taken out again by removing
its name. What that comes to is said in three equations, one for each way in
which registering can end: refused at once (`register_refused`), taken back
(`register_failed`), done (`register_made`); there is no other
(`ending_of_register`). In the second, the name goes as it came
(`Table.erase_insert`), and all that is left is a registration that nobody
leads to, closed before it had a client.

Why registering fails is reckoned without a storage that changes: `refusal?`
looks at the name, at the names in use, and at what making a client for the
address would say.
-/
import Fleetkeeper.Proofs.Node.Registry

namespace Fleetkeeper

-- ================================================= effects nobody receives

/-- Whether an effect is a message that subscribers receive. -/
def Effect.streams : Effect → Bool
  | lifecycle _ | health _ | log _ => true
  | journal _ | bindAsked _ _ | pollerStarted _ _ | pollerStopped _ => false

/-- Publishing what is no message touches the journal alone. -/
theorem Fleet.publishAll_quiet {told : List Effect}
    (hquiet : ∀ e ∈ told, e.streams = false) (i : Slot) (f : Fleet) :
    ∃ journal, f.publishAll i told = { f with journal } := by
  induction told generalizing f with
  | nil => exact ⟨_, rfl⟩
  | cons e rest ih =>
    obtain ⟨he, hrest⟩ := List.forall_mem_cons.1 hquiet
    have hfirst : ∃ journal, f.publish i e = { f with journal } := by
      cases e with
      | lifecycle | health | log => cases he
      | journal | bindAsked | pollerStarted | pollerStopped => exact ⟨_, rfl⟩
    obtain ⟨journal, hfirst⟩ := hfirst
    show ∃ journal, (f.publish i e).publishAll i rest = _
    rw [hfirst]
    exact ih hrest { f with journal }

namespace Registration

-- ============================================== binding what was described

/-- Binding a registration that was only described to the address that it was
described with makes a client, or does nothing but ask. -/
theorem bind_described {info : NodeInfo} {address : String} (env : Services)
    (haddress : info.address = some address) :
    (ofInfo info).bind env address = attach env address (ofInfo info) := by
  have hnoted : (ofInfo info).noteAddress address = ofInfo info := by
    rw [noteAddress_eq]
    exact noted_of_eq haddress
  unfold bind
  rw [hnoted]
  rfl

/-- A node as it was described, with a client for the address if it has one and
a poller of that client. -/
def described (info : NodeInfo) (serial : Nat) (polling : PollConfig)
    (timer : Nat) :
    Registration :=
  { ofInfo info with
    client := info.address.map (⟨·, serial⟩)
    poller := info.address.map (Poller.start serial · polling timer) }

end Registration

namespace Storage

variable {st : Storage} {env : Surroundings} {info : NodeInfo}
  {address : String} {e : Fault}

-- ====================================================== the three endings

/-- Why no client of a node can be made at an address, or none can be
polled. -/
def bindFault? (env : Surroundings) (name address : String) : Option Fault :=
  match env.makeClient name address with
  | .error e => some e
  | .ok () =>
    if env.hasRuntime then none
    else some (.node ("No async runtime to poll events of node " ++ name))

/-- Why a node is not registered, if it is not: for its name, because the name
is in use, or because its address cannot be bound. The first reason counts. -/
def refusal? (env : Surroundings) (info : NodeInfo) (st : Storage) :
    Option Fault :=
  if checkName info.name = false then some (.invalidNodeName info.name)
  else if (st.slot? info.name).isSome then some (.nodeExists info.name)
  else info.address.bind (bindFault? env info.name)

/-- What is refused for its name changes nothing and tells nothing. -/
theorem register_refused
    (hcapacity : env.config.nodes.healthCapacity ≤ channelLimit)
    (hname : checkName info.name = false ∨ (st.slot? info.name).isSome = true)
    (hrefusal : st.refusal? env info = some e) :
    st.register env info = (st, .error e, []) := by
  have hroom : ¬ channelLimit < env.config.nodes.healthCapacity :=
    Nat.not_lt.2 hcapacity
  unfold refusal? at hrefusal
  unfold register enrol
  by_cases hcheck : checkName info.name = false
  · rw [if_pos hcheck] at hrefusal
    cases hrefusal
    rw [if_pos (by simp [hcheck])]
  · rw [if_neg hcheck, if_pos (hname.resolve_left hcheck)] at hrefusal
    cases hrefusal
    rw [if_neg (by simpa using hcheck), if_neg hroom,
      if_pos (hname.resolve_left hcheck)]

/-- A storage in which one more registration was made, with these names and so
many more pollers started. -/
def joined (st : Storage) (r : Registration) (names : Table Slot)
    (more : Nat) : Storage where
  slots := st.slots ++ [r]
  names := names
  started := st.started + more

variable {r : Registration} {names : Table Slot} {more : Nat}

theorem at?_joined (i : Slot) :
    (st.joined r names more).at? i = if i = st.slots.length then some r
      else st.at? i :=
  getElem?_concat st.slots r i

/-- An operation on the registration that was made last. -/
theorem commit_joined {α : Type} (s : Step α) :
    (st.joined r names more).commit st.slots.length s
      = (st.joined s.state names (more + startsIn s.effects), s.result,
        s.effects) := by
  have hset : (st.slots ++ [r]).set st.slots.length s.state
      = st.slots ++ [s.state] := by
    rw [List.set_append_right _ _ (Nat.le_refl _), Nat.sub_self]
    rfl
  unfold commit joined
  dsimp only
  rw [hset, Nat.add_assoc]

/-- Removing the name of the registration that was made last, which was free
before. -/
theorem remove_joined {name : String} (hfree : st.slot? name = none) :
    (st.joined r (st.names.insert name st.slots.length) more).remove name
      = (st.joined r.teardown.state st.names
          (more + startsIn r.teardown.effects), .ok (),
        r.teardown.effects
          ++ [.journal
            ⟨.info, .storage, "Node " ++ name ++ " deregistered"⟩]) := by
  generalize hnamed :
    st.joined r (st.names.insert name st.slots.length) more = named
  have hslot : named.slot? name = some st.slots.length := by
    rw [← hnamed]
    exact (Table.find?_insert ..).trans (if_pos rfl)
  have hforgot : { named with names := named.names.erase name }
      = st.joined r st.names more := by
    rw [← hnamed]
    exact congrArg (st.joined r · more) (Table.erase_insert hfree _)
  have hat : (st.joined r st.names more).at? st.slots.length = some r :=
    (at?_joined _).trans (if_pos rfl)
  unfold remove
  rw [hslot]
  dsimp only
  rw [hforgot]
  unfold teardownAt
  rw [hat]
  dsimp only
  rw [commit_joined]

/-- A name that is proper and free is taken, and the address bound next. -/
theorem register_free
    (hcapacity : env.config.nodes.healthCapacity ≤ channelLimit)
    (hcheck : checkName info.name = true) (hfree : st.slot? info.name = none) :
    st.register env info
      = (st.joined (.ofInfo info) (st.names.insert info.name st.slots.length)
        0).settle env info
          st.slots.length := by
  have hroom : ¬ channelLimit < env.config.nodes.healthCapacity :=
    Nat.not_lt.2 hcapacity
  unfold register enrol
  rw [if_neg (by simp [hcheck]), if_neg hroom, if_neg (by simp [hfree])]
  rfl

/-- An address that cannot be bound is asked for, and that is all. -/
theorem attach_fault {members : Membership}
    (hfault : bindFault? env info.name address = some e) :
    Registration.attach (st.services env members) address (.ofInfo info)
      = ⟨.ofInfo info, .error e, [.bindAsked info.name address]⟩ := by
  have hmake :
      (st.services env members).makeClient (Registration.ofInfo info).name
          address
        = env.makeClient info.name address := rfl
  have hruntime : (st.services env members).hasRuntime = env.hasRuntime := rfl
  unfold bindFault? at hfault
  unfold Registration.attach
  dsimp only
  rw [hmake, hruntime]
  cases hresult : env.makeClient info.name address with
  | error e' =>
    rw [hresult] at hfault
    cases hfault
    rfl
  | ok =>
    rw [hresult] at hfault
    dsimp only at hfault ⊢
    split at hfault
    case isTrue => cases hfault
    case isFalse hnone =>
      cases hfault
      rw [if_neg hnone]
      rfl

/-- What is told when a client was made for a node and its poller started. -/
def bound (serial : Nat) (name address : String) : List Effect :=
  [.bindAsked name address,
   .journal ⟨.info, .registration, "Begin fetching events of node " ++ name⟩,
   .pollerStarted serial address,
   .journal ⟨.info, .registration, "Node " ++ name ++ " bound to " ++ address⟩]

/-- An address that can be bound is bound. -/
theorem attach_bound {members : Membership}
    (haddress : info.address = some address)
    (hfault : bindFault? env info.name address = none) :
    Registration.attach (st.services env members) address (.ofInfo info)
      = ⟨.described info st.started env.config.polling env.timer,
        .ok ⟨address, st.started⟩,
          bound st.started info.name address⟩ := by
  have hmake :
      (st.services env members).makeClient (Registration.ofInfo info).name
          address
        = env.makeClient info.name address := rfl
  have hruntime : (st.services env members).hasRuntime = env.hasRuntime := rfl
  unfold bindFault? at hfault
  unfold Registration.attach Registration.described
  dsimp only
  rw [hmake, hruntime, haddress]
  cases hresult : env.makeClient info.name address with
  | error e =>
    rw [hresult] at hfault
    cases hfault
  | ok =>
    rw [hresult] at hfault
    dsimp only at hfault ⊢
    split at hfault
    case isTrue hruns =>
      rw [if_pos hruns]
      rfl
    case isFalse => cases hfault

/-- Where the address cannot be bound the name goes as it came. What is left is
a registration that was closed before it had a client. -/
theorem register_failed
    (hcapacity : env.config.nodes.healthCapacity ≤ channelLimit)
    (hcheck : checkName info.name = true) (hfree : st.slot? info.name = none)
    (haddress : info.address = some address)
    (hfault : bindFault? env info.name address = some e) :
    st.register env info
      = (st.joined (Registration.ofInfo info).teardown.state st.names 0,
        .error e,
          [.bindAsked info.name address,
           .journal ⟨.info, .storage,
             "Node " ++ info.name ++ " deregistered"⟩]) := by
  have hat :
      (st.joined (.ofInfo info) (st.names.insert info.name st.slots.length)
        0).at? st.slots.length = some (.ofInfo info) :=
    (at?_joined _).trans (if_pos rfl)
  rw [register_free hcapacity hcheck hfree]
  unfold settle
  rw [haddress, hat]
  dsimp only
  rw [Registration.bind_described _ haddress, attach_fault hfault,
    commit_joined]
  dsimp only
  rw [remove_joined hfree]
  rfl

/-- Where there is no address, or one that can be bound, the name leads to the
node as it was described. -/
theorem register_made
    (hcapacity : env.config.nodes.healthCapacity ≤ channelLimit)
    (hcheck : checkName info.name = true) (hfree : st.slot? info.name = none)
    (hfault : info.address.bind (bindFault? env info.name) = none) :
    st.register env info
      = (st.joined (.described info st.started env.config.polling env.timer)
            (st.names.insert info.name st.slots.length)
              info.address.toList.length,
          .ok st.slots.length,
          info.address.toList.flatMap (bound st.started info.name)
            ++ [.journal ⟨.info, .storage,
              "Node " ++ info.name ++ " registered"⟩]) := by
  have hat :
      (st.joined (.ofInfo info) (st.names.insert info.name st.slots.length)
        0).at? st.slots.length = some (.ofInfo info) :=
    (at?_joined _).trans (if_pos rfl)
  rw [register_free hcapacity hcheck hfree]
  unfold settle
  cases haddress : info.address with
  | none =>
    unfold Registration.described
    rw [haddress]
    rfl
  | some address =>
    rw [haddress] at hfault
    rw [hat]
    dsimp only
    rw [Registration.bind_described _ haddress, attach_bound haddress hfault,
      commit_joined]
    rfl

/-- The ways in which registering ends. -/
inductive Ending (env : Surroundings) (info : NodeInfo) (st : Storage) :
    Storage × Except Fault Slot × List Effect → Prop where
  | refused {e : Fault}
      (hname : checkName info.name = false
        ∨ (st.slot? info.name).isSome = true)
      (hrefusal : st.refusal? env info = some e) :
      Ending env info st (st, .error e, [])
  | failed {e : Fault} {address : String} (hcheck : checkName info.name = true)
      (hfree : st.slot? info.name = none)
      (hrefusal : st.refusal? env info = some e) :
      Ending env info st
        (st.joined (Registration.ofInfo info).teardown.state st.names 0,
          .error e, [.bindAsked info.name address,
           .journal ⟨.info, .storage,
             "Node " ++ info.name ++ " deregistered"⟩])
  | made (hcheck : checkName info.name = true)
      (hfree : st.slot? info.name = none)
      (hrefusal : st.refusal? env info = none) :
      Ending env info st
        (st.joined (.described info st.started env.config.polling env.timer)
            (st.names.insert info.name st.slots.length)
              info.address.toList.length,
          .ok st.slots.length,
          info.address.toList.flatMap (bound st.started info.name)
            ++ [.journal ⟨.info, .storage,
              "Node " ++ info.name ++ " registered"⟩])

/-- A name that is refused is refused for a reason. -/
theorem exists_refusal
    (hname : checkName info.name = false
      ∨ (st.slot? info.name).isSome = true) :
    ∃ e, st.refusal? env info = some e := by
  unfold refusal?
  by_cases hcheck : checkName info.name = false
  · exact ⟨_, if_pos hcheck⟩
  · exact ⟨_, (if_neg hcheck).trans (if_pos (hname.resolve_left hcheck))⟩

/-- With a name that is proper and free, the address decides. -/
theorem refusal?_free (hcheck : checkName info.name = true)
    (hfree : st.slot? info.name = none) :
    st.refusal? env info = info.address.bind (bindFault? env info.name) := by
  unfold refusal?
  rw [if_neg (by simp [hcheck]), if_neg (by simp [hfree])]

/-- A registration ends in one of these ways, if health channels can be as
large as the settings want them. The cases are those of the checks, in their
order, and then of the binding. -/
theorem ending_of_register
    (hcapacity : env.config.nodes.healthCapacity ≤ channelLimit) :
    Ending env info st (st.register env info) := by
  by_cases hname : checkName info.name = false
    ∨ (st.slot? info.name).isSome = true
  case pos =>
    obtain ⟨e, hrefusal⟩ : ∃ e, st.refusal? env info = some e :=
      exists_refusal hname
    rw [register_refused hcapacity hname hrefusal]
    exact .refused hname hrefusal
  case neg =>
    obtain ⟨hcheck, hused⟩ := not_or.1 hname
    have hcheck : checkName info.name = true := by simpa using hcheck
    have hfree : st.slot? info.name = none := by simpa using hused
    have hrefusal : st.refusal? env info = _ := refusal?_free hcheck hfree
    cases hfault : info.address.bind (bindFault? env info.name) with
    | none =>
      rw [register_made hcapacity hcheck hfree hfault]
      exact .made hcheck hfree (hrefusal.trans hfault)
    | some e =>
      obtain ⟨address, haddress, hbind⟩ := Option.bind_eq_some_iff.1 hfault
      rw [register_failed hcapacity hcheck hfree haddress hbind]
      exact .failed hcheck hfree (hrefusal.trans hfault)

-- ============================================================== all of it

/-- All is as it was: the names, the registrations that there were, the pollers
that run, and whatever subscribers receive. A registration that was not there
before has come to its end. -/
structure Untouched (st : Storage) (told : List Effect) (st' : Storage)
    (more : List Effect) :
    Prop where
  names : st'.names = st.names
  kept : ∀ i r, st.at? i = some r → st'.at? i = some r
  found : ∀ name, st'.find? name = st.find? name
  ended : ∀ i r, st'.at? i = some r → st.at? i = some r ∨ r.Ended
  runs : running (told ++ more) = running told
  unheard : ∀ (i : Slot) (f : Fleet), ∃ journal,
    f.publishAll i more = { f with journal }

/-- One name has been added, and leads to a node as described; where that has
an address its poller runs besides those that ran before. -/
structure Joined (env : Surroundings) (info : NodeInfo) (i : Slot)
    (st : Storage) (told : List Effect) (st' : Storage) (more : List Effect) :
    Prop where
  new : st.at? i = none
  named : ∀ name,
    st'.slot? name = if name = info.name then some i else st.slot? name
  made : ∀ j, st'.at? j
    = if j = i then
        some (.described info st.started env.config.polling env.timer)
      else st.at? j
  runs : running (told ++ more)
    = running told ++ info.address.toList.map (⟨·, st.started⟩)

variable {told : List Effect}

theorem untouched_self (st : Storage) (told : List Effect) :
    Untouched st told st [] where
  names := rfl
  kept _ _ := id
  found _ := rfl
  ended _ _ := .inl
  runs := by rw [List.append_nil]
  unheard _ _ := ⟨_, rfl⟩

/-- A registration that is closed at once has come to its end. -/
theorem ended_described (info : NodeInfo) :
    (Registration.ofInfo info).teardown.state.Ended := by
  have hwired :=
    (Registration.wiring_of_teardown { now := ⟨0⟩, later := ⟨0⟩ } _).wired
      (Registration.bound_ofInfo info).wired
  refine hwired.ended ?_
  rw [Registration.teardown_eq]

/-- Where the binding fails, what was started is undone again: the registration
that was made is closed, nobody finds it, no poller runs, and of the node
nothing was told but that it is gone. -/
theorem untouched_failed (hnamed : st.Named) :
    Untouched st told
      (st.joined (Registration.ofInfo info).teardown.state st.names 0)
      [.bindAsked info.name address,
       .journal ⟨.info, .storage,
         "Node " ++ info.name ++ " deregistered"⟩] := by
  have hkept : ∀ i r, st.at? i = some r →
      (st.joined (Registration.ofInfo info).teardown.state st.names 0).at? i
        = some r := by
    intro i r hat
    have hold : i ≠ st.slots.length :=
      Nat.ne_of_lt (List.getElem?_eq_some_iff.1 hat).1
    exact (at?_joined i).trans ((if_neg hold).trans hat)
  refine ⟨rfl, hkept, fun name => ?_, fun i r hat => ?_, ?_, fun i f => ?_⟩
  · unfold find?
    show (st.slot? name).bind _ = _
    cases hslot : st.slot? name with
    | none => rfl
    | some i =>
      obtain ⟨r, hat, -⟩ := hnamed name i hslot
      exact (hkept i r hat).trans hat.symm
  · rw [at?_joined] at hat
    split at hat
    case isTrue =>
      cases hat
      exact .inr (ended_described info)
    case isFalse => exact .inl hat
  · rw [running_append]
    rfl
  · exact Fleet.publishAll_quiet (by simp [Effect.streams]) i f

/-- Where it does not fail, the node has joined: its name leads to a new
registration, described as asked for, and its poller runs if it has an
address. -/
theorem joined_made :
    Joined env info st.slots.length st told
      (st.joined (.described info st.started env.config.polling env.timer)
        (st.names.insert info.name st.slots.length) info.address.toList.length)
      (info.address.toList.flatMap (bound st.started info.name)
        ++ [.journal ⟨.info, .storage,
          "Node " ++ info.name ++ " registered"⟩]) := by
  refine ⟨List.getElem?_eq_none (Nat.le_refl _),
    fun name => Table.find?_insert .., at?_joined, ?_⟩
  rw [running_append]
  cases info.address with
  | none => exact (List.append_nil _).symm
  | some address => rfl

/-- Registering comes to its end in one way or the other: it fails for the
first reason that there is and leaves all as it was, without asking for a
client where the reason is the name; or there is no reason, and then that name
is added and nothing else. A name that is in use is got as it stands, and one
that is free is registered as a node of which only the name is known. -/
theorem registering_atomic (run : Run) (env : Surroundings) (info : NodeInfo)
    (hcapacity : env.config.nodes.healthCapacity ≤ channelLimit) :
    let st := (performAll run {}).1
    let told := (performAll run {}).2
    let out := st.register env info
    (∀ e, out.2.1 = .error e ↔ st.refusal? env info = some e)
      ∧ (checkName info.name = false ∨ (st.slot? info.name).isSome = true →
        out.2.2 = [])
      ∧ (∀ e, out.2.1 = .error e → Untouched st told out.1 out.2.2)
      ∧ (∀ i, out.2.1 = .ok i → Joined env info i st told out.1 out.2.2)
      ∧ ∀ name, st.getOrRegister env name
          = match st.slot? name with
            | some i => (st, .ok i, [])
            | none => st.register env (.bare name) := by
  intro st told out
  have hnamed : st.Named := named_performAll run
  have hget : ∀ name, st.getOrRegister env name
      = match st.slot? name with
        | some i => (st, .ok i, [])
        | none => st.register env (.bare name) := fun name => rfl
  have hending : Ending env info st out := ending_of_register hcapacity
  clear_value out
  cases hending with
  | refused _ hrefusal =>
    refine ⟨fun e => ?_, fun _ => rfl, fun _ _ => untouched_self st told,
      fun _ => nofun, hget⟩
    rw [hrefusal]
    simp
  | failed hcheck hfree hrefusal =>
    refine ⟨fun e => ?_, fun hname => ?_, fun _ _ => untouched_failed hnamed,
      fun _ => nofun, hget⟩
    · rw [hrefusal]
      simp
    · simp [hcheck, hfree] at hname
  | made hcheck hfree hrefusal =>
    refine ⟨fun e => ?_, fun hname => ?_, fun _ => nofun, fun i hok => ?_,
      hget⟩
    · rw [hrefusal]
      simp
    · simp [hcheck, hfree] at hname
    · cases hok
      exact joined_made

/-- What a storage finds around it where one address alone can be bound. -/
def oneEngine : Surroundings :=
  { beginning with
    makeClient := fun _ address =>
      if address = "10.0.0.1:2375" then .ok () else
        .error (.docker "refused") }

/-- A node at an address. -/
def nodeAt (name address : String) : NodeInfo :=
  { NodeInfo.bare name with address := some address }

/-- Beside a node that is bound, another one is refused for the reason that the
making of its client gave, and all is as it was. -/
theorem registering_of_refused :
    let run : Run := [(oneEngine, .register (nodeAt "n1" "10.0.0.1:2375"))]
    let st := (performAll run {}).1
    let told := (performAll run {}).2
    let out := st.register oneEngine (nodeAt "n2" "10.0.0.2:2375")
    oneEngine.config.nodes.healthCapacity ≤ channelLimit
      ∧ out.2.1 = .error (.docker "refused") ∧ Untouched st told out.1 out.2.2
      ∧ running (told ++ out.2.2) = [⟨"10.0.0.1:2375", 0⟩] := by
  intro run st told out
  have hcapacity : oneEngine.config.nodes.healthCapacity ≤ channelLimit := by
    decide
  obtain ⟨hfails, -, huntouched, -⟩ :=
    registering_atomic run oneEngine (nodeAt "n2" "10.0.0.2:2375") hcapacity
  have herror : out.2.1 = .error (.docker "refused") := (hfails _).2 rfl
  exact ⟨hcapacity, herror, huntouched _ herror, (huntouched _ herror).runs⟩

end Storage

end Fleetkeeper
