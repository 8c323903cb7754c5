/-
The storage of registrations, by node name. A registration can outlive its
name in the storage, because whoever obtained it may hold on to it; so all
registrations ever made stand in one sequence, addressed by their place in
it, and a name leads to the place of its current registration.

`register` is two steps, each of which happens at once: the name is checked
and taken, then the address is bound, and a failed binding gives the name
back.
-/
import Fleetkeeper.Node.Registration

namespace Fleetkeeper

/-- The place of a registration. -/
abbrev Slot := Nat

/-- Every registration made, and the current one of each name. -/
structure Storage where
  slots : List Registration := []
  names : Table Slot := ∅
  /-- Pollers started so far. -/
  started : Nat := 0

/-- The most messages that a channel can be asked to keep. -/
def channelLimit : Nat := Nat.pow 2 55

/-- What a storage needs from its surroundings: that of a registration less
what the storage provides. -/
structure Surroundings where
  now : Instant
  later : Instant
  access : AccessControl := .allowAll
  makeClient : String → String → Except Fault Unit := fun _ _ => .ok ()
  hasRuntime : Bool := true
  config : ClusterConfig := {}
  timer : Nat := 0

namespace Storage

-- ============================================================== look-ups

def slot? (st : Storage) (name : String) : Option Slot := st.names.find? name

/-- The registration at a place. -/
def at? (st : Storage) (i : Slot) : Option Registration := st.slots[i]?

/-- The current registration of a name. -/
def find? (st : Storage) (name : String) : Option Registration :=
  (st.slot? name).bind st.at?

/-- The cluster of a registered node. -/
def clusterOf (st : Storage) : Membership := fun name =>
  (st.find? name).bind Registration.cluster

/-- Fails where the name is not registered. -/
def get (st : Storage) (name : String) : Except Fault Slot :=
  match st.slot? name with
  | some i => .ok i
  | none => .error (.nodeNotFound name)

/-- The current registrations of all names. -/
def registered (st : Storage) : List Registration :=
  st.names.values.filterMap st.at?

/-- The names of the nodes in a cluster, ascending. -/
def nodesOfCluster (st : Storage) (cluster : String) : List String :=
  let members := st.registered.filter fun r => r.cluster = some cluster
  (members.map Registration.name).mergeSort

-- ============================================= operations on registrations

/-- What a registration of this storage finds around it. -/
def services (st : Storage) (env : Surroundings) (members : Membership) :
    Services where
  now := env.now
  later := env.later
  access := env.access
  members := members
  makeClient := env.makeClient
  hasRuntime := env.hasRuntime
  polling := env.config.polling
  nodes := env.config.nodes
  timer := env.timer
  serial := st.started

/-- How many pollers a list of effects starts. -/
def startsIn (effects : List Effect) : Nat :=
  (effects.filter fun
    | .pollerStarted _ _ => true
    | _ => false).length

/-- Put an operation on the registration at a place into effect. -/
def commit {α : Type} (st : Storage) (i : Slot) (s : Step α) :
    Storage × α × List Effect :=
  ({ st with slots := st.slots.set i s.state,
             started := st.started + startsIn s.effects },
    s.result, s.effects)

/-- Tear down the registration at a place. -/
def teardownAt (st : Storage) (i : Slot) : Storage × List Effect :=
  match st.at? i with
  | some r =>
    let (st, _, effects) := st.commit i r.teardown
    (st, effects)
  | none => (st, [])

-- =========================================================== registering

/-- First step: check the name and take it, for a registration that is not
bound yet. -/
def enrol (env : Surroundings) (info : NodeInfo) (st : Storage) :
    Storage × Except Fault Slot :=
  if !checkName info.name then (st, .error (.invalidNodeName info.name))
  else if channelLimit < env.config.nodes.healthCapacity then
    (st, .error .outOfRange)
  else if (st.slot? info.name).isSome then
    (st, .error (.nodeExists info.name))
  else
    let i := st.slots.length
    ({ st with slots := st.slots ++ [Registration.ofInfo info],
               names := st.names.insert info.name i }, .ok i)

/-- Deregister a name and tear its registration down. -/
def remove (name : String) (st : Storage) :
    Storage × Except Fault Unit × List Effect :=
  match st.slot? name with
  | none => (st, .error (.nodeNotFound name), [])
  | some i =>
    let (st, effects) :=
      { st with names := st.names.erase name }.teardownAt i
    (st, .ok (), effects ++
      [.journal ⟨.info, .storage, "Node " ++ name ++ " deregistered"⟩])

/-- Second step: bind the described address of the registration at `i`; where
that fails, the name is removed again. -/
def settle (env : Surroundings) (info : NodeInfo) (i : Slot) (st : Storage) :
    Storage × Except Fault Slot × List Effect :=
  let welcome : Effect :=
    .journal ⟨.info, .storage, "Node " ++ info.name ++ " registered"⟩
  match info.address, st.at? i with
  | some address, some r =>
    let s := r.bind (st.services env st.clusterOf) address
    let (st, result, effects) := st.commit i s
    match result with
    | .ok _ => (st, .ok i, effects ++ [welcome])
    | .error e =>
      let (st, removed, more) := st.remove info.name
      match removed with
      | .ok () => (st, .error e, effects ++ more)
      | .error gone => (st, .error gone, effects ++ more)
  | _, _ => (st, .ok i, [welcome])

/-- Register a node; one with an address is bound right away. -/
def register (env : Surroundings) (info : NodeInfo) (st : Storage) :
    Storage × Except Fault Slot × List Effect :=
  match st.enrol env info with
  | (st, .ok i) => st.settle env info i
  | (st, .error e) => (st, .error e, [])

/-- The registration of a name; a bare node is registered where there is
none. -/
def getOrRegister (env : Surroundings) (name : String) (st : Storage) :
    Storage × Except Fault Slot × List Effect :=
  match st.slot? name with
  | some i => (st, .ok i, [])
  | none => st.register env (.bare name)

-- ================================================================ all nodes

/-- Take the snapshot of the registration at a place. -/
def snapshotAt (env : Surroundings) (i : Slot) (st : Storage) :
    Storage × Option NodeInfo × List Effect :=
  match st.at? i with
  | some r =>
    let (st, info, effects) :=
      st.commit i (r.snapshot (st.services env st.clusterOf))
    (st, some info, effects)
  | none => (st, none, [])

/-- Take the snapshots of the registrations at some places, in order. -/
def snapshots (env : Surroundings) :
    List Slot → Storage → Storage × List NodeInfo × List Effect
  | [], st => (st, [], [])
  | i :: rest, st =>
    let (st, info, effects) := st.snapshotAt env i
    let (st, infos, more) := snapshots env rest st
    (st, info.toList ++ infos, effects ++ more)

/-- The snapshots of all registered nodes, by name. -/
def list (env : Surroundings) (st : Storage) :
    Storage × List NodeInfo × List Effect :=
  snapshots env st.names.values st

/-- Tear down the registrations at some places, in order. -/
def teardowns : List Slot → Storage → Storage × List Effect
  | [], st => (st, [])
  | i :: rest, st =>
    let (st, effects) := st.teardownAt i
    let (st, more) := teardowns rest st
    (st, effects ++ more)

/-- Deregister every node and tear its registration down. -/
def shutdown (st : Storage) : Storage × List Effect :=
  teardowns st.names.values { st with names := ∅ }

end Storage

end Fleetkeeper
