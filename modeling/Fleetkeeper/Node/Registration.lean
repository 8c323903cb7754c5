/-
The registration of one node: its draft, the snapshot last built from it, the
lease, the client bound to its address and the poller of that client.

An operation yields the registration after it, a result, and what it told the
world, in order. It reads the clock at most twice, as `now` and `later`.
Liveness is derived when a snapshot is taken, not when the lease runs out;
the first snapshot that sees a change tells it.
-/
import Fleetkeeper.Access
import Fleetkeeper.Journal
import Fleetkeeper.Node.LogEvent
import Fleetkeeper.Node.Notice
import Fleetkeeper.Node.Poller

namespace Fleetkeeper

/-- A client of the engine at an address. -/
structure Client where
  address : String
  /-- The serial of the binding that made it. -/
  serial : Nat
deriving DecidableEq, Repr

/-- What an operation does to the world beside the registration. -/
inductive Effect where
  | lifecycle (e : LifecycleEvent)
  | health (e : HealthEvent)
  | log (e : LogEvent)
  | journal (l : LogLine)
  /-- The client factory was asked for this address. -/
  | bindAsked (node address : String)
  | pollerStarted (serial : Nat) (address : String)
  | pollerStopped (serial : Nat)
deriving Repr

/-- What a registration needs from its surroundings. -/
structure Services where
  now : Instant
  later : Instant
  access : AccessControl := .allowAll
  members : Membership := fun _ => none
  /-- Whether a client of this node can be made for an address. -/
  makeClient : String → String → Except Fault Unit := fun _ _ => .ok ()
  /-- Whether there is something to run pollers on. -/
  hasRuntime : Bool := true
  polling : PollConfig := {}
  nodes : NodesConfig := {}
  /-- Milliseconds of the timer. -/
  timer : Nat := 0
  /-- The serial of the next binding. -/
  serial : Nat := 0

/-- The registration of a node. -/
structure Registration where
  name : String
  draft : Draft
  cache : Option NodeInfo := none
  lease : Option Instant := none
  ttl : Nat := 0
  client : Option Client := none
  poller : Option Poller := none
  closed : Bool := false
deriving Repr

/-- An operation on a registration, done. -/
structure Step (α : Type) where
  state : Registration
  result : α
  effects : List Effect

namespace Registration

/-- A node just described, not bound to anything. -/
def ofInfo (info : NodeInfo) : Registration :=
  { name := info.name, draft := info.toDraft }

/-- The registration as a guarded object. -/
def oid (r : Registration) : ObjectId := ⟨.node, r.name⟩

def address (r : Registration) : Option String := r.draft.address

def cluster (r : Registration) : Option String := r.draft.cluster

/-- Whether a poller is scheduled. -/
def isPolling (r : Registration) : Bool :=
  match r.poller with
  | some p => p.alive
  | none => false

/-- What can be seen of a registration without taking its snapshot. -/
def toJson (r : Registration) : Json :=
  .obj
    ([("oid", .str r.oid.toText), ("ttl", .ofNat r.ttl)]
      ++ memberIfSet "cluster" .str r.cluster
      ++ memberIfSet "address" .str r.address
      ++ memberIfSet "client" .str (r.client.map Client.address)
      ++ [("polling", .bool r.isPolling), ("closed", .bool r.closed)])

-- ============================================================= liveness

/-- Seconds that a lease asked for as `secs` lasts. -/
def leaseSecs (nodes : NodesConfig) (secs : Nat) : Nat :=
  max secs (max nodes.minTtlSecs minTtlSecs)

/-- Renew the lease. -/
def heartbeat (env : Services) (secs : Nat) (r : Registration) :
    Step (Except Fault Unit) :=
  let ttl := leaseSecs env.nodes secs
  let stop := do
    let span ← Span.ofSeconds? (signed64 ttl)
    env.now.add? span
  match stop with
  | none => ⟨r, .error .outOfRange, []⟩
  | some stop => ⟨{ r with lease := some stop, ttl := low32 ttl }, .ok (), []⟩

/-- Whether the lease is valid. -/
def isOn (now : Instant) (r : Registration) : Bool :=
  match r.lease with
  | some stop => now ≤ stop
  | none => false

/-- The change of liveness that a registration sees at `now`, if any. -/
def transition? (now : Instant) (r : Registration) : Bool :=
  r.isOn now != r.draft.on

/-- Derive the online flag and build the snapshot where the one at hand is
not current: the registration, the snapshot, and the event to tell. -/
def refresh (now : Instant) (r : Registration) :
    Registration × NodeInfo × Option LifecycleEvent :=
  let on := r.isOn now
  if r.transition? now then
    let draft := { r.draft with on }
    let current := draft.build r.name
    ({ r with draft, cache := some current }, current,
      some ⟨r.name, .ofFlag on, r.cache, current⟩)
  else
    match r.cache with
    | some current => (r, current, none)
    | none =>
      let current := r.draft.build r.name
      ({ r with cache := some current }, current, none)

/-- An event to tell, as effects. -/
def tell (e : Option LifecycleEvent) : List Effect :=
  e.toList.map Effect.lifecycle

/-- The current snapshot. -/
def snapshot (env : Services) (r : Registration) : Step NodeInfo :=
  let (r, current, event) := r.refresh env.now
  ⟨r, current, tell event⟩

-- ============================================================== binding

/-- Stop the poller, if there is one. -/
def stopPoller (r : Registration) : Registration × List Effect :=
  match r.poller with
  | some p => ({ r with poller := none }, [.pollerStopped p.serial])
  | none => (r, [])

/-- Note the address in the draft. -/
def noteAddress (address : String) (r : Registration) : Registration :=
  if r.draft.address = some address then r
  else { r with draft := r.draft.setAddress (some address), cache := none }

/-- Make a client and its poller for a registration that has neither. -/
def attach (env : Services) (address : String) (r : Registration) :
    Step (Except Fault Client) :=
  let asked : Effect := .bindAsked r.name address
  match env.makeClient r.name address with
  | .error e => ⟨r, .error e, [asked]⟩
  | .ok () =>
    if env.hasRuntime then
      let client : Client := ⟨address, env.serial⟩
      let poller := Poller.start env.serial address env.polling env.timer
      ⟨{ r with client := some client, poller := some poller }, .ok client,
        [asked,
         .journal ⟨.info, .registration,
          "Begin fetching events of node " ++ r.name⟩,
         .pollerStarted env.serial address,
         .journal ⟨.info, .registration,
          "Node " ++ r.name ++ " bound to " ++ address⟩]⟩
    else
      ⟨r, .error
        (.node ("No async runtime to poll events of node " ++ r.name)),
        [asked]⟩

/-- Bind to an address. The address a client is already bound to changes
nothing; otherwise the old client goes before the new one is made, so a
failed binding leaves none. -/
def bind (env : Services) (address : String) (r : Registration) :
    Step (Except Fault Client) :=
  let r := r.noteAddress address
  let rebind : Step (Except Fault Client) :=
    if r.closed then
      ⟨r, .error (.node ("Registration of node " ++ r.name ++ " is closed")),
        []⟩
    else
      let (r, stopped) := r.stopPoller
      let s := attach env address { r with client := none }
      { s with effects := stopped ++ s.effects }
  match r.client with
  | some c => if c.address = address then ⟨r, .ok c, []⟩ else rebind
  | none => rebind

/-- Drop the client and its poller. -/
def unbind (r : Registration) : Registration × List Effect :=
  let (bare, stopped) := r.stopPoller
  let told : List Effect :=
    if r.client.isSome || !stopped.isEmpty then
      [.journal ⟨.info, .registration, "Node " ++ r.name ++ " unbound"⟩]
    else []
  ({ bare with client := none }, stopped ++ told)

/-- Close the registration for good. -/
def teardown (r : Registration) : Step Unit :=
  let (r, stopped) := r.stopPoller
  ⟨{ r with client := none, closed := true }, (), stopped⟩

/-- Nobody holds the registration any more. -/
def drop (r : Registration) : Step Unit :=
  let (r, stopped) := r.stopPoller
  ⟨r, (), stopped⟩

-- ================================================================ edits

/-- Fails unless the caller may update the node. -/
def checkUpdate (env : Services) (caller : Caller) (r : Registration) :
    Except Fault Unit :=
  env.access.check caller r.oid .update

/-- The event that tells a change of the snapshot. -/
def updateEvent (name : String) (old : Option NodeInfo) (current : NodeInfo) :
    Effect :=
  .lifecycle ⟨name, .update, old, current⟩

/-- Lay a report over the node's health and publish the outcome, changed or
not. -/
def updateHealth (env : Services) (caller : Caller) (report : Metrics)
    (r : Registration) : Step (Except Fault Metrics) :=
  match r.checkUpdate env caller with
  | .error e => ⟨r, .error e, []⟩
  | .ok () =>
    let merged := r.draft.health.merge report
    let r := { r with draft := r.draft.setHealth merged, cache := none }
    ⟨r, .ok merged, [.health ⟨r.name, r.cluster, merged⟩]⟩

/-- Bind to the address that an edit left, or unbind where it left none. A
closed registration is not bound again, and that is no fault. -/
def rebind (env : Services) (r : Registration) : Step (Except Fault Unit) :=
  match r.draft.address with
  | some address =>
    if r.closed then ⟨r, .ok (), []⟩
    else
      let s := r.bind env address
      ⟨s.state, s.result.map fun _ => (), s.effects⟩
  | none =>
    let (r, effects) := r.unbind
    ⟨r, .ok (), effects⟩

/-- Edit the node. The online flag stays as it was, a changed address is
bound, a changed snapshot and changed health are told, also where binding
failed. -/
def mutate (env : Services) (caller : Caller) (edit : Draft → Draft)
    (r : Registration) : Step (Except Fault Unit) :=
  match r.checkUpdate env caller with
  | .error e => ⟨r, .error e, []⟩
  | .ok () =>
    let (r, old, before) := r.refresh env.now
    let draft := { edit r.draft with on := r.draft.on }
    let healthChanged := !(draft.health == r.draft.health)
    let s := rebind env { r with draft, cache := none }
    let (r, current, after) := s.state.refresh env.later
    let health : List Effect :=
      if healthChanged then
        [.health ⟨r.name, r.cluster, r.draft.health⟩]
      else []
    let update : List Effect :=
      if old == current then [] else [updateEvent r.name (some old) current]
    ⟨r, s.result, s.effects ++ tell before ++ tell after ++ update ++ health⟩

/-- Start an edit that breaks off: what it did to the draft so far stays, the
snapshot at hand stays too, and nothing is told. -/
def breakOff (env : Services) (caller : Caller) (edit : Draft → Draft)
    (r : Registration) : Step (Except Fault Unit) :=
  match r.checkUpdate env caller with
  | .error e => ⟨r, .error e, []⟩
  | .ok () =>
    let (r, _, _) := r.refresh env.now
    ⟨{ r with draft := edit r.draft }, .error .outOfRange, []⟩

/-- Move the node to another cluster, or to none. -/
def setCluster (env : Services) (cluster : Option String) (r : Registration) :
    Step Unit :=
  if r.draft.cluster = cluster then ⟨r, (), []⟩
  else
    let old := r.cache
    let r := { r with draft := r.draft.setCluster cluster, cache := none }
    let (r, current, event) := r.refresh env.now
    ⟨r, (), tell event ++ [updateEvent r.name old current]⟩

-- =============================================================== events

/-- A text in quotes, as it stands in a log line. -/
def quotedCluster : Option String → String
  | none => "None"
  | some c => "Some(" ++ c.quote ++ ")"

/-- Take in an event of this node's engine: normalized, it goes to the log;
one that cannot be normalized is dropped. -/
def acceptEvent (env : Services) (e : EngineEvent) (r : Registration) :
    List Effect :=
  match e.normalise r.name env.members with
  | .ok event =>
    (if event.cluster = r.cluster then []
      else
        [.journal ⟨.warn, .events,
          "Current node cluster '" ++ quotedCluster r.cluster
            ++ "' differs from event cluster '" ++ quotedCluster event.cluster
            ++ "'"⟩])
      ++ [.log event]
  | .error fault =>
    [.journal ⟨.error, .registration,
      "Can not convert event of node " ++ r.name ++ ": " ++ fault.message⟩]

end Registration

end Fleetkeeper
