/-
A fleet at work: the storage of registrations, who else holds on to them,
the channels that events go out on, the clock that leases are measured by
and the timer that pollers run on.

A registration lives while the storage or a holder has it. When the last one
lets go, its poller stops and its health channel closes.

`run` moves the timer: the poller that is due first acts, one at a time, and
pollers due at the same moment act in the order they were started in. The
engines that polls go to are a parameter on an arbitrary world. Nothing happens
while a poll goes on: it has a start and an end, and its events reach the node
at the end.
-/
import Fleetkeeper.Channel
import Fleetkeeper.Node.Storage

namespace Fleetkeeper

/-- The engines that nodes are bound to. -/
structure Engines (σ : Type) where
  /-- Whether a client of a node can be made for an address. -/
  makeClient : String → String → Except Fault Unit
  /-- Ask the engine of a node, at an address, for the events of a window:
  what it brings and how many milliseconds it takes. -/
  poll : String → String → Window → σ → PollAnswer × Nat × σ

/-- A poll that was started. -/
structure Poll where
  /-- Milliseconds of the timer. -/
  start : Nat
  node : String
  address : String
  window : Window
deriving Repr

namespace Poll

/-- Whether a poll comes before another in a report: by time, then by
node. -/
def le (p q : Poll) : Bool :=
  p.start < q.start || (p.start = q.start && decide (p.node ≤ q.node))

/-- A poll as reported; every poll is made on behalf of the system. -/
def toJson (p : Poll) : Json :=
  .obj [("at_ms", .ofNat p.start), ("node", .str p.node),
        ("address", .str p.address),
        ("since", (Stamp.ofInstant p.window.since).toJson),
        ("until", (Stamp.ofInstant p.window.till).toJson),
        ("system", .bool Caller.system.isSystem),
        ("principal", .str Caller.system.principal)]

end Poll

/-- A storage in its surroundings. -/
structure Fleet where
  config : ClusterConfig := {}
  access : AccessControl := .allowAll
  hasRuntime : Bool := true
  /-- What the clock shows. -/
  clock : Instant
  /-- Milliseconds of the timer. -/
  timer : Nat := 0
  storage : Storage := {}
  /-- The registrations that somebody beside the storage holds. -/
  held : Table Slot := ∅
  lifecycle : Channel LifecycleEvent
  logs : Channel LogEvent
  /-- The health channel of each registration, by its place. -/
  health : List (Channel HealthEvent) := []
  /-- What was written to the log, the newest line first. -/
  journal : List LogLine := []

namespace Fleet

variable {σ α : Type}

/-- A fleet without nodes whose channels keep `capacity` messages; none where
no channel can be of that capacity. -/
def start? (capacity : Nat) (config : ClusterConfig) (access : AccessControl)
    (hasRuntime : Bool) (clock : Instant) : Option Fleet :=
  if capacity = 0 ∨ channelLimit < capacity then none
  else some
    { config, access, hasRuntime, clock, lifecycle := .ofCapacity capacity,
      logs := .ofCapacity capacity }

/-- What the storage finds around it. -/
def surroundings (engines : Engines σ) (f : Fleet) : Surroundings where
  now := f.clock
  later := f.clock
  access := f.access
  makeClient := engines.makeClient
  hasRuntime := f.hasRuntime
  config := f.config
  timer := f.timer

/-- What a registration finds around it. -/
def services (engines : Engines σ) (f : Fleet) : Services :=
  f.storage.services (f.surroundings engines) f.storage.clusterOf

-- ============================================================= publishing

/-- Bring an effect of the registration at `i` to those it concerns. -/
def publish (i : Slot) (f : Fleet) : Effect → Fleet
  | .lifecycle e => { f with lifecycle := f.lifecycle.send e }
  | .log e => { f with logs := f.logs.send e }
  | .health e => { f with health := f.health.modify i (·.send e) }
  | .journal l => { f with journal := l :: f.journal }
  | .bindAsked _ _ | .pollerStarted _ _ | .pollerStopped _ => f

/-- Bring effects of the registration at `i` to those they concern, in
order. -/
def publishAll (i : Slot) (effects : List Effect) (f : Fleet) : Fleet :=
  effects.foldl (publish i) f

/-- Give every new registration its health channel. -/
def openHealth (f : Fleet) : Fleet :=
  let missing := f.storage.slots.length - f.health.length
  let bus := Channel.ofCapacity (max f.config.nodes.healthCapacity 1)
  { f with health := f.health ++ List.replicate missing bus }

-- ================================================================ holders

/-- Whether somebody still has the registration at a place. -/
def isKept (f : Fleet) (i : Slot) : Bool :=
  f.storage.names.values.contains i || f.held.values.contains i

/-- Let the registration at a place go. -/
def letGo (f : Fleet) (i : Slot) : Fleet :=
  match f.storage.at? i with
  | some r =>
    let (storage, _, effects) := f.storage.commit i r.drop
    { f.publishAll i effects with
      storage, health := f.health.modify i Channel.close }
  | none => f

/-- Let every registration go that nobody has any more. -/
def sweep (f : Fleet) : Fleet :=
  ((List.range f.storage.slots.length).filter fun i => !f.isKept i).foldl
    letGo f

/-- Hold the registration at a place under a name. -/
def hold (name : String) (i : Slot) (f : Fleet) : Fleet :=
  { f with held := f.held.insert name i }.sweep

/-- Let go what is held under a name; whether there was something. -/
def release (name : String) (f : Fleet) : Fleet × Bool :=
  ({ f with held := f.held.erase name }.sweep, f.held.contains name)

/-- The registration held under a name. -/
def held? (f : Fleet) (name : String) : Option (Slot × Registration) := do
  let i ← f.held.find? name
  let r ← f.storage.at? i
  pure (i, r)

-- ============================================================= operations

/-- Take over a storage after an operation on the registration at `i`. -/
def settle (storage : Storage) (i : Slot) (effects : List Effect)
    (f : Fleet) : Fleet :=
  ({ f with storage }.openHealth.publishAll i effects).sweep

/-- An operation on the registration at `i`. -/
def operate (engines : Engines σ) (i : Slot)
    (op : Services → Registration → Step α) (f : Fleet) : Fleet × Option α :=
  match f.storage.at? i with
  | some r =>
    let (storage, a, effects) := f.storage.commit i (op (f.services engines) r)
    (f.settle storage i effects, some a)
  | none => (f, none)

/-- Take in an engine event for the registration at `i`. -/
def accept (engines : Engines σ) (i : Slot) (e : EngineEvent) (f : Fleet) :
    Fleet :=
  match f.storage.at? i with
  | some r => f.publishAll i (r.acceptEvent (f.services engines) e)
  | none => f

/-- Register a node and hold its registration. -/
def register (engines : Engines σ) (info : NodeInfo) (f : Fleet) :
    Fleet × Except Fault Slot :=
  let i := f.storage.slots.length
  let (storage, result, effects) :=
    f.storage.register (f.surroundings engines) info
  match result with
  | .ok j =>
    ({ f with held := f.held.insert info.name j }.settle storage i effects,
      result)
  | .error _ => (f.settle storage i effects, result)

/-- Hold the registration of a name; a bare node is registered where there is
none. -/
def getOrRegister (engines : Engines σ) (name : String) (f : Fleet) :
    Fleet × Except Fault Slot :=
  match f.storage.slot? name with
  | some i => (f.hold name i, .ok i)
  | none => f.register engines (.bare name)

/-- Hold the registration of a name. -/
def get (name : String) (f : Fleet) : Fleet × Except Fault Slot :=
  match f.storage.get name with
  | .ok i => (f.hold name i, .ok i)
  | .error e => (f, .error e)

/-- Deregister a name. -/
def remove (name : String) (f : Fleet) : Fleet × Except Fault Unit :=
  let (storage, result, effects) := f.storage.remove name
  (f.settle storage 0 effects, result)

/-- The snapshots of all registered nodes, by name. -/
def list (engines : Engines σ) (f : Fleet) : Fleet × List NodeInfo :=
  let (storage, infos, effects) := f.storage.list (f.surroundings engines)
  (f.settle storage 0 effects, infos)

/-- Deregister every node. -/
def shutdown (f : Fleet) : Fleet :=
  let (storage, effects) := f.storage.shutdown
  f.settle storage 0 effects

/-- Let go of the storage itself: its names lead nowhere any more, and what
only it had goes; what somebody holds goes on. -/
def dropStorage (f : Fleet) : Fleet :=
  { f with storage := { f.storage with names := ∅ } }.sweep

/-- Move the clock; it stays where dates would end. -/
def advance (d : Span) (f : Fleet) : Fleet × Except Fault Unit :=
  match f.clock.add? d with
  | some clock => ({ f with clock }, .ok ())
  | none => (f, .error .outOfRange)

-- ================================================================= pollers

/-- Put the poller of the registration at a place into a phase. -/
def setPoller (i : Slot) (p : Poller) (f : Fleet) : Fleet :=
  let slots := f.storage.slots.modify i fun r => { r with poller := some p }
  { f with storage := { f.storage with slots } }

/-- The earlier of two pollers to act; of two at one moment that started
first. -/
def earlier (a b : Slot × Poller × Nat) : Slot × Poller × Nat :=
  if b.2.2 < a.2.2 ∨ (b.2.2 = a.2.2 ∧ b.2.1.serial < a.2.1.serial) then b
  else a

/-- The pollers that will act, with the moment when. -/
def waking (f : Fleet) : List (Slot × Poller × Nat) :=
  f.storage.slots.zipIdx.filterMap fun (r, i) => do
    let p ← r.poller
    let moment ← p.wake?
    pure (i, p, moment)

/-- The poller that acts next, and when. -/
def next? (f : Fleet) : Option (Slot × Poller × Nat) :=
  match f.waking with
  | [] => none
  | a :: rest => some (rest.foldl earlier a)

/-- What a poll brought reaches the node it was made for. It is handed over
when the poll is over, all of it at once and not line by line as it comes in.
So a poll that is cut off before its end delivers nothing, whatever had come by
then. -/
def deliver (engines : Engines σ) (i : Slot) (node : String)
    (answer : PollAnswer) (f : Fleet) : Fleet :=
  let f := f.publishAll i (answer.remarks.map .journal)
  let f := answer.events.foldl (fun f e => f.accept engines i e) f
  match answer.result with
  | .ok _ => f
  | .error e =>
    f.publish i (.journal ⟨.warn, .registration,
      "Failed to fetch events of node " ++ node ++ ": " ++ e.message⟩)

/-- A poller that is due acts: a poll of it starts or ends. What the engine
answers is settled when the poll starts, and stays with the poller until the
poll is over; if the poller is stopped in between, its answer goes with it. -/
def act (engines : Engines σ) (i : Slot) (node : String) (p : Poller)
    (f : Fleet) (s : σ) : Fleet × Option Poll × σ :=
  match p.phase with
  | .waiting tick =>
    match Poller.onTick f.config.polling f.clock with
    | none => (f.setPoller i { p with phase := .dead }, none, s)
    | some window =>
      let (answer, took, s) := engines.poll node p.address window s
      let p' := p.polling f.config.polling tick f.timer took answer
      (f.setPoller i p', some ⟨f.timer, node, p.address, window⟩, s)
  | .polling _ tick answer =>
    (f.setPoller i { p with phase := .waiting tick } |>.deliver engines i node
      answer, none, s)
  | .dead => (f, none, s)

/-- Let every poller act that is due up to a moment, at most `fuel` times;
the polls started, in order. -/
def runUntil (engines : Engines σ) (stop : Nat) :
    Nat → Fleet → σ → Fleet × List Poll × σ
  | 0, f, s => (f, [], s)
  | fuel + 1, f, s =>
    match f.next? with
    | none => (f, [], s)
    | some (i, p, moment) =>
      if stop < moment then (f, [], s)
      else
        match f.storage.at? i with
        | none => (f, [], s)
        | some r =>
          let (f, poll, s) :=
            { f with timer := max f.timer moment }.act engines i r.name p s
          let (f, polls, s) := runUntil engines stop fuel f s
          (f, poll.toList ++ polls, s)

/-- More often than this a poller does not act in so many seconds: it starts
at most one poll per second, and each one ends once. -/
def mostActs (secs : Nat) : Nat := 2 * secs + 8

/-- Move the timer by so many seconds, and one millisecond more, so that what
is due just then is done. -/
def run (engines : Engines σ) (secs : Nat) (f : Fleet) (s : σ) :
    Fleet × List Poll × σ :=
  let stop := f.timer + secs * 1000 + 1
  let fuel := f.storage.slots.length * mostActs secs
  let (f, polls, s) := f.runUntil engines stop fuel s
  ({ f with timer := stop }, polls, s)

end Fleet

end Fleetkeeper
