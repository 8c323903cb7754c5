/-
The watch command: register one node, keep its lease alive, report its
health, and say what happens to it until the program is interrupted. Time
goes by in whole seconds: `attend` does what is due now and `forward` is the
next second.
-/
import Fleetkeeper.CommandLine.Command
import Fleetkeeper.CommandLine.Failure
import Fleetkeeper.CommandLine.Host
import Fleetkeeper.Engine.Client
import Fleetkeeper.Node.Fleet

namespace Fleetkeeper.CommandLine

variable {σ : Type}

/-- A node being watched, and how far its channels have been read. -/
structure Watch where
  name : String
  /-- Seconds of the lease. -/
  ttl : Nat
  fleet : Fleet
  slot : Slot
  nodes : Cursor
  logs : Cursor
  health : Cursor
  /-- Seconds since the start. -/
  elapsed : Nat := 0

namespace Watch

/-- The engines behind a way to them. -/
def engines (h : Host σ) : Engines σ where
  makeClient := EngineClient.checkAddress
  poll node address window s :=
    let client : EngineClient σ := ⟨node, address, h.send⟩
    let (answer, s) := client.events .allowAll .system window s
    (answer, 0, s)

/-- Log what a fleet has written to its journal. -/
def tell (h : Host σ) (f : Fleet) (s : σ) : Fleet × σ :=
  ({ f with journal := [] }, f.journal.reverse.foldl (fun s l => h.log l s) s)

/-- Begin to watch the node that the options name. -/
def start (h : Host σ) (config : ClusterConfig) (clock : Instant)
    (o : WatchOptions) (s : σ) : Except Failure Watch × σ :=
  match Fleet.start? config.nodes.healthCapacity config .allowAll true
      clock with
  | none => (.error (.ofFault .outOfRange), s)
  | some f =>
    let nodes := f.lifecycle.subscribe
    let logs := f.logs.subscribe
    let info : NodeInfo :=
      { name := o.name, address := some o.address, cluster := o.cluster }
    let (f, result) := f.register (engines h) info
    let (f, s) := tell h f s
    match result with
    | .error e => (.error (.ofFault e), s)
    | .ok slot =>
      let health := (f.health[slot]?.map Channel.subscribe).getD 0
      (.ok { name := o.name, ttl := o.ttl, fleet := f, slot, nodes, logs,
             health },
        h.note .info ("Watching node " ++ o.name ++ " (Ctrl+C to stop)") s)

-- =================================================================== moments

/-- Seconds between two heartbeats: half of the lease, but one at least. -/
def beatSecs (w : Watch) : Nat := max (w.ttl / 2) 1

/-- Renew the lease and report the health of the node, which is good as long
as it is bound. -/
def beat (h : Host σ) (w : Watch) (s : σ) : Watch × σ :=
  let (f, _) :=
    w.fleet.operate (engines h) w.slot fun env r => r.heartbeat env w.ttl
  let bound := (f.storage.at? w.slot).any (·.client.isSome)
  let report : Metrics :=
    { time := some (.ofInstant f.clock), healthy := some bound }
  let (f, result) := f.operate (engines h) w.slot fun env r =>
    r.updateHealth env .system report
  let s := match result with
    | some (.error e) =>
      h.note .warn ("Failed to report health of " ++ w.name ++ ": "
        ++ e.message) s
    | _ => s
  ({ w with fleet := f }, s)

/-- Make the polls that are due. -/
def poll (h : Host σ) (w : Watch) (s : σ) : Watch × σ :=
  let fuel := w.fleet.storage.slots.length * Fleet.mostActs 1
  let (f, _, s) := w.fleet.runUntil (engines h) w.fleet.timer fuel s
  let (f, s) := tell h f s
  ({ w with fleet := f }, s)

-- ================================================================== hearing

/-- What is said about a change of a node. -/
def lifecycleText (e : LifecycleEvent) : String :=
  "Node " ++ e.current.name ++ ": " ++ e.action.toText ++ " (online: "
    ++ (if e.current.on then "true" else "false") ++ ")"

/-- What is said about an event of the engine. -/
def logText (e : LogEvent) : String :=
  "[" ++ e.severity.title ++ "] " ++ e.node ++ " " ++ e.kind.title
    ++ " " ++ e.action
    ++ " " ++ (e.container.bind (·.name)).getD ""

/-- What is said about a report of health. -/
def healthText (e : HealthEvent) : String :=
  "Health of " ++ e.node ++ ": " ++ match e.metrics.healthy with
    | none => "None"
    | some true => "Some(true)"
    | some false => "Some(false)"

/-- Say what has come in on the channels. -/
def hear (h : Host σ) (w : Watch) (s : σ) : Watch × σ :=
  let (nodeNews, nodes) := w.fleet.lifecycle.drain w.nodes
  let (logNews, logs) := w.fleet.logs.drain w.logs
  let (healthNews, health) := match w.fleet.health[w.slot]? with
    | some c => c.drain w.health
    | none => (⟨0, [], true⟩, w.health)
  let texts :=
    nodeNews.messages.map lifecycleText ++ logNews.messages.map logText
      ++ healthNews.messages.map healthText
  ({ w with nodes, logs, health }, texts.foldl (fun s t => h.note .info t s) s)

-- ===================================================================== time

/-- Do what is due now. -/
def attend (h : Host σ) (w : Watch) (s : σ) : Watch × σ :=
  let (w, s) := if w.elapsed % w.beatSecs = 0 then w.beat h s else (w, s)
  let (w, s) := w.poll h s
  w.hear h s

/-- The next second. -/
def forward (w : Watch) : Watch :=
  let f := (w.fleet.advance (.ofMillis 1000)).1
  { w with fleet := { f with timer := f.timer + 1000 },
           elapsed := w.elapsed + 1 }

/-- Stop watching. -/
def stop (h : Host σ) (w : Watch) (s : σ) : σ :=
  let s := h.note .info "Shutting down" s
  (tell h w.fleet.shutdown s).2

/-- Watch until the world says that it is enough, for `limit` more seconds at
most. -/
def runUntil (h : Host σ) (enough : σ → Bool) : Nat → Watch → σ → σ
  | 0, w, s =>
    let (w, s) := w.attend h s
    w.stop h s
  | limit + 1, w, s =>
    let (w, s) := w.attend h s
    if enough s then w.stop h s else runUntil h enough limit w.forward s

end Watch

end Fleetkeeper.CommandLine
