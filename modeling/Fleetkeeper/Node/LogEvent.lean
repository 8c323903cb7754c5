/-
Events of the whole cluster in one form. A raw engine event becomes a log
event: the node it happened on, the cluster of that node, a canonical action,
and for container events a descriptor of the container. Normalising fails
only where a container event cannot say which container it is about or where
the time of the event is no date.
-/
import Fleetkeeper.Engine.Event
import Fleetkeeper.Time.Stamp

namespace Fleetkeeper

/-- How bad an event is, in ascending order. -/
inductive Severity where
  | info | warning | error
deriving DecidableEq, Repr

namespace Severity

def words : List (String × Severity) :=
  [("INFO", info), ("WARNING", warning), ("ERROR", error)]

def toText : Severity → String
  | info => "INFO"
  | warning => "WARNING"
  | error => "ERROR"

/-- The severity as a title. -/
def title : Severity → String
  | info => "Info"
  | warning => "Warning"
  | error => "Error"

def rank : Severity → Nat
  | info => 0
  | warning => 1
  | error => 2

/-- Severities are ordered by badness. -/
def lt (a b : Severity) : Bool := a.rank < b.rank

def toJson (s : Severity) : Json := .str s.toText

def ofJson : Json.Decoder Severity := Json.asVariant words

/-- The severity that a raw status implies. -/
def ofStatus : Option String → Severity
  | some "die" => error
  | some "kill" => warning
  | _ => info

end Severity

/-- A normalized event. -/
structure LogEvent where
  action : String
  node : String
  cluster : Option String
  date : Stamp
  kind : EventKind
  status : Option String
  severity : Severity
  container : Option ContainerBase
deriving DecidableEq, Repr

/-- Canonical actions. -/
def actionStop : String := "STOP"
def actionDelete : String := "DELETE"

/-- What a raw container action means: its canonical name, where it is
renamed, and the state it leaves the container in. A kill is a stop. -/
def mapAction (action : String) : Option String × Option ContainerState :=
  match action with
  | "kill" => (some actionStop, some .exited)
  | "destroy" => (some actionDelete, some .removing)
  | "die" => (none, some .dead)
  | "stop" => (none, some .dead)
  | "start" => (none, some .running)
  | "unpause" => (none, some .running)
  | "pause" => (none, some .paused)
  | "restart" => (none, some .restarting)
  | _ => (none, none)

/-- Which cluster a node belongs to. -/
abbrev Membership := String → Option String

namespace EngineEvent

/-- The node an event happened on: the one it names, unless it names none or
an empty one. -/
def nodeName (e : EngineEvent) (localNode : String) : String :=
  match e.node with
  | some n => if n.name ≠ "" then n.name else localNode
  | none => localNode

/-- The attributes of an actor that are labels: all but the name and the
image. -/
def labelsOf (a : Actor) : Table String :=
  (a.attributes.erase "name").erase "image"

/-- The container part of a log event: the action and the descriptor. -/
def containerPart (e : EngineEvent) (node : String) :
    Except Fault (String × ContainerBase) :=
  match e.actor with
  | none =>
    .error (.event ("container event '" ++ e.action ++ "' without actor"))
  | some actor =>
    match e.containerId? with
    | none => .error (.event "container event without id")
    | some id =>
      let (renamed, state) := mapAction e.action
      .ok (renamed.getD e.action,
        { id, name := actor.attributes.find? "name", image := e.image,
          node := some node, labels := labelsOf actor, state })

/-- A raw event received from `localNode`, normalized. The cluster is that of
the node the event names, whatever the receiving node's own cluster is. -/
def normalise (e : EngineEvent) (localNode : String) (members : Membership) :
    Except Fault LogEvent := do
  let node := e.nodeName localNode
  let (action, container) ←
    if e.kind = .container then
      (e.containerPart node).map fun (action, base) => (action, some base)
    else .ok (e.action, none)
  match e.date? with
  | none => .error (.event ("invalid event time " ++ toString e.time))
  | some date =>
    .ok { action, node, cluster := members node, date := .ofInstant date,
          kind := e.kind, status := e.status,
          severity := Severity.ofStatus e.status, container }

end EngineEvent

namespace LogEvent

def toJson (e : LogEvent) : Json :=
  .obj
    [("action", .str e.action), ("node", .str e.node),
     ("cluster", .ofText? e.cluster), ("date", e.date.toJson),
     ("event_type", e.kind.toJson), ("status", .ofText? e.status),
     ("severity", e.severity.toJson),
     ("container", .ofOption ContainerBase.toJson e.container)]

def ofJson : Json.Decoder LogEvent :=
  Json.record "a log event"
    (mk <$> Json.required "action" Json.asText
      <*> Json.required "node" Json.asText
      <*> Json.optional "cluster" Json.asText
      <*> Json.required "date" Stamp.ofJson
      <*> Json.required "event_type" EventKind.ofJson
      <*> Json.optional "status" Json.asText
      <*> Json.required "severity" Severity.ofJson
      <*> Json.optional "container" ContainerBase.ofJson)

end LogEvent

end Fleetkeeper
