/-
Events as an engine reports them, and the window of time that a subscription
asks for.
-/
import Fleetkeeper.Engine.Container
import Fleetkeeper.Time.Instant

namespace Fleetkeeper

/-- What an event is about; a kind of no known name is `unknown`. -/
inductive EventKind where
  | container | image | volume | network | daemon | plugin | node | service
  | secret | config | unknown
deriving DecidableEq, Repr

namespace EventKind

def words : List (String × EventKind) :=
  [("container", container), ("image", image), ("volume", volume),
   ("network", network), ("daemon", daemon), ("plugin", plugin),
   ("node", node), ("service", service), ("secret", secret),
   ("config", config), ("unknown", unknown)]

def toText : EventKind → String
  | container => "container"
  | image => "image"
  | volume => "volume"
  | network => "network"
  | daemon => "daemon"
  | plugin => "plugin"
  | node => "node"
  | service => "service"
  | secret => "secret"
  | config => "config"
  | unknown => "unknown"

/-- The kind as a title. -/
def title : EventKind → String
  | container => "Container"
  | image => "Image"
  | volume => "Volume"
  | network => "Network"
  | daemon => "Daemon"
  | plugin => "Plugin"
  | node => "Node"
  | service => "Service"
  | secret => "Secret"
  | config => "Config"
  | unknown => "Unknown"

def toJson (k : EventKind) : Json := .str k.toText

def ofJson : Json.Decoder EventKind := fun j => do
  let s ← Json.asWord j
  match words.find? (fun e => e.1 == s) with
  | some e => pure e.2
  | none => pure unknown

end EventKind

/-- The object that produced an event. -/
structure Actor where
  id : String := ""
  attributes : Table String := ∅
deriving DecidableEq, Repr

namespace Actor

def toJson (a : Actor) : Json :=
  .obj [("ID", .str a.id), ("Attributes", .ofTable .str a.attributes)]

def ofJson : Json.Decoder Actor :=
  Json.record "an actor"
    (mk <$> Json.orElse "ID" Json.asText ""
      <*> Json.orElse "Attributes" (Json.asTable Json.asText) ∅)

end Actor

/-- The node that an engine of several nodes names in an event. -/
structure EventNode where
  name : String := ""
  addr : String := ""
deriving DecidableEq, Repr

namespace EventNode

def toJson (n : EventNode) : Json :=
  .obj [("Name", .str n.name), ("Addr", .str n.addr)]

def ofJson : Json.Decoder EventNode :=
  Json.record "the node of an event"
    (mk <$> Json.orElse "Name" Json.asText ""
      <*> Json.orElse "Addr" Json.asText "")

end EventNode

/-- An event as reported. -/
structure EngineEvent where
  kind : EventKind
  action : String := ""
  actor : Option Actor := none
  status : Option String := none
  id : Option String := none
  image : Option String := none
  node : Option EventNode := none
  time : Int := 0
  timeNano : Option Int := none
deriving DecidableEq, Repr

namespace EngineEvent

/-- When it happened: the nanosecond count when there is a positive one, else
the count of seconds, if dates can show it. -/
def date? (e : EngineEvent) : Option Instant :=
  match e.timeNano with
  | some n => if 0 < n then some ⟨n⟩ else Instant.ofSeconds? e.time
  | none => Instant.ofSeconds? e.time

/-- The container it is about: the actor's id unless that is missing or
empty, else the id of the event itself. -/
def containerId? (e : EngineEvent) : Option String :=
  match e.actor with
  | some a => if a.id ≠ "" then some a.id else e.id
  | none => e.id

def toJson (e : EngineEvent) : Json :=
  .obj
    [("Type", e.kind.toJson), ("Action", .str e.action),
     ("Actor", .ofOption Actor.toJson e.actor), ("status", .ofText? e.status),
     ("id", .ofText? e.id), ("from", .ofText? e.image),
     ("node", .ofOption EventNode.toJson e.node), ("time", .int e.time),
     ("timeNano", .ofOption .int e.timeNano)]

def ofJson : Json.Decoder EngineEvent :=
  Json.record "an event"
    (mk <$> Json.required "Type" EventKind.ofJson
      <*> Json.orElse "Action" Json.asText ""
      <*> Json.omittable "Actor" Actor.ofJson
      <*> Json.omittable "status" Json.asText
      <*> Json.omittable "id" Json.asText
      <*> Json.omittable "from" Json.asText
      <*> Json.omittable "node" EventNode.ofJson
      <*> Json.orElse "time" Json.asI64 0
      <*> Json.omittable "timeNano" Json.asI64)

end EngineEvent

/-- The time that a subscription covers. -/
structure Window where
  since : Instant
  till : Instant
deriving DecidableEq, Repr

namespace Window

/-- The window that starts at `since` and lasts `period`. -/
def starting? (since : Instant) (period : Span) : Option Window :=
  (since.add? period).map fun till => ⟨since, till⟩

/-- The window as query parameters, in whole seconds. -/
def query (w : Window) : List (String × String) :=
  [("since", toString w.since.seconds), ("until", toString w.till.seconds)]

end Window

end Fleetkeeper
