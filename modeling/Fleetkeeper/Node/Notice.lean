/-
What a registration tells the world: lifecycle events when its snapshot
changes, and health messages when its health is reported.
-/
import Fleetkeeper.Node.Info

namespace Fleetkeeper

/-- What happened to a node. -/
inductive LifecycleAction where
  | online | offline | update
deriving DecidableEq, Repr

namespace LifecycleAction

def toText : LifecycleAction → String
  | online => "ONLINE"
  | offline => "OFFLINE"
  | update => "UPDATE"

/-- The liveness action of a flag. -/
def ofFlag (on : Bool) : LifecycleAction := if on then online else offline

end LifecycleAction

/-- A change of a node's snapshot. `old` is missing while no snapshot had
been built. -/
structure LifecycleEvent where
  actor : String
  action : LifecycleAction
  old : Option NodeInfo
  current : NodeInfo
deriving DecidableEq, Repr

namespace LifecycleEvent

def toJson (e : LifecycleEvent) : Json :=
  .obj
    [("actor", .str e.actor), ("action", .str e.action.toText),
     ("old", .ofOption NodeInfo.toJson e.old), ("current", e.current.toJson)]

end LifecycleEvent

/-- A message on the health channel of a node. -/
structure HealthEvent where
  node : String
  cluster : Option String
  metrics : Metrics
deriving DecidableEq, Repr

namespace HealthEvent

def toJson (e : HealthEvent) : Json :=
  .obj
    [("node", .str e.node), ("cluster", .ofText? e.cluster),
     ("metrics", e.metrics.toJson)]

def ofJson : Json.Decoder HealthEvent :=
  Json.record "a health message"
    (mk <$> Json.required "node" Json.asText
      <*> Json.optional "cluster" Json.asText
      <*> Json.required "metrics" Metrics.ofJson)

end HealthEvent

end Fleetkeeper
