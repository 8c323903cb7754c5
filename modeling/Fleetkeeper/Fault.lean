/-
Why an operation failed. A fault is a cause, not a text; `Fault.message` is
the one place where the wording lives.
-/
namespace Fleetkeeper

/-- The cause of a failed operation. -/
inductive Fault where
  | node (detail : String)
  | nodeNotFound (name : String)
  | nodeExists (name : String)
  | invalidNodeName (name : String)
  | accessDenied (object action : String)
  | docker (detail : String)
  | dockerApi (status : Nat) (path detail : String)
  | event (detail : String)
  | container (detail : String)
  | containerNotFound (detail : String)
  | healthCheckFailed (id : String)
  | batch (detail : String)
  | lock (detail : String)
  | http (detail : String)
  | io (detail : String)
  | json (detail : String)
  | yaml (detail : String)
  | invalidConfig (detail : String)
  /-- A date, a duration or a capacity left its range; the operation broke
  off. -/
  | outOfRange
deriving DecidableEq, Repr, Inhabited

namespace Fault

/-- The wording of a fault. -/
def message : Fault → String
  | node d => "Node error: " ++ d
  | nodeNotFound n => "Node not found: " ++ n
  | nodeExists n => "Node already registered: " ++ n
  | invalidNodeName n => "Invalid node name: " ++ n
  | accessDenied object action =>
    "Access denied: " ++ action ++ " on " ++ object
  | docker d => "Docker error: " ++ d
  | dockerApi status path d =>
    "Docker API returned " ++ toString status ++ " for " ++ path ++ ": " ++ d
  | event d => "Event translation error: " ++ d
  | container d => "Container error: " ++ d
  | containerNotFound d => "Container not found: " ++ d
  | healthCheckFailed id => "Health check failed for container " ++ id
  | batch d => "Batch error: " ++ d
  | lock d => "Lock error: " ++ d
  | http d => "HTTP error: " ++ d
  | io d => "IO error: " ++ d
  | json d => "JSON error: " ++ d
  | yaml d => "YAML error: " ++ d
  | invalidConfig d => "Invalid configuration: " ++ d
  | outOfRange => "value out of range"

/-- The name of a cause. -/
def kind : Fault → String
  | node _ => "Node"
  | nodeNotFound _ => "NodeNotFound"
  | nodeExists _ => "NodeExists"
  | invalidNodeName _ => "InvalidNodeName"
  | accessDenied _ _ => "AccessDenied"
  | docker _ => "Docker"
  | dockerApi _ _ _ => "DockerApi"
  | event _ => "Event"
  | container _ => "Container"
  | containerNotFound _ => "ContainerNotFound"
  | healthCheckFailed _ => "HealthCheckFailed"
  | batch _ => "Batch"
  | lock _ => "Lock"
  | http _ => "Http"
  | io _ => "Io"
  | json _ => "Json"
  | yaml _ => "Yaml"
  | invalidConfig _ => "InvalidConfig"
  | outOfRange => "OutOfRange"

/-- The fault underneath, where a fault only wraps one: its text stands on a
line of its own when causes are listed. -/
def source? : Fault → Option String
  | http d => some d
  | io d => some d
  | json d => some d
  | _ => none

end Fault

end Fleetkeeper
