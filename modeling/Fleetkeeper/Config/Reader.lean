/-
Settings from text. Text without a value, and a section without one, stand
for the defaults. Whatever is read has passed `validate`, so no run starts
from settings that it cannot work with.
-/
import Fleetkeeper.Config.Basic
import Fleetkeeper.Text.Blank
import Fleetkeeper.Text.Utf8
import Fleetkeeper.Yaml.Decode

namespace Fleetkeeper

def PollConfig.ofYaml : Yaml.Decoder PollConfig := fun d node => do
  let fs ← Yaml.fields ["initial_delay_secs", "period_secs"] d node
  let initialDelaySecs ← fs.orElse d "initial_delay_secs" Yaml.asU64 5
  let periodSecs ← fs.orElse d "period_secs" Yaml.asU64 30
  pure { initialDelaySecs, periodSecs }

def NodesConfig.ofYaml : Yaml.Decoder NodesConfig := fun d node => do
  let fs ← Yaml.fields ["min_ttl_secs", "health_bus_capacity"] d node
  let minTtlSecs ← fs.orElse d "min_ttl_secs" Yaml.asU64 10
  let healthCapacity ← fs.orElse d "health_bus_capacity" Yaml.asU64 2000
  pure { minTtlSecs, healthCapacity }

def HealthCheckConfig.ofYaml : Yaml.Decoder HealthCheckConfig :=
  fun d node => do
  let fs ← Yaml.fields ["attempts", "interval_secs"] d node
  let attempts ← fs.orElse d "attempts" Yaml.asU32 10
  let intervalSecs ← fs.orElse d "interval_secs" Yaml.asU64 2
  pure { attempts, intervalSecs }

def UpgradeConfig.ofYaml : Yaml.Decoder UpgradeConfig := fun d node => do
  let fs ← Yaml.fields
    ["rollback_enable", "rollback_scope", "health_check", "stop_timeout_secs"]
      d node
  let rollbackEnable ← fs.orElse d "rollback_enable" Yaml.asBool true
  let rollbackScope ←
    fs.orElse d "rollback_scope" (Yaml.asVariant RollbackScope.words) .batch
  let healthCheck ← fs.orElse d "health_check" HealthCheckConfig.ofYaml {}
  let stopTimeoutSecs ← fs.orElse d "stop_timeout_secs" Yaml.asU64 10
  pure { rollbackEnable, rollbackScope, healthCheck, stopTimeoutSecs }

namespace ClusterConfig

def ofYaml : Yaml.Decoder ClusterConfig := fun d node => do
  let fs ← Yaml.fields ["docker_events", "nodes", "upgrade"] d node
  let polling ← fs.orElse d "docker_events" PollConfig.ofYaml {}
  let nodes ← fs.orElse d "nodes" NodesConfig.ofYaml {}
  let upgrade ← fs.orElse d "upgrade" UpgradeConfig.ofYaml {}
  pure { polling, nodes, upgrade }

/-- The settings that a text gives, not yet validated. -/
def read (text : String) : Except Fault ClusterConfig :=
  match Yaml.Document.ofText text with
  | .error e => .error (.yaml ("Failed to parse YAML: " ++ e))
  | .ok d =>
    match ofYaml d d.root with
    | .error e => .error (.yaml ("Failed to parse YAML: " ++ e))
    | .ok c => .ok c

/-- The settings of a text. -/
def parse (text : String) : Except Fault ClusterConfig :=
  if Text.blank text then .ok {}
  else do
    let c ← read text
    c.validate
    pure c

/-- What is found at the path of a file of settings. -/
inductive File where
  | absent
  | directory
  | bytes (content : List UInt8)

/-- The settings of a file. -/
def load : File → Except Fault ClusterConfig
  | .absent => .error (.io "No such file or directory (os error 2)")
  | .directory => .error (.io "Is a directory (os error 21)")
  | .bytes content =>
    match Text.Utf8.decode? content with
    | none => .error (.io "stream did not contain valid UTF-8")
    | some text => parse text

/-- The settings of a file, and the defaults if there is none. -/
def loadOrDefault : File → Except Fault ClusterConfig
  | .absent => .ok {}
  | file => load file

end ClusterConfig

end Fleetkeeper
