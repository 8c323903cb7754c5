/-
Settings as text: one line per field, two blanks per level.
-/
import Fleetkeeper.Config.Basic

namespace Fleetkeeper.ClusterConfig

/-- A setting on a line of its own, `level` levels deep. -/
def line (level : Nat) (key value : String) : String :=
  "".pushn ' ' (2 * level) ++ key ++ ":"
    ++ (if value = "" then "" else " " ++ value) ++ "\n"

/-- A truth value as text. -/
def boolText (b : Bool) : String := if b then "true" else "false"

/-- The settings as text. -/
def print (c : ClusterConfig) : String :=
  String.join
    [line 0 "docker_events" "",
     line 1 "initial_delay_secs" (toString c.polling.initialDelaySecs),
     line 1 "period_secs" (toString c.polling.periodSecs),
     line 0 "nodes" "",
     line 1 "min_ttl_secs" (toString c.nodes.minTtlSecs),
     line 1 "health_bus_capacity" (toString c.nodes.healthCapacity),
     line 0 "upgrade" "",
     line 1 "rollback_enable" (boolText c.upgrade.rollbackEnable),
     line 1 "rollback_scope" c.upgrade.rollbackScope.toText,
     line 1 "health_check" "",
     line 2 "attempts" (toString c.upgrade.healthCheck.attempts),
     line 2 "interval_secs" (toString c.upgrade.healthCheck.intervalSecs),
     line 1 "stop_timeout_secs" (toString c.upgrade.stopTimeoutSecs)]

end Fleetkeeper.ClusterConfig
