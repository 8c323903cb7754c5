/-
Settings of the control plane. Every section and every field has a default;
`validate` refuses what a run could not work with.
-/
import Fleetkeeper.Upgrade.Site

namespace Fleetkeeper

/-- Settings of event polling. -/
structure PollConfig where
  /-- Seconds before the first poll. -/
  initialDelaySecs : Nat := 5
  /-- Seconds that a poll window lasts. -/
  periodSecs : Nat := 30
deriving DecidableEq, Repr

/-- The delay in milliseconds. -/
def PollConfig.initialDelayMs (c : PollConfig) : Nat :=
  c.initialDelaySecs * 1000

/-- The period in milliseconds. -/
def PollConfig.periodMs (c : PollConfig) : Nat := c.periodSecs * 1000

/-- The pause between health checks in milliseconds. -/
def HealthCheckConfig.intervalMs (c : HealthCheckConfig) : Nat :=
  c.intervalSecs * 1000

/-- Settings of node registrations. -/
structure NodesConfig where
  /-- Least seconds of a lease. -/
  minTtlSecs : Nat := 10
  /-- Messages kept by a health channel. -/
  healthCapacity : Nat := 2000
deriving DecidableEq, Repr

/-- All settings. -/
structure ClusterConfig where
  polling : PollConfig := {}
  nodes : NodesConfig := {}
  upgrade : UpgradeConfig := {}
deriving DecidableEq, Repr

/-- No lease is shorter, whatever the settings say. -/
def minTtlSecs : Nat := 10

namespace ClusterConfig

/-- Refuse settings that a run cannot work with; the first reason counts. -/
def validate (c : ClusterConfig) : Except Fault Unit :=
  if c.polling.periodSecs = 0 then
    .error (.invalidConfig "docker_events.period_secs must be positive")
  else if c.nodes.healthCapacity = 0 then
    .error (.invalidConfig "nodes.health_bus_capacity must be positive")
  else if c.nodes.minTtlSecs < Fleetkeeper.minTtlSecs then
    .error (.invalidConfig ("nodes.min_ttl_secs must be at least "
      ++ toString Fleetkeeper.minTtlSecs))
  else if c.upgrade.healthCheck.attempts = 0 then
    .error (.invalidConfig "upgrade.health_check.attempts must be positive")
  else .ok ()

theorem validate_eq_ok_iff {c : ClusterConfig} :
    c.validate = .ok () ↔
      c.polling.periodSecs ≠ 0 ∧ c.nodes.healthCapacity ≠ 0
        ∧ Fleetkeeper.minTtlSecs ≤ c.nodes.minTtlSecs
        ∧ c.upgrade.healthCheck.attempts ≠ 0 := by
  unfold validate
  -- Where a setting is refused, the bound that it is refused for is missed.
  split
  case isTrue hperiod => exact ⟨nofun, fun h => absurd hperiod h.1⟩
  split
  case isTrue hhealth => exact ⟨nofun, fun h => absurd hhealth h.2.1⟩
  split
  case isTrue hterm =>
    exact ⟨nofun, fun h => absurd h.2.2.1 (Nat.not_le.2 hterm)⟩
  split
  case isTrue hattempts => exact ⟨nofun, fun h => absurd hattempts h.2.2.2⟩
  case isFalse hperiod hhealth hterm hattempts =>
    exact ⟨fun _ => ⟨hperiod, hhealth, Nat.not_lt.1 hterm, hattempts⟩,
      fun _ => rfl⟩

end ClusterConfig

-- ================================================== as structured values

namespace PollConfig

def toJson (c : PollConfig) : Json :=
  .obj [("initial_delay_secs", .ofNat c.initialDelaySecs),
        ("period_secs", .ofNat c.periodSecs)]

def ofJson : Json.Decoder PollConfig :=
  Json.record "settings of polling"
    (mk <$> Json.orElse "initial_delay_secs" Json.asU64 5
      <*> Json.orElse "period_secs" Json.asU64 30)

end PollConfig

namespace NodesConfig

def toJson (c : NodesConfig) : Json :=
  .obj [("min_ttl_secs", .ofNat c.minTtlSecs),
        ("health_bus_capacity", .ofNat c.healthCapacity)]

def ofJson : Json.Decoder NodesConfig :=
  Json.record "settings of nodes"
    (mk <$> Json.orElse "min_ttl_secs" Json.asU64 10
      <*> Json.orElse "health_bus_capacity" Json.asU64 2000)

end NodesConfig

namespace HealthCheckConfig

def toJson (c : HealthCheckConfig) : Json :=
  .obj [("attempts", .ofNat c.attempts),
    ("interval_secs", .ofNat c.intervalSecs)]

def ofJson : Json.Decoder HealthCheckConfig :=
  Json.record "settings of health checks"
    (mk <$> Json.orElse "attempts" Json.asU32 10
      <*> Json.orElse "interval_secs" Json.asU64 2)

end HealthCheckConfig

namespace UpgradeConfig

def toJson (c : UpgradeConfig) : Json :=
  .obj [("rollback_enable", .bool c.rollbackEnable),
        ("rollback_scope", c.rollbackScope.toJson),
        ("health_check", c.healthCheck.toJson),
        ("stop_timeout_secs", .ofNat c.stopTimeoutSecs)]

def ofJson : Json.Decoder UpgradeConfig :=
  Json.record "settings of upgrades"
    (mk <$> Json.orElse "rollback_enable" Json.asBool true
      <*> Json.orElse "rollback_scope" RollbackScope.ofJson .batch
      <*> Json.orElse "health_check" HealthCheckConfig.ofJson {}
      <*> Json.orElse "stop_timeout_secs" Json.asU64 10)

end UpgradeConfig

namespace ClusterConfig

def toJson (c : ClusterConfig) : Json :=
  .obj [("docker_events", c.polling.toJson), ("nodes", c.nodes.toJson),
        ("upgrade", c.upgrade.toJson)]

def ofJson : Json.Decoder ClusterConfig :=
  Json.record "settings"
    (mk <$> Json.orElse "docker_events" PollConfig.ofJson {}
      <*> Json.orElse "nodes" NodesConfig.ofJson {}
      <*> Json.orElse "upgrade" UpgradeConfig.ofJson {})

end ClusterConfig

end Fleetkeeper
