/-
Health metrics of a node. Every field is optional, so a report can carry
only what changed; `Metrics.merge` lays a report over what was known.
-/
import Fleetkeeper.Json.Record
import Fleetkeeper.Time.Stamp

namespace Fleetkeeper

/-- Health state a node's agent reports. -/
inductive HealthState where
  | healthy | unhealthy | pending | disconnected | maintenance
deriving DecidableEq, Repr

namespace HealthState

/-- The states by their words. -/
def words : List (String × HealthState) :=
  [("healthy", healthy), ("unhealthy", unhealthy), ("pending", pending),
   ("disconnected", disconnected), ("maintenance", maintenance)]

def toText : HealthState → String
  | healthy => "healthy"
  | unhealthy => "unhealthy"
  | pending => "pending"
  | disconnected => "disconnected"
  | maintenance => "maintenance"

def toJson (s : HealthState) : Json := .str s.toText

def ofJson : Json.Decoder HealthState := Json.asVariant words

end HealthState

/-- Use of one mount point, in bytes. -/
structure Disk where
  total : Nat
  used : Nat
deriving DecidableEq, Repr

namespace Disk

def toJson (d : Disk) : Json :=
  .obj [("total", .ofNat d.total), ("used", .ofNat d.used)]

def ofJson : Json.Decoder Disk :=
  Json.record "a disk"
    (mk <$> Json.required "total" Json.asU64
      <*> Json.required "used" Json.asU64)

end Disk

/-- A health report, or the health known so far. -/
structure Metrics where
  time : Option Stamp := none
  healthy : Option Bool := none
  state : Option HealthState := none
  memAvail : Option Nat := none
  memTotal : Option Nat := none
  memUsed : Option Nat := none
  /-- Always a finite number. A program can also hold loads that are infinite
  or no number at all; a report as text cannot say them, and they have no form
  here. -/
  cpuLoad : Option Binary64 := none
  netRx : Option Nat := none
  netTx : Option Nat := none
  disks : Option (Table Disk) := none
deriving DecidableEq, Repr, Inhabited

namespace Metrics

/-- The report that says nothing. -/
def unset : Metrics := {}

/-- Lay `update` over `known`: what the update sets replaces, what it leaves
unset stays. The disk map is replaced as a whole. -/
def merge (known update : Metrics) : Metrics where
  time := update.time.or known.time
  healthy := update.healthy.or known.healthy
  state := update.state.or known.state
  memAvail := update.memAvail.or known.memAvail
  memTotal := update.memTotal.or known.memTotal
  memUsed := update.memUsed.or known.memUsed
  cpuLoad := update.cpuLoad.or known.cpuLoad
  netRx := update.netRx.or known.netRx
  netTx := update.netTx.or known.netTx
  disks := update.disks.or known.disks

/-- Whether two optional loads have the same value. -/
def sameLoad : Option Binary64 → Option Binary64 → Bool
  | none, none => true
  | some x, some y => x == y
  | _, _ => false

/-- Whether two reports say the same. Loads are compared by value: the two
zeros are one load. -/
def same (a b : Metrics) : Bool :=
  sameLoad a.cpuLoad b.cpuLoad
    && decide ({ a with cpuLoad := none } = { b with cpuLoad := none })

instance : BEq Metrics := ⟨same⟩

def toJson (m : Metrics) : Json :=
  .obj
    [("time", .ofOption Stamp.toJson m.time),
     ("healthy", .ofOption .bool m.healthy),
     ("state", .ofOption HealthState.toJson m.state),
     ("sys_mem_avail", .ofOption .ofNat m.memAvail),
     ("sys_mem_total", .ofOption .ofNat m.memTotal),
     ("sys_mem_used", .ofOption .ofNat m.memUsed),
     ("sys_cpu_load", .ofOption .real m.cpuLoad),
     ("net_total_rx", .ofOption .ofNat m.netRx),
     ("net_total_tx", .ofOption .ofNat m.netTx),
     ("disks", .ofOption (.ofTable Disk.toJson) m.disks)]

def ofJson : Json.Decoder Metrics :=
  Json.record "metrics"
    (mk <$> Json.optional "time" Stamp.ofJson
      <*> Json.optional "healthy" Json.asBool
      <*> Json.optional "state" HealthState.ofJson
      <*> Json.optional "sys_mem_avail" Json.asU64
      <*> Json.optional "sys_mem_total" Json.asU64
      <*> Json.optional "sys_mem_used" Json.asU64
      <*> Json.optional "sys_cpu_load" Json.asReal
      <*> Json.optional "net_total_rx" Json.asU64
      <*> Json.optional "net_total_tx" Json.asU64
      <*> Json.optional "disks" (Json.asTable Disk.ofJson))

end Metrics

end Fleetkeeper
