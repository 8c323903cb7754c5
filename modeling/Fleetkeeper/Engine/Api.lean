/-
What an engine can be asked to do with its containers, on an arbitrary
world: any call may fail, and what it changes is up to the engine.
-/
import Fleetkeeper.Engine.Inspection
import Fleetkeeper.Fault

namespace Fleetkeeper

/-- The container operations of an engine, on an arbitrary world. -/
structure EngineApi (σ : Type) where
  list : Bool → σ → Except Fault (List ContainerSummary) × σ
  inspect : String → σ → Except Fault Inspection × σ
  /-- Stop a container, with so many seconds of grace. -/
  stop : String → Nat → σ → Except Fault Unit × σ
  /-- Remove a container, by force or not. -/
  remove : String → Bool → σ → Except Fault Unit × σ
  /-- The id of the container created. -/
  create : Option String → ContainerSpec → σ → Except Fault String × σ
  start : String → σ → Except Fault Unit × σ

end Fleetkeeper
