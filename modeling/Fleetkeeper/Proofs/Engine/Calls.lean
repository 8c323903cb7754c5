/-
The calls that an engine gets: every operation of `EngineApi` as a value,
with the answer it was given. What an engine may answer (`Stock.Allows`) and
what a run may ask for (`Deed`) are both said about these values, so neither
depends on how a client reaches its engine.
-/
import Fleetkeeper.Engine.Api

namespace Fleetkeeper

/-- A call to an engine with its answer. -/
inductive ApiCall where
  | list (all : Bool) (answer : Except Fault (List ContainerSummary))
  | inspect (id : String) (answer : Except Fault Inspection)
  | stop (id : String) (secs : Nat) (answer : Except Fault Unit)
  | remove (id : String) (force : Bool) (answer : Except Fault Unit)
  | create (name : Option String) (spec : ContainerSpec)
      (answer : Except Fault String)
  | start (id : String) (answer : Except Fault Unit)

end Fleetkeeper
