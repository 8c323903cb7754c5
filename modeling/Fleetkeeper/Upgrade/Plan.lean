/-
How far a container got, what a rollback has to undo, and how a batch ends.
-/
import Fleetkeeper.Upgrade.Container

namespace Fleetkeeper

/-- The last step that a container completed. -/
inductive Stage where
  | selected | configResolved | stopped | removed | transformed | created
  | healthChecked
deriving DecidableEq, Repr

namespace Stage

/-- Place in the order of steps. -/
def rank : Stage → Nat
  | selected => 0
  | configResolved => 1
  | stopped => 2
  | removed => 3
  | transformed => 4
  | created => 5
  | healthChecked => 6

def toText : Stage → String
  | selected => "Selected"
  | configResolved => "ConfigResolved"
  | stopped => "Stopped"
  | removed => "Removed"
  | transformed => "Transformed"
  | created => "Created"
  | healthChecked => "HealthChecked"

def all : List Stage :=
  [selected, configResolved, stopped, removed, transformed, created,
   healthChecked]

def toJson (g : Stage) : Json := .str g.toText

def ofJson : Json.Decoder Stage :=
  Json.asVariant (all.map fun g => (g.toText, g))

end Stage

/-- Which containers a rollback restores: the one that failed, or it and all
that were upgraded before it. -/
inductive RollbackScope where
  | failed | batch
deriving DecidableEq, Repr

namespace RollbackScope

def words : List (String × RollbackScope) :=
  [("failed", failed), ("batch", batch)]

def toText : RollbackScope → String
  | failed => "failed"
  | batch => "batch"

def toJson (s : RollbackScope) : Json := .str s.toText

def ofJson : Json.Decoder RollbackScope := Json.asVariant words

end RollbackScope

/-- A container that was replaced: as it was, with its configuration, and
what replaced it. -/
structure Upgraded where
  former : Container
  replacement : Container
deriving DecidableEq, Repr

/-- The container that a batch failed on. -/
structure FailedContainer where
  former : Container
  stage : Stage
  replacement : Option Container
deriving DecidableEq, Repr

/-- Whether the former container no longer exists. -/
def FailedContainer.formerRemoved (f : FailedContainer) : Bool :=
  Stage.removed.rank ≤ f.stage.rank

/-- What a rollback has to restore; `upgraded` is in upgrade order. -/
structure RollbackPlan where
  scope : RollbackScope
  failed : FailedContainer
  upgraded : List Upgraded
deriving DecidableEq, Repr

namespace Upgraded

def toJson (u : Upgraded) : Json :=
  .obj [("original", u.former.toJson), ("replacement", u.replacement.toJson)]

def ofJson : Json.Decoder Upgraded := fun j => do
  let former ← Container.ofJson (j.member "original")
  let replacement ← Container.ofJson (j.member "replacement")
  pure { former, replacement }

end Upgraded

namespace RollbackPlan

/-- A plan as written down: what is known of the failed container stands
beside the rest. -/
def toJson (p : RollbackPlan) : Json :=
  .obj [("scope", p.scope.toJson), ("original", p.failed.former.toJson),
        ("stage", p.failed.stage.toJson),
        ("removed", .bool p.failed.formerRemoved),
        ("replacement", .ofOption Container.toJson p.failed.replacement),
        ("upgraded", .ofList Upgraded.toJson p.upgraded)]

def ofJson : Json.Decoder RollbackPlan := fun j => do
  let scope ← Json.asOption RollbackScope.ofJson (j.member "scope")
  let stage ← Stage.ofJson (j.member "stage")
  let former ← Container.ofJson (j.member "original")
  let replacement ← Json.asOption Container.ofJson (j.member "replacement")
  let upgraded ← (j.itemsAt "upgraded").mapM Upgraded.ofJson
  pure { scope := scope.getD .batch,
         failed := { former, stage, replacement }, upgraded }

end RollbackPlan

/-- The end of a batch that is no error. -/
inductive Outcome where
  | completed (upgraded : List Upgraded)
  | rolledBack (plan : RollbackPlan) (cause : Fault)
deriving DecidableEq, Repr

end Fleetkeeper
