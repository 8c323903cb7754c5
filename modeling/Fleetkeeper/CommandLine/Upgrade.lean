/-
The upgrade command: one engine, one pattern, one tag. What the command line
leaves open the settings decide.
-/
import Fleetkeeper.CommandLine.Command
import Fleetkeeper.CommandLine.Failure
import Fleetkeeper.CommandLine.Host
import Fleetkeeper.Config.Basic
import Fleetkeeper.Engine.Client
import Fleetkeeper.Upgrade.Selection

namespace Fleetkeeper.CommandLine

variable {σ : Type}

/-- What a rollback restored. -/
def scopePhrase : RollbackScope → String
  | .failed => "the failed container"
  | .batch => "the batch"

/-- Tell how a batch ended. -/
def conclude (h : Host σ) : Outcome → σ → Except Failure Unit × σ
  | .completed upgraded, s =>
    let s := upgraded.foldl
      (fun s u =>
        h.print (u.former.toText ++ " -> " ++ u.replacement.id ++ "\n") s) s
    (.ok (),
      h.note .info
        ("Upgraded " ++ toString upgraded.length ++ " containers") s)
  | .rolledBack plan cause, s =>
    (.error ⟨"Upgrade rolled back: " ++ cause.message, []⟩,
      h.note .warn
        ("Rolled back " ++ scopePhrase plan.scope ++ " after failure on "
          ++ plan.failed.former.toText) s)

/-- Upgrade the containers that the options name. -/
def upgrade (h : Host σ) (config : ClusterConfig) (o : UpgradeOptions)
    (s : σ) :
    Except Failure Unit × σ :=
  let ready : Except Fault Selection := do
    EngineClient.checkAddress o.node o.address
    Selection.byImage o.image
  match ready with
  | .error e => (.error (.ofFault e), s)
  | .ok select =>
    let client : EngineClient σ := ⟨o.node, o.address, h.send⟩
    let site : Site σ :=
      { api := client.api, attendant := h.attendant, node := some o.node,
        config := config.upgrade }
    let job := h.job (o.rollback.getD config.upgrade.rollbackEnable)
    let scope := o.scope.getD config.upgrade.rollbackScope
    let process := Processor.pure (upgradeTag o.tag)
    match Rolling.run site.operations job scope select process s with
    | (.error e, s) => (.error (.ofFault e), s)
    | (.ok outcome, s) => conclude h outcome s

end Fleetkeeper.CommandLine
