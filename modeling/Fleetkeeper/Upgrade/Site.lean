/-
The steps of an upgrade over the interface of one engine. Creation leaves
nothing behind when the new container does not start; a rollback tries every
container of its plan and says which it could not restore.
-/
import Fleetkeeper.Engine.Api
import Fleetkeeper.Upgrade.Rolling

namespace Fleetkeeper

/-- What steps need beside the engine: time to wait, and a log. -/
structure Attendant (σ : Type) where
  /-- Wait for so many seconds. -/
  wait : Nat → σ → σ
  log : LogLine → σ → σ

/-- Timing of health checks. -/
structure HealthCheckConfig where
  attempts : Nat := 10
  intervalSecs : Nat := 2
deriving DecidableEq, Repr

/-- Settings of upgrades. -/
structure UpgradeConfig where
  rollbackEnable : Bool := true
  rollbackScope : RollbackScope := .batch
  healthCheck : HealthCheckConfig := {}
  stopTimeoutSecs : Nat := 10
deriving DecidableEq, Repr

/-- One engine as the place of an upgrade. -/
structure Site (σ : Type) where
  api : EngineApi σ
  attendant : Attendant σ
  /-- The node that loaded containers are said to run on. -/
  node : Option String := none
  config : UpgradeConfig := {}

namespace Site

variable {σ : Type}

def load (e : Site σ) (select : Selection) (s : σ) :
    Except Fault (List Container) × σ :=
  match e.api.list true s with
  | (.error f, s) => (.error f, s)
  | (.ok summaries, s) =>
    let found := (summaries.map (Container.ofSummary e.node)).filter select
    (.ok found, e.attendant.log ⟨.debug, .site,
      "Loaded " ++ toString found.length ++ " matching containers"⟩ s)

/-- A container with what an inspection says about it. -/
def resolved (c : Container) (i : Inspection) : Container :=
  let c := c.withConfig i.toSpec
  if c.name.isNone && i.name ≠ "" then { c with name := some i.shortName }
  else c

def resolve (e : Site σ) (c : Container) (s : σ) :
    Except Fault Container × σ :=
  match e.api.inspect c.id s with
  | (.error f, s) => (.error f, s)
  | (.ok i, s) => (.ok (resolved c i), s)

def stop (e : Site σ) (c : Container) (s : σ) : Except Fault Unit × σ :=
  e.api.stop c.id e.config.stopTimeoutSecs s

def remove (e : Site σ) (c : Container) (s : σ) : Except Fault Unit × σ :=
  e.api.remove c.id false s

/-- Create and start a container. One that does not start is removed again:
it would keep the name of the former container. -/
def create (e : Site σ) (c : Container) (s : σ) : Except Fault Container × σ :=
  match c.config with
  | none => (.error (.batch ("No configuration to create " ++ c.toText)), s)
  | some spec =>
    match e.api.create c.name spec s with
    | (.error f, s) => (.error f, s)
    | (.ok id, s) =>
      match e.api.start id s with
      | (.ok (), s) => (.ok { c with id }, s)
      | (.error f, s) =>
        match e.api.remove id true s with
        | (.ok (), s) => (.error f, s)
        | (.error cleanup, s) =>
          (.error f, e.attendant.log ⟨.warn, .site,
            "Failed to remove unstarted container " ++ id ++ ": "
              ++ cleanup.message⟩ s)

/-- Look at a container up to `left + 1` times, with a pause between. -/
def checkFrom (e : Site σ) (c : Container) (attempts : Nat) :
    Nat → σ → Except Fault Bool × σ
  | left, s =>
    match e.api.inspect c.id s with
    | (.error f, s) => (.error f, s)
    | (.ok i, s) =>
      match i.verdict with
      | some healthy => (.ok healthy, s)
      | none =>
        let s := e.attendant.log ⟨.debug, .site,
          c.toText ++ " not healthy yet (" ++ toString (attempts - left) ++ "/"
            ++ toString attempts ++ ")"⟩ s
        match left with
        | 0 =>
          (.ok false, e.attendant.log ⟨.warn, .site,
            c.toText ++ " did not become healthy"⟩ s)
        | left + 1 =>
          checkFrom e c attempts left
            (e.attendant.wait e.config.healthCheck.intervalSecs s)

/-- Wait for a container to become healthy. -/
def check (e : Site σ) (c : Container) (s : σ) : Except Fault Bool × σ :=
  let attempts := max e.config.healthCheck.attempts 1
  checkFrom e c attempts (attempts - 1) s

/-- Whether a fault only says that the container is gone. -/
def isGone : Fault → Bool
  | .containerNotFound _ => true
  | _ => false

/-- Remove a container by force; one that is gone already will do. -/
def expel (e : Site σ) (c : Container) (s : σ) : Except Fault Unit × σ :=
  match e.api.remove c.id true s with
  | (.ok (), s) => (.ok (), s)
  | (.error f, s) => if isGone f then (.ok (), s) else (.error f, s)

/-- Stop and remove a container; one that is gone already will do. -/
def discard (e : Site σ) (c : Container) (s : σ) : Except Fault Unit × σ :=
  match e.api.stop c.id e.config.stopTimeoutSecs s with
  | (.ok (), s) => e.expel c s
  | (.error f, s) => if isGone f then e.expel c s else (.error f, s)

/-- Create a container that had been removed again from its configuration,
and start it. -/
def recreate (e : Site σ) (former : Container) (s : σ) :
    Except Fault Unit × σ :=
  match former.config with
  | none =>
    (.error (.batch ("No configuration to restore " ++ former.toText)), s)
  | some spec =>
    match e.api.create former.name spec s with
    | (.error f, s) => (.error f, s)
    | (.ok id, s) =>
      match e.api.start id s with
      | (.error f, s) => (.error f, s)
      | (.ok (), s) =>
        (.ok (), e.attendant.log ⟨.info, .site,
          "Restored " ++ former.toText ++ " as " ++ id⟩ s)

/-- Start a former container if it is still there, else create it again. -/
def revive (e : Site σ) (former : Container) (removed : Bool) (s : σ) :
    Except Fault Unit × σ :=
  if removed then e.recreate former s else e.api.start former.id s

/-- Bring a former container back: drop its replacement, then revive it. -/
def restore (e : Site σ) (former : Container)
    (replacement : Option Container) (removed : Bool) (s : σ) :
    Except Fault Unit × σ :=
  match replacement with
  | none => e.revive former removed s
  | some r =>
    match e.discard r s with
    | (.error f, s) => (.error f, s)
    | (.ok (), s) => e.revive former removed s

/-- One attempt of a rollback. -/
structure Attempt where
  former : Container
  replacement : Option Container
  removed : Bool
deriving DecidableEq, Repr

/-- The attempts that a plan asks for: the container that failed, then, if
the whole batch is to be restored, those upgraded, the last one first. -/
def attempts (p : RollbackPlan) : List Attempt :=
  ⟨p.failed.former, p.failed.replacement, p.failed.formerRemoved⟩
    :: (match p.scope with
      | .failed => []
      | .batch =>
        p.upgraded.reverse.map fun u => ⟨u.former, some u.replacement, true⟩)

/-- Make every attempt; the former ones whose attempt failed, in order. -/
def restoreAll (e : Site σ) : List Attempt → σ → List Container × σ
  | [], s => ([], s)
  | a :: rest, s =>
    match e.restore a.former a.replacement a.removed s with
    | (.ok (), s) => restoreAll e rest s
    | (.error f, s) =>
      let s := e.attendant.log ⟨.warn, .site,
        "Rollback of " ++ a.former.toText ++ " failed: " ++ f.message⟩ s
      let (failed, s) := restoreAll e rest s
      (a.former :: failed, s)

/-- Restore what a plan names. -/
def rollback (e : Site σ) (p : RollbackPlan) (s : σ) : Except Fault Unit × σ :=
  match restoreAll e (attempts p) s with
  | ([], s) => (.ok (), s)
  | (failed, s) =>
    (.error (.batch ("Rollback failed for "
      ++ ", ".intercalate (failed.map Container.toText))), s)

/-- The steps of an upgrade at this site. -/
def operations (e : Site σ) : Operations σ where
  load := e.load
  resolve := e.resolve
  stop := e.stop
  remove := e.remove
  create := e.create
  check := e.check
  rollback := e.rollback

end Site

end Fleetkeeper
