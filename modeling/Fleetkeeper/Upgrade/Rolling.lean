/-
The rolling upgrade: one container after another is resolved, stopped,
removed, transformed, created anew and checked, and the next one is not
touched before. The first step that fails ends the batch; if the rollback
switch is on at that moment, the rollback gets a plan of what was done.

Every step is a parameter, a function on an arbitrary world `σ`, so a law
about `run` holds whatever the steps do and however they depend on what
happened before.
-/
import Fleetkeeper.Journal
import Fleetkeeper.Upgrade.Plan

namespace Fleetkeeper

/-- The steps of an upgrade. Each yields a result or a fault, and a world. -/
structure Operations (σ : Type) where
  load : Selection → σ → Except Fault (List Container) × σ
  resolve : Container → σ → Except Fault Container × σ
  stop : Container → σ → Except Fault Unit × σ
  remove : Container → σ → Except Fault Unit × σ
  /-- The container as created, with its new id. -/
  create : Container → σ → Except Fault Container × σ
  /-- Whether the container became healthy. -/
  check : Container → σ → Except Fault Bool × σ
  rollback : RollbackPlan → σ → Except Fault Unit × σ

/-- What the configuration of a container becomes. -/
abbrev Processor (σ : Type) := Container → σ → Except Fault Container × σ

/-- A processor that neither sees nor changes the world. -/
def Processor.pure {σ : Type} (f : Container → Except Fault Container) :
    Processor σ :=
  fun c s => (f c, s)

/-- What a job reports about a container. -/
inductive Progress where
  | upgrading | upgraded | failed | rollingBack
deriving DecidableEq, Repr

/-- The template of a report; the subject stands for the mark in it. -/
def Progress.template : Progress → String
  | upgrading => "Upgrading container \x7b0\x7d"
  | upgraded => "Container \x7b0\x7d upgraded"
  | failed => "Error on container \x7b0\x7d"
  | rollingBack => "Error on container \x7b0\x7d, try rollback"

/-- Put the subject in place of every mark of a template. -/
def fillMarks (subject : List Char) : List Char → List Char
  | '{' :: '0' :: '}' :: rest => subject ++ fillMarks subject rest
  | c :: rest => c :: fillMarks subject rest
  | [] => []

/-- A template with its subject. -/
def formatMessage (template subject : String) : String :=
  String.ofList (fillMarks subject.toList template.toList)

/-- The surroundings of a batch: the rollback switch, which may be flipped
while the batch runs, and where it reports to. -/
structure Job (σ : Type) where
  rollbackEnabled : σ → Bool
  report : Progress → String → σ → σ
  log : LogLine → σ → σ

/-- A container during its upgrade: as loaded, as resolved, its replacement,
and the last step that succeeded. -/
structure InFlight where
  loaded : Container
  resolved : Option Container := none
  replacement : Option Container := none
  stage : Stage := .selected
deriving DecidableEq, Repr

/-- The former container, with its configuration when that is known. -/
def InFlight.former (f : InFlight) : Container := f.resolved.getD f.loaded

namespace Rolling

variable {σ : Type}

/-- Take one container through all steps: how far it got, and the
replacement or the fault that ended it. -/
def replace (t : Operations σ) (process : Processor σ)
    (c : Container) (s : σ) :
    InFlight × Except Fault Container × σ :=
  match t.resolve c s with
  | (.error e, s) => ({ loaded := c }, .error e, s)
  | (.ok resolved, s) =>
    let f : InFlight :=
      { loaded := c, resolved := some resolved, stage := .configResolved }
    match t.stop c s with
    | (.error e, s) => (f, .error e, s)
    | (.ok (), s) =>
      match t.remove c s with
      | (.error e, s) => ({ f with stage := .stopped }, .error e, s)
      | (.ok (), s) =>
        match process resolved s with
        | (.error e, s) => ({ f with stage := .removed }, .error e, s)
        | (.ok desired, s) =>
          match t.create desired s with
          | (.error e, s) => ({ f with stage := .transformed }, .error e, s)
          | (.ok created, s) =>
            let f := { f with replacement := some created }
            match t.check created s with
            | (.error e, s) => ({ f with stage := .created }, .error e, s)
            | (.ok healthy, s) =>
              ({ f with stage := .healthChecked },
                if healthy then .ok created
                else .error (.healthCheckFailed created.id), s)

/-- End a batch that failed on `f`. -/
def fail (t : Operations σ) (j : Job σ) (scope : RollbackScope) (f : InFlight)
    (upgraded : List Upgraded) (cause : Fault) (s : σ) :
    Except Fault Outcome × σ :=
  let subject := f.loaded.toText
  let place := "Upgrade of " ++ subject ++ " failed at " ++ f.stage.toText
  if j.rollbackEnabled s then
    let s := j.report .rollingBack subject s
    let s := j.log ⟨.error, .rolling,
      place ++ ", rolling back: " ++ cause.message⟩ s
    let plan : RollbackPlan :=
      { scope, failed := ⟨f.former, f.stage, f.replacement⟩, upgraded }
    match t.rollback plan s with
    | (.error e, s) => (.error e, s)
    | (.ok (), s) => (.ok (.rolledBack plan cause), s)
  else
    let s := j.report .failed subject s
    let s := j.log ⟨.error, .rolling, place ++ ": " ++ cause.message⟩ s
    (.error cause, s)

/-- Upgrade the containers in order; `done` are those already upgraded. -/
def each (t : Operations σ) (j : Job σ) (scope : RollbackScope)
    (process : Processor σ) :
    List Container → List Upgraded → σ → Except Fault Outcome × σ
  | [], done, s =>
    (.ok (.completed done), j.log ⟨.info, .rolling,
      "Upgrade of " ++ toString done.length ++ " containers completed"⟩ s)
  | c :: rest, done, s =>
    let s := j.report .upgrading c.toText s
    match replace t process c s with
    | (f, .ok replacement, s) =>
      let s := j.report .upgraded c.toText s
      each t j scope process rest (done ++ [⟨f.former, replacement⟩]) s
    | (f, .error e, s) => fail t j scope f done e s

/-- Upgrade every container that the selection takes. -/
def run (t : Operations σ) (j : Job σ) (scope : RollbackScope)
    (select : Selection) (process : Processor σ) (s : σ) :
    Except Fault Outcome × σ :=
  match t.load select s with
  | (.error e, s) => (.error e, s)
  | (.ok containers, s) =>
    let s := j.log ⟨.info, .rolling,
      "Upgrading " ++ toString containers.length ++ " containers"⟩ s
    each t j scope process containers [] s

end Rolling

end Fleetkeeper
