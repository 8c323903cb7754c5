/-
The program: what a command line asks for, with the settings in force.
-/
import Fleetkeeper.CommandLine.Upgrade
import Fleetkeeper.CommandLine.Watch
import Fleetkeeper.Config.Printer
import Fleetkeeper.Config.Reader

namespace Fleetkeeper.CommandLine

variable {σ : Type}

/-- How a run ends. -/
structure Ending where
  /-- The exit status. -/
  exit : Nat := 0
  /-- What is said about its failure. -/
  complaint : String := ""
deriving DecidableEq, Repr

/-- The ending that a failure makes. -/
def Ending.ofFailure (f : Failure) : Ending := ⟨1, f.report⟩

/-- The ending of a command line that asks for nothing that can be done. -/
def Ending.ofRefusal (reason : String) : Ending :=
  ⟨2, "error: " ++ reason ++ "\n\nFor more information, try '--help'.\n"⟩

/-- The ending of a command. -/
def Ending.ofResult : Except Failure Unit → Ending
  | .ok () => {}
  | .error f => .ofFailure f

/-- The directory of settings: the one set for them, else the usual one of
the user, else that of the system. -/
def configDirectory (configHome home : Option String) : String :=
  match configHome.filter (·.startsWith "/"), home with
  | some dir, _ => dir
  | none, some home => home ++ "/.config"
  | none, none => "/etc"

/-- The path of the settings of an invocation. -/
def Invocation.configPath (i : Invocation) (directory : String) : String :=
  i.config.getD (directory ++ "/cluman/config.yaml")

/-- The settings of an invocation, from the file at their path. -/
def settings (path : String) (file : ClusterConfig.File) :
    Except Failure ClusterConfig :=
  (ClusterConfig.loadOrDefault file).mapError
    (.within ("Failed to load " ++ path))

/-- The course of the world around a run: when it starts, and until when a
node is watched. -/
structure Course (σ : Type) where
  clock : Instant
  /-- Whether the program is interrupted. -/
  isInterrupted : σ → Bool
  /-- Seconds after which it is interrupted in any case. -/
  limit : Nat

/-- Carry out a command. -/
def carryOut (h : Host σ) (course : Course σ) (config : ClusterConfig) :
    Command → σ → Except Failure Unit × σ
  | .watch o, s =>
    match Watch.start h config course.clock o s with
    | (.error f, s) => (.error f, s)
    | (.ok w, s) => (.ok (), w.runUntil h course.isInterrupted course.limit s)
  | .upgrade o, s => upgrade h config o s
  | .showConfig, s => (.ok (), h.print config.print s)

/-- Do what a command line asks for. `directory` is that of the settings, and
`files` says what is found at a path. -/
def respond (h : Host σ) (course : Course σ) (directory : String)
    (files : String → ClusterConfig.File) (request : Request) (s : σ) :
    Ending × σ :=
  match request with
  | .help topic => ({}, h.print (helpText topic) s)
  | .version => ({}, h.print versionText s)
  | .refused reason => (.ofRefusal reason, s)
  | .invoke i =>
    let path := i.configPath directory
    match settings path (files path) with
    | .error f => (.ofFailure f, s)
    | .ok config =>
      let (result, s) := carryOut h course config i.command s
      (.ofResult result, s)

end Fleetkeeper.CommandLine
