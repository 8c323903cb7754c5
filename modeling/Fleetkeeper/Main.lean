/-
The program. All decisions are made by `CommandLine`; this module reads files
and the environment, waits, and writes. There is no network here: a request
finds no server.
-/
import Fleetkeeper.CommandLine.Program

namespace Fleetkeeper.Main

open CommandLine

/-- What was said and not yet written, newest first. -/
abbrev Outbox := List Utterance

/-- The surroundings of a command. -/
def host (jobId : String) : Host Outbox where
  send _ s := (.error (.http "error sending request"), s)
  wait _ s := s
  say u s := u :: s
  jobId := jobId

/-- Write what was said. -/
def deliver (debug : Bool) (said : Outbox) : IO Unit := do
  let out ← IO.getStdout
  for u in said.reverse do
    out.putStr (u.toText debug)
  out.flush

/-- What is found at a path. -/
def fileAt (path : String) : IO ClusterConfig.File := do
  try
    let content ← IO.FS.readBinFile path
    pure (.bytes content.toList)
  catch e =>
    match e with
    | .noFileOrDirectory .. => pure .absent
    | _ => pure .directory

/-- Watch a node for as long as the program runs. -/
partial def watchForever (h : Host Outbox) (debug : Bool) (w : Watch) :
    IO Unit := do
  let (w, said) := w.attend h []
  deliver debug said
  IO.sleep 1000
  watchForever h debug w.forward

/-- Carry out an invocation; the exit status. -/
def invoke (h : Host Outbox) (directory : String) (i : Invocation) :
    IO UInt32 := do
  let path := i.configPath directory
  let file ← fileAt path
  let clock : Instant := ⟨(← IO.monoNanosNow)⟩
  let course : Course Outbox :=
    { clock, isInterrupted := fun _ => true, limit := 0 }
  match i.command, settings path file with
  | .watch o, .ok config =>
    match Watch.start h config clock o [] with
    | (.ok w, said) =>
      deliver i.debug said
      watchForever h i.debug w
      pure 0
    | (.error f, said) =>
      deliver i.debug said
      IO.eprint f.report
      pure 1
  | _, _ =>
    let (ending, said) :=
      respond h course directory (fun _ => file) (.invoke i) []
    deliver i.debug said
    IO.eprint ending.complaint
    pure ending.exit.toUInt32

/-- Do what the command line asks for. -/
def run (args : List String) : IO UInt32 := do
  let directory :=
    configDirectory (← IO.getEnv "XDG_CONFIG_HOME") (← IO.getEnv "HOME")
  let h := host (toString ((← IO.monoNanosNow) % 100000000))
  match Request.ofArguments args with
  | .invoke i => invoke h directory i
  | request =>
    let course : Course Outbox :=
      { clock := ⟨0⟩, isInterrupted := fun _ => true, limit := 0 }
    let (ending, said) :=
      respond h course directory (fun _ => .absent) request []
    deliver false said
    IO.eprint ending.complaint
    pure ending.exit.toUInt32

end Fleetkeeper.Main

def main (args : List String) : IO UInt32 := Fleetkeeper.Main.run args
