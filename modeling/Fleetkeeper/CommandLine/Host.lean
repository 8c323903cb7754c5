/-
What a command needs from outside, on an arbitrary world: a way to the
engines, time to wait, and somewhere to speak to. What is printed and what is
logged goes out in one order.
-/
import Fleetkeeper.Http.Exchange
import Fleetkeeper.Journal
import Fleetkeeper.Upgrade.Site

namespace Fleetkeeper.CommandLine

/-- Something a command says. -/
inductive Utterance where
  | printed (text : String)
  | logged (line : LogLine)
deriving DecidableEq, Repr

/-- What an utterance writes; debug lines are left out unless `debug`. -/
def Utterance.toText (debug : Bool) : Utterance → String
  | .printed text => text
  | .logged line => if debug || line.shown then line.toText ++ "\n" else ""

/-- The surroundings of a command. -/
structure Host (σ : Type) where
  send : Http.Transport σ
  /-- Wait for so many seconds. -/
  wait : Nat → σ → σ
  say : Utterance → σ → σ
  /-- What tells this run from others in the log. -/
  jobId : String

namespace Host

variable {σ : Type}

def print (h : Host σ) (text : String) : σ → σ := h.say (.printed text)

def log (h : Host σ) (line : LogLine) : σ → σ := h.say (.logged line)

/-- A line of the command itself. -/
def note (h : Host σ) (level : Level) (message : String) : σ → σ :=
  h.log ⟨level, .command, message⟩

/-- The surroundings of upgrade steps. -/
def attendant (h : Host σ) : Attendant σ where
  wait := h.wait
  log := h.log

/-- The surroundings of a batch: reports go to the log. -/
def job (h : Host σ) (rollback : Bool) : Job σ where
  rollbackEnabled _ := rollback
  report p subject :=
    h.log ⟨.info, .job,
      "[job " ++ h.jobId ++ "] " ++ formatMessage p.template subject⟩
  log := h.log

end Host

end Fleetkeeper.CommandLine
