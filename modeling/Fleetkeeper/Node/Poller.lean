/-
The poller of a bound node: after an initial delay it polls once per period,
never while a poll is under way. A tick that comes more than five
milliseconds late fires at once and the next one is the first point of the
grid after it, so ticks are skipped rather than made up for.

Times are milliseconds of the timer.
-/
import Fleetkeeper.Config.Basic
import Fleetkeeper.Engine.Subscription

namespace Fleetkeeper

/-- What a poller is at. -/
inductive PollPhase where
  /-- Waiting for the tick due at `tick`. -/
  | waiting (tick : Nat)
  /-- Polling until `done`; the tick after that is due at `tick`. -/
  | polling (done tick : Nat) (answer : PollAnswer)
  /-- Ended by itself. -/
  | dead
deriving Repr

/-- A poller that was started and not stopped. -/
structure Poller where
  /-- Tells the pollers of a run apart. -/
  serial : Nat
  address : String
  phase : PollPhase
deriving Repr

namespace Poller

/-- A late tick is one that fires more than this after it was due. -/
def tolerance : Nat := 5

/-- When the tick after the one due at `tick` is due, given that this one
fired at `start`. -/
def nextTick (period tick start : Nat) : Nat :=
  if tick + tolerance < start then start + period - (start - tick) % period
  else tick + period

/-- A poller started at `now`. -/
def start (serial : Nat) (address : String) (cfg : PollConfig) (now : Nat) :
    Poller :=
  { serial, address, phase := .waiting (now + cfg.initialDelayMs) }

/-- When the poller acts next. -/
def wake? (p : Poller) : Option Nat :=
  match p.phase with
  | .waiting tick => some tick
  | .polling done _ _ => some done
  | .dead => none

/-- Whether the poller goes on. -/
def alive (p : Poller) : Bool :=
  match p.phase with
  | .dead => false
  | _ => true

/-- The window of a poll at `now`; none where the period is no span or dates
end before the window does. -/
def window? (cfg : PollConfig) (now : Instant) : Option Window := do
  let period ← Span.ofSeconds? (signed64 cfg.periodSecs)
  Window.starting? now period

/-- What a tick leads to: a poll of this window, or the end of the poller. A
period of zero is no schedule. -/
def onTick (cfg : PollConfig) (now : Instant) : Option Window :=
  if cfg.periodSecs = 0 then none else window? cfg now

/-- The poller after a tick due at `tick` fired at `start` and its poll takes
`took`. -/
def polling (p : Poller) (cfg : PollConfig) (tick start took : Nat)
    (answer : PollAnswer) : Poller :=
  let next := nextTick cfg.periodMs tick start
  { p with phase := .polling (start + took) next answer }

end Poller

end Fleetkeeper
