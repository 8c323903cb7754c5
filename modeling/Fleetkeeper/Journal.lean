/-
The log of a program run: which part speaks, how loud, and what it says.
-/
namespace Fleetkeeper

/-- How loud a line is. -/
inductive Level where
  | error | warn | info | debug
deriving DecidableEq, Repr

namespace Level

def toText : Level → String
  | error => "ERROR"
  | warn => "WARN"
  | info => "INFO"
  | debug => "DEBUG"

end Level

/-- The part of the program that speaks. -/
inductive Speaker where
  | command | rolling | job | site | registration | storage | events
  | client
deriving DecidableEq, Repr

namespace Speaker

/-- The name of a part in the log. -/
def toText : Speaker → String
  | command => "cluman"
  | rolling => "cluman::batch::strategy"
  | job => "cluman::batch::job"
  | site => "cluman::batch::docker"
  | registration => "cluman::nodes::registration"
  | storage => "cluman::nodes::storage"
  | events => "cluman::nodes::events"
  | client => "cluman::docker::client"

end Speaker

/-- A line of the log. -/
structure LogLine where
  level : Level
  speaker : Speaker
  message : String
deriving DecidableEq, Repr

namespace LogLine

def toText (l : LogLine) : String :=
  l.level.toText ++ " " ++ l.speaker.toText ++ ": " ++ l.message

/-- Whether a log that leaves out debug lines shows this one. -/
def shown (l : LogLine) : Bool := l.level ≠ .debug

end LogLine

end Fleetkeeper
