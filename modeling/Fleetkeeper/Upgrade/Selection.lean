/-
The selections an upgrade offers: containers whose image a pattern matches,
containers that carry a label, and all containers.
-/
import Fleetkeeper.Pattern.Parser
import Fleetkeeper.Upgrade.Container

namespace Fleetkeeper.Selection

/-- The fault of a text that is no pattern. -/
def badPattern (text : String) : Fault :=
  .invalidConfig ("Invalid image pattern: cannot read " ++ text.quote)

/-- The containers in whose image a pattern matches somewhere. -/
def byImage (pattern : String) : Except Fault Selection :=
  match Pattern.parse? pattern with
  | some p => .ok fun c => p.matchesIn c.image
  | none => .error (badPattern pattern)

/-- The containers that carry a label, whatever its value. -/
def byLabel (key : String) : Selection := fun c => c.labels.contains key

/-- Every container. -/
def all : Selection := fun _ => true

end Fleetkeeper.Selection
