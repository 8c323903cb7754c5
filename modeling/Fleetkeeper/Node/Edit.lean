/-
Edits of a draft as data, one field each. An edit may break off; what was
edited before stays edited.
-/
import Fleetkeeper.Json.Member
import Fleetkeeper.Node.Info

namespace Fleetkeeper

/-- An edit of one field. -/
inductive Edit where
  | address (value : Option String)
  | cluster (value : Option String)
  | label (key value : String)
  | unlabel (key : String)
  | clearLabels
  | on (value : Bool)
  | health (value : Metrics)
  | breakOff
deriving DecidableEq, Repr

namespace Edit

def apply : Edit → Draft → Draft
  | address value, d => d.setAddress value
  | cluster value, d => d.setCluster value
  | label key value, d => d.label key value
  | unlabel key, d => d.unlabel key
  | clearLabels, d => { d with labels := ∅ }
  | on value, d => { d with on := value }
  | health value, d => d.setHealth value
  | breakOff, d => d

/-- Edits one after the other, up to the one that breaks off. -/
def applyAll : List Edit → Draft → Draft
  | [], d => d
  | breakOff :: _, d => d
  | e :: rest, d => applyAll rest (e.apply d)

/-- Whether one of some edits breaks off. -/
def breaksOff (l : List Edit) : Bool := l.contains breakOff

/-- An edit as written down: the field it sets, and to what. One that breaks
off has no written form. -/
def ofJson : Json.Decoder Edit := fun j =>
  match j.textAt "set" with
  | "address" => .ok (address (j.textAt? "value"))
  | "cluster" => .ok (cluster (j.textAt? "value"))
  | "label" => .ok (label (j.textAt "key") (j.textAt "value"))
  | "unlabel" => .ok (unlabel (j.textAt "key"))
  | "clear_labels" => .ok clearLabels
  | "on" => .ok (on (j.flagAt "value" false))
  | "health" => (Metrics.ofJson (j.member "value")).map health
  | s =>
    .error (.unknownVariant s
      ["address", "cluster", "label", "unlabel", "clear_labels",
        "on", "health"])

end Edit

end Fleetkeeper
