/-
Containers on their way through an upgrade, how they are selected, and what
an upgrade makes of them.
-/
import Fleetkeeper.Engine.Inspection
import Fleetkeeper.Json.Member
import Fleetkeeper.Upgrade.Image

namespace Fleetkeeper

/-- A container with its configuration, once that is known. -/
structure Container where
  id : String
  name : Option String := none
  node : Option String := none
  image : String
  labels : Table String := ∅
  config : Option ContainerSpec := none
deriving DecidableEq, Repr, Inhabited

namespace Container

/-- The container with its configuration; its image is that of the
configuration. -/
def withConfig (c : Container) (spec : ContainerSpec) : Container :=
  { c with image := spec.image, config := some spec }

/-- How a container is called in messages: node and name, or the name, or
the id, with the image in brackets. -/
def toText (c : Container) : String :=
  let who :=
    match c.name, c.node with
    | some name, some node => node ++ "/" ++ name
    | some name, none => name
    | none, _ => c.id
  who ++ " (" ++ c.image ++ ")"

/-- The container of a listing entry. -/
def ofSummary (node : Option String) (s : ContainerSummary) : Container where
  id := s.id
  name := s.name?
  node := node
  image := s.image
  labels := s.labels.getD ∅
  config := none

def toJson (c : Container) : Json :=
  .obj
    [("id", .str c.id), ("image", .str c.image), ("name", .ofText? c.name),
     ("node", .ofText? c.node), ("labels", .ofTable .str c.labels),
     ("config", .ofOption ContainerSpec.toJson c.config)]

/-- A container as written down; what is missing is unset. -/
def ofJson : Json.Decoder Container := fun j => do
  let labels ← Json.asOption (Json.asTable Json.asText) (j.member "labels")
  let config ← Json.asOption ContainerSpec.ofJson (j.member "config")
  pure { id := j.textAt "id", image := j.textAt "image",
         name := j.textAt? "name", node := j.textAt? "node",
         labels := labels.getD ∅, config }

end Container

/-- Which containers an upgrade takes. -/
abbrev Selection := Container → Bool

/-- Move a container to another tag. Its configuration has to be known. -/
def upgradeTag (tag : String) (c : Container) : Except Fault Container :=
  match c.config with
  | none =>
    .error (.batch ("Container " ++ c.id ++ " has no resolved configuration"))
  | some spec =>
    let image := Image.withTag spec.image tag
    .ok { c with image, config := some { spec with image } }

end Fleetkeeper
