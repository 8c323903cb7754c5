/-
A node as others see it, and the draft a registration edits. A snapshot is
built from the draft under the node's name; what a draft says about being
online is the last derived flag, not a wish.
-/
import Fleetkeeper.Node.Metrics

namespace Fleetkeeper

/-- What can be edited about a node, and the online flag last derived. -/
structure Draft where
  address : Option String := none
  cluster : Option String := none
  on : Bool := false
  labels : Table String := ∅
  health : Metrics := {}
deriving DecidableEq, Repr, Inhabited

/-- A snapshot of a node. -/
structure NodeInfo where
  name : String
  address : Option String := none
  cluster : Option String := none
  on : Bool := false
  labels : Table String := ∅
  health : Metrics := {}
deriving DecidableEq, Repr, Inhabited

/-- Whether a text can name a node: letters, digits, `-`, `_`, `.` and `:`
of ASCII, at least one. -/
def checkName (name : String) : Bool :=
  !name.toList.isEmpty
    && name.toList.all fun c =>
      c.isAlphanum || c = '-' || c = '_' || c = '.' || c = ':'

namespace NodeInfo

/-- A node of which only the name is known. -/
def bare (name : String) : NodeInfo := { name }

/-- The draft that this snapshot would be built from. -/
def toDraft (i : NodeInfo) : Draft :=
  { address := i.address, cluster := i.cluster, on := i.on,
    labels := i.labels, health := i.health }

/-- Whether two snapshots say the same, loads compared by value. -/
def same (a b : NodeInfo) : Bool :=
  a.health == b.health
    && decide ({ a with health := {} } = { b with health := {} })

instance : BEq NodeInfo := ⟨same⟩

def toJson (i : NodeInfo) : Json :=
  .obj
    [("name", .str i.name), ("address", .ofText? i.address),
     ("cluster", .ofText? i.cluster), ("on", .bool i.on),
     ("labels", .ofTable .str i.labels), ("health", i.health.toJson)]

def ofJson : Json.Decoder NodeInfo :=
  Json.record "a node"
    (mk <$> Json.required "name" Json.asText
      <*> Json.optional "address" Json.asText
      <*> Json.optional "cluster" Json.asText
      <*> Json.required "on" Json.asBool
      <*> Json.required "labels" (Json.asTable Json.asText)
      <*> Json.required "health" Metrics.ofJson)

end NodeInfo

namespace Draft

/-- The snapshot of this draft. -/
def build (d : Draft) (name : String) : NodeInfo :=
  { name, address := d.address, cluster := d.cluster, on := d.on,
    labels := d.labels, health := d.health }

def setAddress (d : Draft) (address : Option String) : Draft :=
  { d with address }

def setCluster (d : Draft) (cluster : Option String) : Draft :=
  { d with cluster }

def label (d : Draft) (key value : String) : Draft :=
  { d with labels := d.labels.insert key value }

def unlabel (d : Draft) (key : String) : Draft :=
  { d with labels := d.labels.erase key }

def setHealth (d : Draft) (health : Metrics) : Draft := { d with health }

end Draft

end Fleetkeeper
