/-
What an engine tells about its containers: the short entry of a listing, and
the full inspection, from which the configuration a container was created
from can be rebuilt.
-/
import Fleetkeeper.Engine.Container
import Fleetkeeper.Text.Blank

namespace Fleetkeeper

/-- An entry of a listing. -/
structure ContainerSummary where
  id : String
  names : List String := []
  image : String := ""
  labels : Option (Table String) := none
  state : String := ""
deriving DecidableEq, Repr

namespace ContainerSummary

/-- The first name, without the slashes in front. -/
def name? (s : ContainerSummary) : Option String :=
  s.names.head?.map Text.dropSlashes

def ofJson : Json.Decoder ContainerSummary :=
  Json.record "struct ContainerSummary"
    (mk <$> Json.required "Id" Json.asText
      <*> Json.orElse "Names" (Json.asList Json.asText) []
      <*> Json.orElse "Image" Json.asText ""
      <*> Json.omittable "Labels" (Json.asTable Json.asText)
      <*> Json.orElse "State" Json.asText "")

end ContainerSummary

/-- The configuration part of an inspection. -/
structure InspectConfig where
  image : String := ""
  hostname : Option String := none
  user : Option String := none
  cmd : Option (List String) := none
  entrypoint : Option (List String) := none
  env : Option (List String) := none
  workingDir : Option String := none
  labels : Option (Table String) := none
deriving DecidableEq, Repr

namespace InspectConfig

def ofJson : Json.Decoder InspectConfig :=
  Json.record "struct InspectConfig"
    (mk <$> Json.orElse "Image" Json.asText ""
      <*> Json.optional "Hostname" Json.asText
      <*> Json.optional "User" Json.asText
      <*> Json.optional "Cmd" (Json.asList Json.asText)
      <*> Json.optional "Entrypoint" (Json.asList Json.asText)
      <*> Json.optional "Env" (Json.asList Json.asText)
      <*> Json.optional "WorkingDir" Json.asText
      <*> Json.omittable "Labels" (Json.asTable Json.asText))

end InspectConfig

/-- The state part of an inspection; `health` is the status of the health
check, where the container has one. -/
structure InspectState where
  status : String := ""
  running : Bool := false
  health : Option String := none
deriving DecidableEq, Repr

namespace InspectState

/-- The status inside a health report. -/
def healthOfJson : Json.Decoder String :=
  Json.record "struct InspectHealth" (Json.orElse "Status" Json.asText "")

def ofJson : Json.Decoder InspectState :=
  Json.record "struct InspectState"
    (mk <$> Json.orElse "Status" Json.asText ""
      <*> Json.orElse "Running" Json.asBool false
      <*> Json.optional "Health" healthOfJson)

end InspectState

/-- A full inspection. -/
structure Inspection where
  id : String
  name : String := ""
  config : InspectConfig := {}
  hostConfig : Option HostConfig := none
  state : InspectState := {}
deriving DecidableEq, Repr

namespace Inspection

/-- The name without the slashes in front. -/
def shortName (i : Inspection) : String := Text.dropSlashes i.name

/-- An optional text that counts as unset when it is empty. -/
def nonEmpty (s : Option String) : Option String := s.filter (· ≠ "")

/-- The create request that this container was started from. -/
def toSpec (i : Inspection) : ContainerSpec where
  image := i.config.image
  hostname := nonEmpty i.config.hostname
  user := nonEmpty i.config.user
  cmd := i.config.cmd
  entrypoint := i.config.entrypoint
  env := i.config.env
  workingDir := nonEmpty i.config.workingDir
  labels := i.config.labels.getD ∅
  hostConfig := i.hostConfig

/-- Whether the container counts as healthy; `none` while that is open. A
health check decides alone; without one a container is healthy while it
runs, and failed once it has exited or is dead. -/
def verdict (i : Inspection) : Option Bool :=
  match i.state.health with
  | some "healthy" => some true
  | some "unhealthy" => some false
  | some _ => none
  | none =>
    if i.state.running then some true
    else
      match ContainerState.parse? i.state.status with
      | some .exited | some .dead => some false
      | _ => none

def ofJson : Json.Decoder Inspection :=
  Json.record "struct ContainerInspect"
    (mk <$> Json.required "Id" Json.asText
      <*> Json.orElse "Name" Json.asText ""
      <*> Json.orElse "Config" InspectConfig.ofJson {}
      <*> Json.omittable "HostConfig" HostConfig.ofJson
      <*> Json.orElse "State" InspectState.ofJson {})

end Inspection

end Fleetkeeper
