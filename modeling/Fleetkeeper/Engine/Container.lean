/-
Containers of an engine: lifecycle states, the short descriptor that events
carry, and the configuration a create request asks for.
-/
import Fleetkeeper.Json.Record

namespace Fleetkeeper

/-- Lifecycle state of a container. -/
inductive ContainerState where
  | created | restarting | running | paused | exited | removing | dead
deriving DecidableEq, Repr

namespace ContainerState

def words : List (String × ContainerState) :=
  [("created", created), ("restarting", restarting), ("running", running),
   ("paused", paused), ("exited", exited), ("removing", removing),
   ("dead", dead)]

def toText : ContainerState → String
  | created => "created"
  | restarting => "restarting"
  | running => "running"
  | paused => "paused"
  | exited => "exited"
  | removing => "removing"
  | dead => "dead"

/-- The state that an engine reports by this word. -/
def parse? (s : String) : Option ContainerState :=
  (words.find? (fun e => e.1 == s)).map Prod.snd

def toJson (s : ContainerState) : Json := .str s.toText

def ofJson : Json.Decoder ContainerState := Json.asVariant words

end ContainerState

/-- What an event says about its container. -/
structure ContainerBase where
  id : String
  name : Option String := none
  image : Option String := none
  node : Option String := none
  labels : Table String := ∅
  state : Option ContainerState := none
deriving DecidableEq, Repr, Inhabited

namespace ContainerBase

def toJson (c : ContainerBase) : Json :=
  .obj
    [("id", .str c.id), ("name", .ofText? c.name), ("image", .ofText? c.image),
     ("node", .ofText? c.node), ("labels", .ofTable .str c.labels),
     ("state", .ofOption ContainerState.toJson c.state)]

def ofJson : Json.Decoder ContainerBase :=
  Json.record "a container"
    (mk <$> Json.required "id" Json.asText
      <*> Json.optional "name" Json.asText
      <*> Json.optional "image" Json.asText
      <*> Json.optional "node" Json.asText
      <*> Json.orElse "labels" (Json.asTable Json.asText) ∅
      <*> Json.optional "state" ContainerState.ofJson)

end ContainerBase

/-- A port of the host bound to a port of the container. -/
structure PortBinding where
  hostIp : String := ""
  hostPort : String := ""
deriving DecidableEq, Repr

namespace PortBinding

def toJson (p : PortBinding) : Json :=
  .obj [("HostIp", .str p.hostIp), ("HostPort", .str p.hostPort)]

def ofJson : Json.Decoder PortBinding :=
  Json.record "struct PortBinding"
    (mk <$> Json.orElse "HostIp" Json.asText ""
      <*> Json.orElse "HostPort" Json.asText "")

end PortBinding

/-- When the engine starts a container again by itself. -/
structure RestartPolicy where
  name : String := ""
  maximumRetryCount : Int := 0
deriving DecidableEq, Repr

namespace RestartPolicy

def toJson (p : RestartPolicy) : Json :=
  .obj [("Name", .str p.name), ("MaximumRetryCount", .int p.maximumRetryCount)]

def ofJson : Json.Decoder RestartPolicy :=
  Json.record "struct RestartPolicy"
    (mk <$> Json.orElse "Name" Json.asText ""
      <*> Json.orElse "MaximumRetryCount" Json.asI64 0)

end RestartPolicy

/-- The part of a configuration that concerns the host. -/
structure HostConfig where
  networkMode : Option String := none
  binds : Option (List String) := none
  privileged : Bool := false
  portBindings : Option (Table (List PortBinding)) := none
  restartPolicy : Option RestartPolicy := none
deriving DecidableEq, Repr

/-- A member of an object that is left out when unset. -/
def memberIfSet {α : Type} (key : String) (f : α → Json) :
    Option α → List (String × Json)
  | none => []
  | some a => [(key, f a)]

namespace HostConfig

def toJson (h : HostConfig) : Json :=
  .obj
    (memberIfSet "NetworkMode" .str h.networkMode
      ++ memberIfSet "Binds" (.ofList .str) h.binds
      ++ [("Privileged", .bool h.privileged)]
      ++ memberIfSet "PortBindings" (.ofTable (.ofList PortBinding.toJson))
          h.portBindings
      ++ memberIfSet "RestartPolicy" RestartPolicy.toJson h.restartPolicy)

def ofJson : Json.Decoder HostConfig :=
  Json.record "struct HostConfig"
    (mk <$> Json.omittable "NetworkMode" Json.asText
      <*> Json.omittable "Binds" (Json.asList Json.asText)
      <*> Json.orElse "Privileged" Json.asBool false
      <*> Json.omittable "PortBindings"
          (Json.asTable (Json.asList PortBinding.ofJson))
      <*> Json.omittable "RestartPolicy" RestartPolicy.ofJson)

end HostConfig

/-- The configuration a container is created from. -/
structure ContainerSpec where
  image : String
  hostname : Option String := none
  user : Option String := none
  cmd : Option (List String) := none
  entrypoint : Option (List String) := none
  env : Option (List String) := none
  workingDir : Option String := none
  labels : Table String := ∅
  hostConfig : Option HostConfig := none
deriving DecidableEq, Repr, Inhabited

namespace ContainerSpec

/-- The configuration that names an image and nothing else. -/
def ofImage (image : String) : ContainerSpec := { image }

def label (s : ContainerSpec) (key value : String) : ContainerSpec :=
  { s with labels := s.labels.insert key value }

/-- Add a variable to the environment, behind those already there. -/
def setEnv (s : ContainerSpec) (key value : String) : ContainerSpec :=
  { s with env := some (s.env.getD [] ++ [key ++ "=" ++ value]) }

/-- The members other than those of the host. -/
def ownMembers (s : ContainerSpec) : List (String × Json) :=
  ("Image", .str s.image)
    :: (memberIfSet "Hostname" .str s.hostname
      ++ memberIfSet "User" .str s.user
      ++ memberIfSet "Cmd" (.ofList .str) s.cmd
      ++ memberIfSet "Entrypoint" (.ofList .str) s.entrypoint
      ++ memberIfSet "Env" (.ofList .str) s.env
      ++ memberIfSet "WorkingDir" .str s.workingDir
      ++ [("Labels", .ofTable .str s.labels)])

def toJson (s : ContainerSpec) : Json :=
  .obj (s.ownMembers
    ++ memberIfSet "HostConfig" HostConfig.toJson s.hostConfig)

def ofJson : Json.Decoder ContainerSpec :=
  Json.record "struct ContainerSpec"
    (mk <$> Json.required "Image" Json.asText
      <*> Json.omittable "Hostname" Json.asText
      <*> Json.omittable "User" Json.asText
      <*> Json.omittable "Cmd" (Json.asList Json.asText)
      <*> Json.omittable "Entrypoint" (Json.asList Json.asText)
      <*> Json.omittable "Env" (Json.asList Json.asText)
      <*> Json.omittable "WorkingDir" Json.asText
      <*> Json.orElse "Labels" (Json.asTable Json.asText) ∅
      <*> Json.omittable "HostConfig" HostConfig.ofJson)

end ContainerSpec

end Fleetkeeper
