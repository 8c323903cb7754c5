/-
Who may do what to which object. An access list is a history of grants per
principal; a grant names objects by a pattern (everything, every object of a
kind, or one object) and lists actions. Background work runs as the system,
which is always allowed; a user who is merely called `system` is not.
-/
import Fleetkeeper.Json.Record

namespace Fleetkeeper

/-- Kinds of guarded objects. -/
inductive ObjectKind where
  | node | cluster | container
deriving DecidableEq, Repr

namespace ObjectKind

def words : List (String × ObjectKind) :=
  [("node", node), ("cluster", cluster), ("container", container)]

def toText : ObjectKind → String
  | node => "node"
  | cluster => "cluster"
  | container => "container"

def toJson (k : ObjectKind) : Json := .str k.toText

def ofJson : Json.Decoder ObjectKind := Json.asVariant words

end ObjectKind

/-- A guarded object. -/
structure ObjectId where
  kind : ObjectKind
  id : String
deriving DecidableEq, Repr

namespace ObjectId

/-- Kind and id, joined by a colon. -/
def toText (o : ObjectId) : String := o.kind.toText ++ ":" ++ o.id

def toJson (o : ObjectId) : Json :=
  .obj [("kind", o.kind.toJson), ("id", .str o.id)]

def ofJson : Json.Decoder ObjectId :=
  Json.record "an object"
    (mk <$> Json.required "kind" ObjectKind.ofJson
      <*> Json.required "id" Json.asText)

end ObjectId

/-- Guarded actions. -/
inductive Action where
  | read | update | delete | execute
deriving DecidableEq, Repr

namespace Action

def words : List (String × Action) :=
  [("read", read), ("update", update), ("delete", delete),
   ("execute", execute)]

def toText : Action → String
  | read => "read"
  | update => "update"
  | delete => "delete"
  | execute => "execute"

def toJson (a : Action) : Json := .str a.toText

def ofJson : Json.Decoder Action := Json.asVariant words

end Action

/-- On whose behalf an operation runs. -/
structure Caller where
  principal : String
  isSystem : Bool
deriving DecidableEq, Repr

namespace Caller

/-- Background work. -/
def system : Caller := ⟨"system", true⟩

/-- A user by name. -/
def user (name : String) : Caller := ⟨name, false⟩

end Caller

/-- Actions granted on the objects that a pattern names. -/
structure Grant where
  pattern : String
  actions : List Action
deriving DecidableEq, Repr

/-- The pattern without `:*` at its end, where it has one. -/
def kindPattern? (pattern : String) : Option String :=
  match pattern.toList.reverse with
  | '*' :: ':' :: rest => some (String.ofList rest.reverse)
  | _ => none

/-- Whether a pattern names an object: `*` names all, `kind:*` all of a kind,
any other text the object of that text. -/
def patternMatches (pattern : String) (o : ObjectId) : Bool :=
  if pattern = "*" then true
  else
    match kindPattern? pattern with
    | some kind => kind = o.kind.toText
    | none => pattern = o.toText

namespace Grant

/-- Whether a grant covers an action on an object. -/
def covers (g : Grant) (o : ObjectId) (a : Action) : Bool :=
  patternMatches g.pattern o && g.actions.contains a

end Grant

/-- A guard of operations. -/
inductive AccessControl where
  /-- Everybody may do everything. -/
  | allowAll
  /-- The grants of each principal, in the order they were made. -/
  | listed (grants : Table (List Grant))
deriving DecidableEq, Repr

namespace AccessControl

/-- The list without grants. -/
def closed : AccessControl := listed ∅

/-- Add a grant to a principal's. One that allows all has nothing to add. -/
def grant (ac : AccessControl) (principal : String) (g : Grant) :
    AccessControl :=
  match ac with
  | .allowAll => .allowAll
  | listed grants =>
    listed (grants.insert principal ((grants.find? principal).getD [] ++ [g]))

/-- Take every grant from a principal. -/
def revokeAll (ac : AccessControl) (principal : String) : AccessControl :=
  match ac with
  | .allowAll => .allowAll
  | listed grants => listed (grants.erase principal)

/-- Whether a caller may perform an action on an object. -/
def allows (ac : AccessControl) (c : Caller) (o : ObjectId) (a : Action) :
    Bool :=
  match ac with
  | .allowAll => true
  | listed grants =>
    c.isSystem || ((grants.find? c.principal).getD []).any (·.covers o a)

/-- Fails where the action is not allowed. -/
def check (ac : AccessControl) (c : Caller) (o : ObjectId) (a : Action) :
    Except Fault Unit :=
  if ac.allows c o a then .ok ()
  else .error (.accessDenied o.toText a.toText)

end AccessControl

end Fleetkeeper
