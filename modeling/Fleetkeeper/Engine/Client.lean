/-
A client of one engine over its web interface: the container operations, and
the subscription to events, which is guarded by the right to read the node.
An engine that says there was nothing to do has stopped or started the
container; any other status beyond success is a fault that carries what the
engine says about it.
-/
import Fleetkeeper.Access
import Fleetkeeper.Engine.Api
import Fleetkeeper.Engine.Subscription
import Fleetkeeper.Http.Exchange

namespace Fleetkeeper

open Http (Method Reply Request Transport Url)

/-- A client of the engine of a node. -/
structure EngineClient (σ : Type) where
  node : String
  address : String
  send : Transport σ

namespace EngineClient

variable {σ : Type}

/-- Whether a client of a node can be made for an address: any address will
do that is not blank. -/
def checkAddress (node address : String) : Except Fault Unit :=
  if Text.blank address then
    .error (.invalidConfig ("Empty Docker address for node " ++ node))
  else .ok ()

/-- What every request address starts with. -/
def baseUrl (address : String) : String :=
  let a := Text.trimSlashes (Text.trim address)
  match a.toList with
  | 't' :: 'c' :: 'p' :: ':' :: '/' :: '/' :: rest =>
    "http://" ++ String.ofList rest
  | _ =>
    if a.startsWith "http://" || a.startsWith "https://" then a
    else "http://" ++ a

-- =============================================================== exchanges

/-- Send a request for a path of the engine. A text that is no address is
not sent. -/
def ask (c : EngineClient σ) (method : Method) (path : String)
    (pairs : List (String × String)) (body : Option Json) (s : σ) :
    Except Fault Reply × σ :=
  match Url.parse? (baseUrl c.address ++ path) with
  | none => (.error (.http "builder error"), s)
  | some url => c.send { method, url := url.withPairs pairs, body } s

/-- The message in the body of a failed request. -/
def messageOfJson : Json.Decoder String :=
  Json.record "an error reply" (Json.required "message" Json.asText)

/-- Half a surrogate pair, escaped: a text that holds it is unreadable. -/
def strayHalf : List Char := "\\udc00\\udc00".toList

/-- The text of a body. What is not UTF-8 spoils the text it is in and
nothing else. -/
def bodyText (bytes : List UInt8) : String :=
  String.ofList ((Text.Utf8.scan bytes).flatMap fun
    | some c => [c]
    | none => strayHalf)

/-- A body as a value, if it is one that `dec` reads. -/
def read? {α : Type} (dec : Json.Decoder α) (r : Reply) : Option α := do
  let bytes ← r.body.toOption
  let j ← Json.parse (bodyText bytes)
  (dec j).toOption

/-- What an engine says about a failed request: its message, or the phrase of
the status. -/
def complaint (r : Reply) : String :=
  (read? messageOfJson r).getD (Http.phrase r.status)

/-- Turn a reply that is no success into a fault. -/
def check (path : String) (r : Reply) : Except Fault Reply :=
  if r.isSuccess then .ok r
  else if r.status = 404 then .error (.containerNotFound (complaint r))
  else .error (.dockerApi r.status path (complaint r))

/-- The value in the body of a reply. -/
def value {α : Type} (dec : Json.Decoder α) (r : Reply) : Except Fault α :=
  match read? dec r with
  | some a => .ok a
  | none => .error Reply.brokenOff

/-- Ask, check the reply and take the value from it. -/
def fetch {α : Type} (c : EngineClient σ) (dec : Json.Decoder α)
    (method : Method) (path : String) (pairs : List (String × String))
    (body : Option Json) (s : σ) : Except Fault α × σ :=
  let (r, s) := c.ask method path pairs body s
  (r >>= check path >>= value dec, s)

/-- Ask for a change and check the reply. Where `settled`, a reply that there
was nothing to do is a success. -/
def change (c : EngineClient σ) (method : Method) (path : String)
    (pairs : List (String × String)) (settled : Bool) (s : σ) :
    Except Fault Unit × σ :=
  let (r, s) := c.ask method path pairs none s
  (r >>= fun r =>
    if settled && r.isUnchanged then .ok ()
    else (check path r).map fun _ => (),
    s)

-- ============================================================== operations

/-- The id in the reply to a create request. -/
def createdOfJson : Json.Decoder String :=
  Json.record "the reply to a create request" (Json.required "Id" Json.asText)

/-- The path of a container. -/
def pathOf (id : String) : String := "/containers/" ++ id

/-- A truth value in a query. -/
def flag (b : Bool) : String := if b then "true" else "false"

/-- The container operations of a client. -/
def api (c : EngineClient σ) : EngineApi σ where
  list all s :=
    c.fetch (Json.asList ContainerSummary.ofJson) .get "/containers/json"
      [("all", flag all)] none s
  inspect id s :=
    c.fetch Inspection.ofJson .get (pathOf id ++ "/json") [] none s
  stop id secs s :=
    c.change .post (pathOf id ++ "/stop") [("t", toString secs)] true s
  remove id force s :=
    c.change .delete (pathOf id) [("force", flag force)] false s
  create name spec s :=
    c.fetch createdOfJson .post "/containers/create"
      (name.toList.map fun n => ("name", n)) (some spec.toJson) s
  start id s := c.change .post (pathOf id ++ "/start") [] true s

/-- Subscribe to the events of a window on behalf of a caller. -/
def events (c : EngineClient σ) (access : AccessControl) (caller : Caller)
    (window : Window) (s : σ) : PollAnswer × σ :=
  match access.check caller ⟨.node, c.node⟩ .read with
  | .error e => (.failed e, s)
  | .ok () =>
    let (r, s) := c.ask .get "/events" window.query none s
    match r >>= check "/events" with
    | .error e => (.failed e, s)
    | .ok r =>
      (.ofStream c.node r.chunks
        (if r.broken then some Reply.brokenOff else none), s)

end EngineClient

end Fleetkeeper
