/-
Requests and replies. How a request gets to a server is a parameter on an
arbitrary world: a reply may be missing, and its body may break off.
-/
import Fleetkeeper.Fault
import Fleetkeeper.Http.Url
import Fleetkeeper.Json.Basic

namespace Fleetkeeper.Http

/-- What a request asks for. -/
inductive Method where
  | get | post | delete
deriving DecidableEq, Repr

namespace Method

def toText : Method → String
  | get => "GET"
  | post => "POST"
  | delete => "DELETE"

end Method

/-- A request. -/
structure Request where
  method : Method
  url : Url
  body : Option Json := none
deriving Repr

/-- What a server answers. -/
structure Reply where
  status : Nat
  /-- The body as it arrives. -/
  chunks : List (List UInt8) := []
  /-- Whether the body broke off before its end. -/
  broken : Bool := false
deriving DecidableEq, Repr

namespace Reply

/-- Whether the request was fulfilled. -/
def isSuccess (r : Reply) : Bool := 200 ≤ r.status && r.status ≤ 299

/-- Whether there was nothing to do. -/
def isUnchanged (r : Reply) : Bool := r.status = 304

/-- Why a body that broke off cannot be used. -/
def brokenOff : Fault := .http "error decoding response body"

/-- The whole body. -/
def body (r : Reply) : Except Fault (List UInt8) :=
  if r.broken then .error brokenOff else .ok r.chunks.flatten

end Reply

/-- A way to servers. -/
abbrev Transport (σ : Type) := Request → σ → Except Fault Reply × σ

/-- The standard phrases of statuses. -/
def phrases : List (Nat × String) :=
  [(100, "Continue"), (101, "Switching Protocols"), (102, "Processing"),
   (200, "OK"), (201, "Created"), (202, "Accepted"),
   (203, "Non Authoritative Information"), (204, "No Content"),
   (205, "Reset Content"), (206, "Partial Content"), (207, "Multi-Status"),
   (208, "Already Reported"), (226, "IM Used"), (300, "Multiple Choices"),
   (301, "Moved Permanently"), (302, "Found"), (303, "See Other"),
   (304, "Not Modified"), (305, "Use Proxy"), (307, "Temporary Redirect"),
   (308, "Permanent Redirect"), (400, "Bad Request"), (401, "Unauthorized"),
   (402, "Payment Required"), (403, "Forbidden"), (404, "Not Found"),
   (405, "Method Not Allowed"), (406, "Not Acceptable"),
   (407, "Proxy Authentication Required"), (408, "Request Timeout"),
   (409, "Conflict"), (410, "Gone"), (411, "Length Required"),
   (412, "Precondition Failed"), (413, "Payload Too Large"),
   (414, "URI Too Long"), (415, "Unsupported Media Type"),
   (416, "Range Not Satisfiable"), (417, "Expectation Failed"),
   (418, "I'm a teapot"), (421, "Misdirected Request"),
   (422, "Unprocessable Entity"), (423, "Locked"), (424, "Failed Dependency"),
   (425, "Too Early"), (426, "Upgrade Required"),
   (428, "Precondition Required"), (429, "Too Many Requests"),
   (431, "Request Header Fields Too Large"),
   (451, "Unavailable For Legal Reasons"), (500, "Internal Server Error"),
   (501, "Not Implemented"), (502, "Bad Gateway"),
   (503, "Service Unavailable"), (504, "Gateway Timeout"),
   (505, "HTTP Version Not Supported"), (506, "Variant Also Negotiates"),
   (507, "Insufficient Storage"), (508, "Loop Detected"),
   (510, "Not Extended"), (511, "Network Authentication Required")]

/-- The phrase of a status; nothing where it has none. -/
def phrase (status : Nat) : String :=
  ((phrases.find? fun p => p.1 == status).map Prod.snd).getD ""

end Fleetkeeper.Http
