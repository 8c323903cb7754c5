/-
What a subscription to the events of an engine brings. The engine writes one
event per line and keeps on writing until the window ends; a line that holds
no event is passed over, and the events read before a failure count.
-/
import Fleetkeeper.Engine.Event
import Fleetkeeper.Http.Lines
import Fleetkeeper.Journal
import Fleetkeeper.Json.Reader
import Fleetkeeper.Text.Blank
import Fleetkeeper.Text.Utf8

namespace Fleetkeeper

/-- What a poll brought: the events handed over, in order, and how many it
counts, or why it ended. -/
structure PollAnswer where
  events : List EngineEvent
  result : Except Fault Nat
  /-- What the client had to say meanwhile. -/
  remarks : List LogLine := []
deriving Repr

namespace PollAnswer

/-- The answer of a subscription that failed before it brought anything. -/
def failed (e : Fault) : PollAnswer := { events := [], result := .error e }

/-- The event on a line; nothing where the line is blank. -/
def readLine (line : List UInt8) : Option (Except Json.Mismatch EngineEvent) :=
  let text := Text.trimChars (Text.Utf8.decodeLossy line)
  if text.isEmpty then none
  else some (match Json.parse (String.ofList text) with
    | some j => EngineEvent.ofJson j
    | none => .error .malformed)

/-- The event of a line that was read, if it held one. -/
def event? : Except Json.Mismatch EngineEvent → Option EngineEvent
  | .ok e => some e
  | .error _ => none

/-- What is said about a line that holds no event. -/
def remark? (node : String) : Except Json.Mismatch EngineEvent → Option LogLine
  | .ok _ => none
  | .error m =>
    some ⟨.warn, .client,
      "Skipping unparsable event from node " ++ node ++ ": " ++ m.message⟩

/-- What the lines of a stream bring to a subscription of `node`. -/
def ofLines (node : String) (lines : List (List UInt8))
    (result : Nat → Except Fault Nat) : PollAnswer :=
  let read := lines.filterMap readLine
  let events := read.filterMap event?
  { events, result := result events.length,
    remarks := read.filterMap (remark? node) }

/-- What a stream of chunks brings. Where it broke off, only the lines
finished before count; else the rest counts as a line too. -/
def ofStream (node : String) (chunks : List (List UInt8))
    (brokenOff : Option Fault) : PollAnswer :=
  let (lines, carry) := Http.Lines.ofChunks chunks
  match brokenOff with
  | some e => ofLines node lines fun _ => .error e
  | none => ofLines node (lines ++ [carry]) .ok

end PollAnswer

end Fleetkeeper
