/-
Events on a stream. An engine writes one event per line, its members in an
order of its own, and there may be blank lines in between; the subscription
gives back the events.

What could go wrong is the framing: an event with a line break in it would be
two lines, and a blank one would be passed over. Neither can be, because an
event is written as an object and an object is printable
(`Json.lineBreak_notMem_render`, `Json.trimChars_obj`). So the lines found in
the body are those that were written, byte for byte (`splitOn_body`), and each
is read for what it is (`readLine_text`).
-/
import Fleetkeeper.Proofs.Engine.Delivery
import Fleetkeeper.Proofs.Engine.Records
import Fleetkeeper.Proofs.Json.Line
import Fleetkeeper.Proofs.Text.Encoding
import Mathlib.Data.List.Basic

namespace Fleetkeeper

open Http.Lines (lineBreak)
open Text.Utf8 (encode)

/-- A line of a stream: some blanks, or an event and how it is written. -/
inductive EventLine where
  | blank (text : String)
  | event (e : EngineEvent) (written : Json)
deriving Repr

namespace EventLine

def text : EventLine → String
  | blank text => text
  | event _ written => written.render

def event? : EventLine → Option EngineEvent
  | blank _ => none
  | event e _ => some e

/-- Blank lines hold nothing but blanks, and no line break. Events are written
with their members in some order. -/
def Fits : EventLine → Prop
  | blank text => Text.blank text = true ∧ '\n' ∉ text.toList
  | event e written => e.Fits ∧ Json.Reordered e.toJson written

/-- Lines as the body of a reply, with a line break between any two. -/
def body (lines : List EventLine) : List UInt8 :=
  [lineBreak].intercalate (lines.map fun l => encode l.text)

-- =================================================================== lines

theorem lineBreak_notMem {l : EventLine} (h : l.Fits) :
    lineBreak ∉ encode l.text := by
  apply Text.Utf8.lineBreak_notMem_encode
  cases l with
  | blank text => exact h.2
  | event => exact Json.lineBreak_notMem_render _

/-- The lines of a body are those it was written from. -/
theorem splitOn_body {lines : List EventLine} (h : ∀ l ∈ lines, l.Fits)
    (hsome : lines ≠ []) :
    (body lines).splitOn lineBreak = lines.map fun l => encode l.text := by
  refine List.splitOn_intercalate lineBreak ?_ ?_
  · intro line hline
    obtain ⟨l, hl, rfl⟩ := List.mem_map.1 hline
    exact lineBreak_notMem (h l hl)
  · simpa using hsome

theorem trimChars_blank {s : String} (h : Text.blank s = true) :
    Text.trimChars s.toList = [] := by
  have hfront : Text.dropBlank s.toList = [] :=
    List.dropWhile_eq_nil_iff.2 (List.all_eq_true.1 h)
  unfold Text.trimChars
  rw [hfront]
  rfl

/-- Each line is read for what it is. -/
theorem readLine_text {l : EventLine} (h : l.Fits) :
    PollAnswer.readLine (encode l.text) = l.event?.map .ok := by
  unfold PollAnswer.readLine
  rw [Text.Utf8.decodeLossy_encode]
  cases l with
  | blank text =>
    have htext : Text.trimChars text.toList = [] := trimChars_blank h.1
    simp only [EventLine.text, htext]
    rfl
  | event e written =>
    obtain ⟨hfits, hwritten⟩ := h
    have hlossless : Json.Lossless written :=
      hwritten.lossless (EngineEvent.lossless hfits)
    have hread : EngineEvent.ofJson written = .ok e :=
      EngineEvent.steady.run hwritten (EngineEvent.denotes hfits).reads
    obtain ⟨members, rfl⟩ := hwritten.exists_obj
    have htext : Text.trimChars (Json.obj members).render.toList
        = (Json.obj members).render.toList := by
      rw [Json.toList_render]
      exact Json.trimChars_obj _
    have hsome : (Json.obj members).render.toList.isEmpty = false := by
      rw [Json.toList_render]
      rfl
    simp only [EventLine.text, htext, hsome, String.ofList_toList,
      Json.parse_render hlossless, hread]
    rfl

/-- What a subscription makes of lines: their events, and nothing to say. -/
theorem ofLines_text (node : String) {lines : List EventLine}
    (h : ∀ l ∈ lines, l.Fits) (result : Nat → Except Fault Nat) :
    PollAnswer.ofLines node (lines.map fun l => encode l.text) result
      = { events := lines.filterMap event?
          result := result (lines.filterMap event?).length } := by
  have hread : (lines.map fun l => encode l.text).filterMap PollAnswer.readLine
      = (lines.filterMap event?).map .ok := by
    rw [List.filterMap_map, List.map_filterMap]
    exact List.filterMap_congr fun l hl => readLine_text (h l hl)
  have hevents : ((lines.filterMap event?).map .ok).filterMap PollAnswer.event?
      = lines.filterMap event? := by
    rw [List.filterMap_map]
    exact List.filterMap_some
  have hremarks :
      ((lines.filterMap event?).map .ok).filterMap (PollAnswer.remark? node)
        = [] := by
    rw [List.filterMap_map, List.filterMap_eq_nil_iff]
    exact fun _ _ => rfl
  unfold PollAnswer.ofLines
  simp only [hread, hevents, hremarks]

/-- A whole body brings the events of its lines, however it is cut. -/
theorem ofStream_body (node : String) {lines : List EventLine}
    (h : ∀ l ∈ lines, l.Fits) {chunks : List (List UInt8)}
    (hbody : chunks.flatten = body lines) :
    PollAnswer.ofStream node chunks none
      = { events := lines.filterMap event?,
          result := .ok (lines.filterMap event?).length } := by
  rw [PollAnswer.ofStream_whole, hbody]
  cases lines with
  | nil =>
    -- a body without lines is the body of one empty line
    have hempty : ∀ l ∈ [blank ""], l.Fits :=
      List.forall_mem_singleton.2 ⟨rfl, nofun⟩
    have hbodies : body [] = body [blank ""] := rfl
    rw [hbodies, splitOn_body hempty (List.cons_ne_nil _ _),
      ofLines_text node hempty]
    rfl
  | cons l rest =>
    rw [splitOn_body h (List.cons_ne_nil l rest)]
    exact ofLines_text node h .ok

end EventLine

namespace EngineClient

variable {σ : Type}

/-- A subscription hands over the events that were written, in their order and
no others. -/
theorem events_of_body {c : EngineClient σ} {access : AccessControl}
    {caller : Caller} {window : Window} {s : σ} {r : Http.Reply}
    {lines : List EventLine}
    (hgranted : access.allows caller ⟨.node, c.node⟩ .read = true)
    (hreply : (c.ask .get "/events" window.query none s).1 = .ok r)
    (hsuccess : r.isSuccess = true) (hwhole : r.broken = false)
    (hlines : ∀ l ∈ lines, l.Fits)
    (hbody : r.chunks.flatten = EventLine.body lines) :
    (c.events access caller window s).1
      = { events := lines.filterMap EventLine.event?
          result := .ok (lines.filterMap EventLine.event?).length } := by
  rw [events_of_reply hgranted hreply hsuccess, hwhole,
    if_neg Bool.false_ne_true]
  exact EventLine.ofStream_body c.node hlines hbody

end EngineClient

end Fleetkeeper
