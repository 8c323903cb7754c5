/-
The records of an engine as values: its events, and what they say about a
container.

An event is written with a member for every field, `null` where it is unset,
and nothing is left out; its reader leaves more open, since an engine may omit
almost all of them. The kind of an event is read back although the reader takes
any other word for an unknown kind, because that kind has a word of its own.
-/
import Fleetkeeper.Engine.Event
import Fleetkeeper.Proofs.Json.Codec
import Fleetkeeper.Proofs.Json.Order

namespace Fleetkeeper

open Json (Denotes Lossless Signed64 Steady under)
open Json (steady_text steady_i64 steady_word steady_variant steady_table
    steady_record)
open Json.Record (read_map read_seq read_required read_orElse read_nullable)
open Json.Record
  (steady_map steady_seq steady_required steady_optional steady_orElse
    steady_omittable)

-- =================================================================== words

theorem EventKind.denotes (k : EventKind) : Denotes ofJson k.toJson k := by
  cases k <;> exact ⟨rfl, nofun⟩

theorem EventKind.steady : Steady ofJson := steady_word.bind _

theorem ContainerState.denotes (s : ContainerState) :
    Denotes ofJson s.toJson s := by
  have hword : words.find? (fun e => e.1 == s.toText)
      = some (s.toText, s) := by
    cases s <;> rfl
  exact Json.denotes_variant hword

theorem ContainerState.steady : Steady ofJson := steady_variant words

-- ================================================================ containers

namespace ContainerBase

theorem denotes (c : ContainerBase) : Denotes ofJson c.toJson c := by
  refine Json.denotes_obj
    (read_seq (read_seq (read_seq (read_seq (read_seq (read_map mk ?_)
      ?_) ?_) ?_) ?_) ?_)
  · exact read_required (by simp) (Json.denotes_text _)
  · exact read_nullable (by simp [Json.ofText?_eq]) fun _ _ =>
      Json.denotes_text _
  · exact read_nullable (by simp [Json.ofText?_eq]) fun _ _ =>
      Json.denotes_text _
  · exact read_nullable (by simp [Json.ofText?_eq]) fun _ _ =>
      Json.denotes_text _
  · exact read_orElse (by simp) (Json.denotes_textTable _)
  · exact read_nullable (by simp) fun s _ => s.denotes

theorem lossless (c : ContainerBase) : Lossless c.toJson := by
  refine .obj ?_
  simp only [List.forall_mem_cons]
  exact ⟨.str _, Json.lossless_ofText? _, Json.lossless_ofText? _,
    Json.lossless_ofText? _, Json.lossless_ofTable fun e _ => .str _,
    Json.lossless_ofOption fun s _ => .str _, nofun⟩

theorem steady : Steady ofJson :=
  steady_record (steady_seq (steady_seq (steady_seq (steady_seq (steady_seq
    (steady_map (steady_required steady_text) mk)
    (steady_optional steady_text)) (steady_optional steady_text))
    (steady_optional steady_text)) (steady_orElse (steady_table steady_text)))
    (steady_optional ContainerState.steady))

end ContainerBase

-- ==================================================================== events

theorem Actor.denotes (a : Actor) : Denotes ofJson a.toJson a :=
  Json.denotes_obj (read_seq
    (read_map mk (read_orElse (by simp) (Json.denotes_text _)))
    (read_orElse (by simp) (Json.denotes_textTable _)))

theorem EventNode.denotes (n : EventNode) : Denotes ofJson n.toJson n :=
  Json.denotes_obj (read_seq
    (read_map mk (read_orElse (by simp) (Json.denotes_text _)))
    (read_orElse (by simp) (Json.denotes_text _)))

theorem Actor.lossless (a : Actor) : Lossless a.toJson := by
  refine .obj ?_
  simp only [List.forall_mem_cons]
  exact ⟨.str _, Json.lossless_ofTable fun e _ => .str _, nofun⟩

theorem EventNode.lossless (n : EventNode) : Lossless n.toJson := by
  refine .obj ?_
  simp only [List.forall_mem_cons]
  exact ⟨.str _, .str _, nofun⟩

theorem Actor.steady : Steady ofJson :=
  steady_record (steady_seq (steady_map (steady_orElse steady_text) mk)
    (steady_orElse (steady_table steady_text)))

theorem EventNode.steady : Steady ofJson :=
  steady_record (steady_seq (steady_map (steady_orElse steady_text) mk)
    (steady_orElse steady_text))

namespace EngineEvent

/-- The times are numbers of 64 bits. -/
def Fits (e : EngineEvent) : Prop :=
  Signed64 e.time ∧ ∀ n ∈ e.timeNano, Signed64 n

theorem denotes {e : EngineEvent} (h : e.Fits) :
    Denotes ofJson e.toJson e := by
  refine Json.denotes_obj
    (read_seq (read_seq (read_seq (read_seq (read_seq (read_seq (read_seq
      (read_seq (read_map mk ?_) ?_) ?_) ?_) ?_) ?_) ?_) ?_) ?_)
  · exact read_required (by simp) e.kind.denotes
  · exact read_orElse (by simp) (Json.denotes_text _)
  · exact read_nullable (by simp) fun a _ => a.denotes
  · exact read_nullable (by simp [Json.ofText?_eq]) fun _ _ =>
      Json.denotes_text _
  · exact read_nullable (by simp [Json.ofText?_eq]) fun _ _ =>
      Json.denotes_text _
  · exact read_nullable (by simp [Json.ofText?_eq]) fun _ _ =>
      Json.denotes_text _
  · exact read_nullable (by simp) fun n _ => n.denotes
  · exact read_orElse (by simp) (Json.denotes_i64 h.1.1 h.1.2)
  · exact read_nullable (by simp) fun n hn =>
      Json.denotes_i64 (h.2 n hn).1 (h.2 n hn).2

theorem lossless {e : EngineEvent} (h : e.Fits) : Lossless e.toJson := by
  refine .obj ?_
  simp only [List.forall_mem_cons]
  refine ⟨.str _, .str _, ?_, ?_, ?_, ?_, ?_, ?_, ?_, nofun⟩
  · exact Json.lossless_ofOption fun a _ => a.lossless
  · exact Json.lossless_ofText? _
  · exact Json.lossless_ofText? _
  · exact Json.lossless_ofText? _
  · exact Json.lossless_ofOption fun n _ => n.lossless
  · exact Json.lossless_i64 h.1
  · exact Json.lossless_ofOption fun n hn => Json.lossless_i64 (h.2 n hn)

theorem steady : Steady ofJson :=
  steady_record (steady_seq (steady_seq (steady_seq (steady_seq (steady_seq
    (steady_seq (steady_seq (steady_seq
    (steady_map (steady_required EventKind.steady) mk)
    (steady_orElse steady_text)) (steady_omittable Actor.steady))
    (steady_omittable steady_text)) (steady_omittable steady_text))
    (steady_omittable steady_text)) (steady_omittable EventNode.steady))
    (steady_orElse steady_i64)) (steady_omittable steady_i64))

end EngineEvent

end Fleetkeeper
