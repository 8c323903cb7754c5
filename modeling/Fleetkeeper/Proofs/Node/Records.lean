/-
The records of a cluster as text: log events, snapshots of nodes, and health
messages with their metrics.

What is written of a record is an object with a member for every field, `null`
where it is unset, and the tables in it are written in any order. A record
survives if its numbers are of 64 bits and its dates and loads are read back
from their texts, and nothing is asked of the texts in it. This is said once
for each record (`Fits`), and its law is put together from the laws of its
fields: what denotes it (`denotes`), that nothing of it gets lost (`lossless`),
and that the order does not matter (`steady`).
-/
import Fleetkeeper.Node.LogEvent
import Fleetkeeper.Node.Notice
import Fleetkeeper.Proofs.Engine.Stream

namespace Fleetkeeper

open Json (Denotes Lossless Steady Unsigned64 under)
open Json (steady_of_refuses steady_text steady_bool steady_u64 steady_real
    steady_variant
  steady_table steady_record)
open Json.Record (read_map read_seq read_required read_nullable)
open Json.Record (steady_map steady_seq steady_required steady_optional)

-- ======================================================== words and dates

theorem Severity.denotes (s : Severity) : Denotes ofJson s.toJson s := by
  have hword : words.find? (fun e => e.1 == s.toText)
      = some (s.toText, s) := by
    cases s <;> rfl
  exact Json.denotes_variant hword

theorem Severity.steady : Steady ofJson := steady_variant words

theorem HealthState.denotes (s : HealthState) : Denotes ofJson s.toJson s := by
  have hword : words.find? (fun e => e.1 == s.toText)
      = some (s.toText, s) := by
    cases s <;> rfl
  exact Json.denotes_variant hword

theorem HealthState.steady : Steady ofJson := steady_variant words

namespace Stamp

/-- The text of a date is read back as this date. -/
def Readable (s : Stamp) : Prop := parse s.toText = some s

instance (s : Stamp) : Decidable s.Readable :=
  inferInstanceAs (Decidable (parse s.toText = some s))

theorem denotes {s : Stamp} (h : s.Readable) : Denotes ofJson s.toJson s := by
  refine ⟨?_, nofun⟩
  unfold toJson ofJson
  dsimp only
  rw [h]

theorem steady : Steady ofJson := steady_of_refuses fun _ => ⟨_, rfl⟩

end Stamp

-- ================================================================ log events

namespace LogEvent

def Fits (e : LogEvent) : Prop := e.date.Readable

theorem denotes {e : LogEvent} (h : e.Fits) : Denotes ofJson e.toJson e := by
  refine Json.denotes_obj
    (read_seq (read_seq (read_seq (read_seq (read_seq (read_seq (read_seq
      (read_map mk ?_) ?_) ?_) ?_) ?_) ?_) ?_) ?_)
  · exact read_required (by simp) (Json.denotes_text _)
  · exact read_required (by simp) (Json.denotes_text _)
  · exact read_nullable (by simp [Json.ofText?_eq]) fun _ _ =>
      Json.denotes_text _
  · exact read_required (by simp) (Stamp.denotes h)
  · exact read_required (by simp) e.kind.denotes
  · exact read_nullable (by simp [Json.ofText?_eq]) fun _ _ =>
      Json.denotes_text _
  · exact read_required (by simp) e.severity.denotes
  · exact read_nullable (by simp) fun c _ => c.denotes

theorem lossless (e : LogEvent) : Lossless e.toJson := by
  refine .obj ?_
  simp only [List.forall_mem_cons]
  exact ⟨.str _, .str _, Json.lossless_ofText? _, .str _, .str _,
    Json.lossless_ofText? _, .str _,
    Json.lossless_ofOption fun c _ => c.lossless, nofun⟩

theorem steady : Steady ofJson :=
  steady_record (steady_seq (steady_seq (steady_seq (steady_seq (steady_seq
    (steady_seq (steady_seq (steady_map (steady_required steady_text) mk)
    (steady_required steady_text)) (steady_optional steady_text))
    (steady_required Stamp.steady)) (steady_required EventKind.steady))
    (steady_optional steady_text)) (steady_required Severity.steady))
    (steady_optional ContainerBase.steady))

end LogEvent

-- =================================================================== health

namespace Disk

structure Fits (d : Disk) : Prop where
  total : Unsigned64 d.total
  used : Unsigned64 d.used

theorem denotes {d : Disk} (h : d.Fits) : Denotes ofJson d.toJson d :=
  Json.denotes_obj (read_seq
    (read_map mk (read_required (by simp) (Json.denotes_u64 h.total)))
    (read_required (by simp) (Json.denotes_u64 h.used)))

theorem lossless {d : Disk} (h : d.Fits) : Lossless d.toJson := by
  refine .obj ?_
  simp only [List.forall_mem_cons]
  exact ⟨Json.lossless_u64 h.total, Json.lossless_u64 h.used, nofun⟩

theorem steady : Steady ofJson :=
  steady_record (steady_seq (steady_map (steady_required steady_u64) mk)
    (steady_required steady_u64))

end Disk

namespace Metrics

/-- What is set is a count of 64 bits, or is read back from its text. -/
structure Fits (m : Metrics) : Prop where
  time : ∀ s ∈ m.time, s.Readable
  memAvail : ∀ n ∈ m.memAvail, Unsigned64 n
  memTotal : ∀ n ∈ m.memTotal, Unsigned64 n
  memUsed : ∀ n ∈ m.memUsed, Unsigned64 n
  cpuLoad : ∀ x ∈ m.cpuLoad, x.Readable
  netRx : ∀ n ∈ m.netRx, Unsigned64 n
  netTx : ∀ n ∈ m.netTx, Unsigned64 n
  disks : ∀ t ∈ m.disks, ∀ e ∈ t.entries, e.2.Fits

theorem steady : Steady ofJson :=
  steady_record (steady_seq (steady_seq (steady_seq (steady_seq (steady_seq
    (steady_seq (steady_seq (steady_seq (steady_seq
    (steady_map (steady_optional Stamp.steady) mk)
    (steady_optional steady_bool)) (steady_optional HealthState.steady))
    (steady_optional steady_u64)) (steady_optional steady_u64))
    (steady_optional steady_u64)) (steady_optional steady_real))
    (steady_optional steady_u64)) (steady_optional steady_u64))
    (steady_optional (steady_table Disk.steady)))

variable {m : Metrics} (h : m.Fits)
include h

theorem denotes : Denotes ofJson m.toJson m := by
  have hcount : ∀ {o : Option Nat}, (∀ n ∈ o, Unsigned64 n) →
      ∀ n, o = some n → Denotes Json.asU64 (.ofNat n) n :=
        fun ho n hn => Json.denotes_u64 (ho n hn)
  refine Json.denotes_obj
    (read_seq (read_seq (read_seq (read_seq (read_seq (read_seq (read_seq
      (read_seq (read_seq (read_map mk ?_) ?_) ?_) ?_) ?_) ?_) ?_) ?_) ?_) ?_)
  · exact read_nullable (by simp) fun s hs => Stamp.denotes (h.time s hs)
  · exact read_nullable (by simp) fun b _ => Json.denotes_bool b
  · exact read_nullable (by simp) fun s _ => s.denotes
  · exact read_nullable (by simp) (hcount h.memAvail)
  · exact read_nullable (by simp) (hcount h.memTotal)
  · exact read_nullable (by simp) (hcount h.memUsed)
  · exact read_nullable (by simp) fun x _ => Json.denotes_real x
  · exact read_nullable (by simp) (hcount h.netRx)
  · exact read_nullable (by simp) (hcount h.netTx)
  · exact read_nullable (by simp) fun t ht =>
      Json.denotes_table fun e he => Disk.denotes (h.disks t ht e he)

theorem lossless : Lossless m.toJson := by
  have hcount : ∀ {o : Option Nat}, (∀ n ∈ o, Unsigned64 n) →
      Lossless (.ofOption .ofNat o) :=
    fun ho => Json.lossless_ofOption fun n hn => Json.lossless_u64 (ho n hn)
  refine .obj ?_
  simp only [List.forall_mem_cons]
  refine ⟨?_, ?_, ?_, hcount h.memAvail, hcount h.memTotal, hcount h.memUsed,
    ?_, hcount h.netRx, hcount h.netTx, ?_, nofun⟩
  · exact Json.lossless_ofOption fun s _ => .str _
  · exact Json.lossless_ofOption fun b _ => .bool b
  · exact Json.lossless_ofOption fun s _ => .str _
  · exact Json.lossless_ofOption fun x hx => .real (h.cpuLoad x hx)
  · exact Json.lossless_ofOption fun t ht =>
      Json.lossless_ofTable fun e he => Disk.lossless (h.disks t ht e he)

end Metrics

-- ==================================================================== nodes

namespace NodeInfo

def Fits (i : NodeInfo) : Prop := i.health.Fits

theorem steady : Steady ofJson :=
  steady_record (steady_seq (steady_seq (steady_seq (steady_seq (steady_seq
    (steady_map (steady_required steady_text) mk)
    (steady_optional steady_text)) (steady_optional steady_text))
    (steady_required steady_bool))
    (steady_required (steady_table steady_text)))
    (steady_required Metrics.steady))

variable {i : NodeInfo} (h : i.Fits)
include h

theorem denotes : Denotes ofJson i.toJson i := by
  refine Json.denotes_obj
    (read_seq (read_seq (read_seq (read_seq (read_seq (read_map mk ?_)
      ?_) ?_) ?_) ?_) ?_)
  · exact read_required (by simp) (Json.denotes_text _)
  · exact read_nullable (by simp [Json.ofText?_eq]) fun _ _ =>
      Json.denotes_text _
  · exact read_nullable (by simp [Json.ofText?_eq]) fun _ _ =>
      Json.denotes_text _
  · exact read_required (by simp) (Json.denotes_bool _)
  · exact read_required (by simp) (Json.denotes_textTable _)
  · exact read_required (by simp) (Metrics.denotes h)

theorem lossless : Lossless i.toJson := by
  refine .obj ?_
  simp only [List.forall_mem_cons]
  exact ⟨.str _, Json.lossless_ofText? _, Json.lossless_ofText? _, .bool _,
    Json.lossless_ofTable fun e _ => .str _, Metrics.lossless h, nofun⟩

end NodeInfo

namespace HealthEvent

def Fits (e : HealthEvent) : Prop := e.metrics.Fits

theorem steady : Steady ofJson :=
  steady_record
    (steady_seq (steady_seq (steady_map (steady_required steady_text) mk)
      (steady_optional steady_text)) (steady_required Metrics.steady))

variable {e : HealthEvent} (h : e.Fits)
include h

theorem denotes : Denotes ofJson e.toJson e := by
  refine Json.denotes_obj (read_seq (read_seq (read_map mk ?_) ?_) ?_)
  · exact read_required (by simp) (Json.denotes_text _)
  · exact read_nullable (by simp [Json.ofText?_eq]) fun _ _ =>
      Json.denotes_text _
  · exact read_required (by simp) (Metrics.denotes h)

theorem lossless : Lossless e.toJson := by
  refine .obj ?_
  simp only [List.forall_mem_cons]
  exact ⟨.str _, Json.lossless_ofText? _, Metrics.lossless h, nofun⟩

end HealthEvent

-- ================================================================== the law

open Json (decodeText decodeText_of_reordered Reordered)

/-- Every record is read back from its text, whatever order its tables are
written in: the events of an engine and what they say about a container, log
events, snapshots of nodes and health messages. And events written one per
line, with blank lines in any place, are what a subscription hands over, all
of them and nothing else, however the body is cut. -/
theorem records_survive :
    (∀ (e : EngineEvent) (j : Json), e.Fits → Reordered e.toJson j →
      decodeText EngineEvent.ofJson j.render = .ok e)
    ∧ (∀ (e : LogEvent) (j : Json), e.Fits → Reordered e.toJson j →
      decodeText LogEvent.ofJson j.render = .ok e)
    ∧ (∀ (c : ContainerBase) (j : Json), Reordered c.toJson j →
      decodeText ContainerBase.ofJson j.render = .ok c)
    ∧ (∀ (i : NodeInfo) (j : Json), i.Fits → Reordered i.toJson j →
      decodeText NodeInfo.ofJson j.render = .ok i)
    ∧ (∀ (e : HealthEvent) (j : Json), e.Fits → Reordered e.toJson j →
      decodeText HealthEvent.ofJson j.render = .ok e)
    ∧ ∀ {σ : Type} (c : EngineClient σ) (access : AccessControl)
        (caller : Caller) (window : Window) (s : σ) (r : Http.Reply)
        (lines : List EventLine),
      access.allows caller ⟨.node, c.node⟩ .read = true →
      (c.ask .get "/events" window.query none s).1 = .ok r →
      r.isSuccess = true → r.broken = false → (∀ l ∈ lines, l.Fits) →
      r.chunks.flatten = EventLine.body lines →
      (c.events access caller window s).1
        = { events := lines.filterMap EventLine.event?
            result := .ok (lines.filterMap EventLine.event?).length } := by
  refine ⟨fun e j h => ?_, fun e j h => ?_, fun c j => ?_, fun i j h => ?_,
    fun e j h => ?_, ?_⟩
  · exact decodeText_of_reordered (EngineEvent.denotes h)
      (EngineEvent.lossless h) EngineEvent.steady
  · exact decodeText_of_reordered (LogEvent.denotes h) e.lossless
      LogEvent.steady
  · exact decodeText_of_reordered c.denotes c.lossless ContainerBase.steady
  · exact decodeText_of_reordered (NodeInfo.denotes h)
      (NodeInfo.lossless h) NodeInfo.steady
  · exact decodeText_of_reordered (HealthEvent.denotes h)
      (HealthEvent.lossless h) HealthEvent.steady
  · intro σ c access caller window s r lines hgranted hreply hsuccess hwhole
      hlines hbody
    exact EngineClient.events_of_body hgranted hreply hsuccess hwhole
      hlines hbody

-- ============================================================= an instance

/-- An event of no known kind, with texts that need escaping, times at their
bounds, and parts that are there and empty. -/
def EngineEvent.unusual : EngineEvent where
  kind := .unknown
  action := "first\nsecond\r\n\t\"quoted\" \\ é 😀"
  actor := some {}
  id := some ""
  node := some { name := " n1 " }
  time := -9223372036854775808
  timeNano := some 9223372036854775807

/-- A report at the bounds: the smallest load below zero, no disk at all. -/
def Metrics.unusual : Metrics where
  time := some (.ofInstant ⟨1700000000123000000⟩)
  healthy := some false
  state := some .maintenance
  memTotal := some 18446744073709551615
  memUsed := some 0
  cpuLoad := some ⟨true, 1⟩
  disks := some ∅

def NodeInfo.unusual : NodeInfo where
  name := "n1"
  address := some "\x00"
  labels := .ofList [("", "é")]
  health := .unusual

def HealthEvent.unusual : HealthEvent := ⟨"n1", some "", .unusual⟩

def LogEvent.unusual : LogEvent where
  action := ""
  node := "n1"
  cluster := none
  date := .ofInstant ⟨-1⟩
  kind := .unknown
  status := none
  severity := .warning
  container := some { id := "", state := some .dead }

/-- An event of a container with two labels. -/
def EngineEvent.labelled : EngineEvent where
  kind := .container
  actor := some
    { id := "c1",
      attributes := ⟨[("image", "web"), ("name", "www")], by decide +kernel⟩ }

/-- The same event, the later label written first. -/
def EngineEvent.shuffled : Json :=
  .obj
    [("Type", .str "container"), ("Action", .str ""),
     ("Actor", .obj [("ID", .str "c1"),
      ("Attributes", .obj [("name", .str "www"), ("image", .str "web")])]),
     ("status", .null), ("id", .null), ("from", .null), ("node", .null),
     ("time", .int 0), ("timeNano", .null)]

theorem EngineEvent.shuffled_reordered :
    Reordered labelled.toJson shuffled := by
  have hlabels :
      [("image", "web"), ("name", "www")].Perm
        [("name", "www"), ("image", "web")] :=
    .swap _ _ []
  have hactor :=
    (Json.reordered_ofTable .str ⟨_, by decide +kernel⟩ hlabels).member
      [("ID", .str "c1")] "Attributes" []
  exact hactor.member
    [("Type", .str "container"), ("Action", .str "")] "Actor" _

/-- Events with blank lines in front and in between. -/
def EventLine.mixed : List EventLine :=
  [.blank "", .event .unusual EngineEvent.unusual.toJson, .blank " \r",
    .event .labelled EngineEvent.shuffled, .blank ""]

/-- A body cut in two behind so many bytes, with an empty chunk in between. -/
def Http.Reply.cut (place : Nat) (body : List UInt8) : Http.Reply where
  status := 200
  chunks := [body.take place, [], body.drop place]

theorem Http.Reply.flatten_cut (place : Nat) (body : List UInt8) :
    (cut place body).chunks.flatten = body := by
  simp [cut]

/-- An engine that has one reply to all requests. -/
def EngineClient.replying (r : Http.Reply) : EngineClient Unit where
  node := "n1"
  address := "tcp://n1:2375"
  send _ s := (.ok r, s)

theorem EngineClient.ask_replying (r : Http.Reply) (window : Window) :
    ((replying r).ask .get "/events" window.query none ()).1 = .ok r := by
  have haddress :
      (Http.Url.parse? (baseUrl "tcp://n1:2375" ++ "/events")).isSome
          = true := by
    decide +kernel
  obtain ⟨url, hurl⟩ := Option.isSome_iff_exists.1 haddress
  unfold ask replying
  rw [hurl]

theorem EngineEvent.unusual_fits : EngineEvent.unusual.Fits := by
  refine ⟨⟨by decide, by decide⟩, ?_⟩
  rintro n ⟨⟩
  exact ⟨by decide, by decide⟩

theorem Metrics.unusual_fits : Metrics.unusual.Fits where
  time := by
    rintro s ⟨⟩
    decide +kernel
  memAvail := nofun
  memTotal := by
    rintro n ⟨⟩
    exact Nat.le_refl _
  memUsed := by
    rintro n ⟨⟩
    exact Nat.zero_le _
  cpuLoad := by
    rintro x ⟨⟩
    decide +kernel
  netRx := nofun
  netTx := nofun
  disks := by
    rintro t ⟨⟩
    exact nofun

theorem EventLine.mixed_fits : ∀ l ∈ mixed, l.Fits := by
  have hlabelled : EngineEvent.labelled.Fits := ⟨⟨by decide, by decide⟩, nofun⟩
  unfold mixed
  simp only [List.forall_mem_cons]
  exact ⟨⟨by decide, nofun⟩, ⟨EngineEvent.unusual_fits, .refl _⟩,
    ⟨by decide, by decide⟩, ⟨hlabelled, EngineEvent.shuffled_reordered⟩,
    ⟨by decide, nofun⟩, List.forall_mem_nil _⟩

/-- The law at these: each comes back, and of the lines the two events, with a
cut inside the four bytes of a character. -/
theorem records_of_unusual :
    decodeText EngineEvent.ofJson EngineEvent.shuffled.render = .ok .labelled
    ∧ decodeText LogEvent.ofJson LogEvent.unusual.toJson.render = .ok .unusual
    ∧ decodeText NodeInfo.ofJson NodeInfo.unusual.toJson.render = .ok .unusual
    ∧ decodeText HealthEvent.ofJson HealthEvent.unusual.toJson.render
      = .ok .unusual
    ∧ ((EngineClient.replying
          (.cut 67 (EventLine.body EventLine.mixed))).events .allowAll
        (.user "alice") ⟨⟨0⟩, ⟨60000000000⟩⟩ ()).1.events
      = [.unusual, .labelled] := by
  obtain ⟨hevent, hlog, -, hnode, hhealth, hstream⟩ := records_survive
  have hlabelled : EngineEvent.labelled.Fits := ⟨⟨by decide, by decide⟩, nofun⟩
  have hdate : LogEvent.unusual.Fits := by
    unfold LogEvent.Fits
    decide +kernel
  have hanswer :=
    hstream (.replying (.cut 67 (EventLine.body EventLine.mixed))) .allowAll
      (.user "alice") ⟨⟨0⟩, ⟨60000000000⟩⟩ () _ EventLine.mixed rfl
      (EngineClient.ask_replying _ _) rfl rfl EventLine.mixed_fits
      (Http.Reply.flatten_cut _ _)
  refine ⟨hevent _ _ hlabelled EngineEvent.shuffled_reordered,
    hlog _ _ hdate (.refl _), ?_, ?_, ?_⟩
  · exact hnode .unusual _ Metrics.unusual_fits (.refl _)
  · exact hhealth .unusual _ Metrics.unusual_fits (.refl _)
  · exact congrArg PollAnswer.events hanswer

end Fleetkeeper
