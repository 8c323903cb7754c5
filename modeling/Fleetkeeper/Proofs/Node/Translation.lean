/-
Normalizing an event is exact: it fails for three reasons and for no other, and
where it does not fail every part of the log event has one source.

# Why it can fail

A container event must have an actor, and an id, its actor's or its own. And
the moment must be a date: a positive count of nanoseconds always is one, and
where there is none the count of seconds has to lie in the years that dates can
show. `Untranslatable` lists the three, with the years written out.

# Where the parts come from

Node, container id and moment each have a second source behind the first, and
`Translates` and `Describes` say for both when it is that one. The attributes
of an actor are dealt out between the name, the labels and the image, of which
the last goes nowhere: the image of a container is what its event was from.

# What does not come into it

Of the membership only the entry of the node that the event is placed on is
read, and the cluster that the receiving node is in is not read at all
(`Registration.log_acceptEvent`): where the two differ, a line in the journal
says so.
-/
import Mathlib.Data.List.Basic
import Fleetkeeper.Node.Registration
import Fleetkeeper.Proofs.Time.Range

namespace Fleetkeeper

namespace EngineEvent

variable {e : EngineEvent} {localNode : String} {members : Membership}

-- ============================================================ vocabulary

/-- There is no positive count of nanoseconds, and dates do not reach the count
of seconds. -/
def Undated (e : EngineEvent) : Prop :=
  (∀ n, e.timeNano = some n → n ≤ 0)
    ∧ (e.time < -8334601228800 ∨ 8210266876799 < e.time)

/-- The reasons for which an event cannot be normalized. -/
inductive Untranslatable (e : EngineEvent) : Prop where
  | actorless (hkind : e.kind = .container) (hactor : e.actor = none)
  | anonymous {a : Actor} (hkind : e.kind = .container)
      (hactor : e.actor = some a) (hempty : a.id = "") (hid : e.id = none)
  | undated (htime : e.Undated)

/-- What the descriptor of a container says, and where it has it from. -/
structure Describes (e : EngineEvent) (a : Actor) (node : String)
    (c : ContainerBase) :
    Prop where
  id : if a.id = "" then e.id = some c.id else c.id = a.id
  name : c.name = a.attributes.find? "name"
  image : c.image = e.image
  node : c.node = some node
  /-- Every other attribute is a label, and there are no other labels. -/
  labels : ∀ key, c.labels.find? key
    = if key = "name" ∨ key = "image" then none else a.attributes.find? key
  state : c.state = (mapAction e.action).2

/-- What a log event says, and where it has it from. -/
structure Translates (e : EngineEvent) (localNode : String)
    (members : Membership) (event : LogEvent) : Prop where
  named : ∀ n, e.node = some n → n.name ≠ "" → event.node = n.name
  unnamed : (∀ n, e.node = some n → n.name = "") → event.node = localNode
  cluster : event.cluster = members event.node
  nanos : ∀ n, e.timeNano = some n → 0 < n → event.date = .ofInstant ⟨n⟩
  seconds : (∀ n, e.timeNano = some n → n ≤ 0) →
    event.date = .ofInstant ⟨e.time * 1000000000⟩
  kind : event.kind = e.kind
  status : event.status = e.status
  severity : event.severity = Severity.ofStatus e.status
  plain : e.kind ≠ .container →
    event.action = e.action ∧ event.container = none
  container : e.kind = .container →
    event.action = (mapAction e.action).1.getD e.action
      ∧ ∃ a c, e.actor = some a ∧ event.container = some c
      ∧ Describes e a event.node c

-- ================================================================ sources

theorem nodeName_of_named {n : EventNode} (h : e.node = some n)
    (hname : n.name ≠ "") :
    e.nodeName localNode = n.name := by
  unfold nodeName
  rw [h]
  exact if_pos hname

theorem nodeName_of_unnamed (h : ∀ n, e.node = some n → n.name = "") :
    e.nodeName localNode = localNode := by
  unfold nodeName
  cases hnode : e.node with
  | none => rfl
  | some n => exact if_neg (not_not.2 (h n hnode))

theorem date?_of_nanos {n : Int} (h : e.timeNano = some n) (hn : 0 < n) :
    e.date? = some ⟨n⟩ := by
  unfold date?
  rw [h]
  exact if_pos hn

theorem date?_of_seconds (h : ∀ n, e.timeNano = some n → n ≤ 0) :
    e.date? = Instant.ofSeconds? e.time := by
  unfold date?
  cases hnanos : e.timeNano with
  | none => rfl
  | some n => exact if_neg (Int.not_lt.2 (h n hnanos))

/-- An event has no date just where it gives no positive count of nanoseconds
and its seconds are beyond all dates. -/
theorem date?_eq_none_iff : e.date? = none ↔ e.Undated := by
  by_cases hnanos : ∃ n, e.timeNano = some n ∧ 0 < n
  · obtain ⟨n, hn, hpos⟩ := hnanos
    rw [date?_of_nanos hn hpos]
    refine ⟨nofun, fun hundated => ?_⟩
    have := hundated.1 n hn
    omega
  · have hnone : ∀ n, e.timeNano = some n → n ≤ 0 := by
      intro n hn
      by_contra hpos
      exact hnanos ⟨n, hn, by omega⟩
    rw [date?_of_seconds hnone, Instant.ofSeconds?_eq]
    unfold Undated
    split
    case isTrue hout => exact ⟨fun _ => ⟨hnone, hout⟩, fun _ => rfl⟩
    case isFalse hin => exact ⟨nofun, fun hundated => absurd hundated.2 hin⟩

theorem find?_labelsOf (a : Actor) (key : String) :
    (labelsOf a).find? key
      = if key = "name"
        ∨ key = "image" then none else a.attributes.find? key := by
  unfold labelsOf
  rw [Table.find?_erase, Table.find?_erase]
  by_cases himage : key = "image" <;> by_cases hname : key = "name" <;>
    simp [himage, hname]

-- ============================================================== the parts

/-- A container event with an actor and an id has a descriptor. -/
theorem describes_of_containerPart {a : Actor} (node : String)
    (hactor : e.actor = some a) (hid : ¬ (a.id = "" ∧ e.id = none)) :
    ∃ c, e.containerPart node = .ok ((mapAction e.action).1.getD e.action, c)
      ∧ Describes e a node c := by
  obtain ⟨id, hfound, hsource⟩ : ∃ id, e.containerId? = some id
      ∧ if a.id = "" then e.id = some id else id = a.id := by
    unfold containerId?
    rw [hactor]
    by_cases hempty : a.id = ""
    · obtain ⟨id, hown⟩ :=
        Option.ne_none_iff_exists'.1 fun hnone => hid ⟨hempty, hnone⟩
      exact ⟨id, by simp [hempty, hown], by simp [hempty, hown]⟩
    · exact ⟨a.id, by simp [hempty], by simp [hempty]⟩
  unfold containerPart
  rw [hactor]
  dsimp only
  rw [hfound]
  refine ⟨_, rfl, ?_⟩
  exact {
    id := hsource
    name := rfl
    image := rfl
    node := rfl
    labels := find?_labelsOf a
    state := rfl }

/-- One without either has none. -/
theorem containerPart_error (node : String)
    (h : e.actor = none ∨ ∃ a, e.actor = some a ∧ a.id = "" ∧ e.id = none) :
    ∃ fault, e.containerPart node = .error fault := by
  unfold containerPart
  rcases h with hactor | ⟨a, hactor, hempty, hid⟩
  · rw [hactor]
    exact ⟨_, rfl⟩
  · have hnone : e.containerId? = none := by
      unfold containerId?
      rw [hactor]
      simp [hempty, hid]
    rw [hactor]
    dsimp only
    rw [hnone]
    exact ⟨_, rfl⟩

/-- The last step of normalizing: the moment, and all that cannot fail. -/
def dated (e : EngineEvent) (localNode : String) (members : Membership)
    (action : String) (container : Option ContainerBase) :
    Except Fault LogEvent :=
  match e.date? with
  | none => .error (.event ("invalid event time " ++ toString e.time))
  | some date =>
    .ok { action, node := e.nodeName localNode,
          cluster := members (e.nodeName localNode), date := .ofInstant date,
          kind := e.kind, status := e.status,
          severity := Severity.ofStatus e.status, container }

theorem normalise_plain (hkind : e.kind ≠ .container) :
    e.normalise localNode members
      = e.dated localNode members e.action none := by
  unfold normalise
  simp only [if_neg hkind]
  rfl

theorem normalise_described {action : String} {c : ContainerBase}
    (hkind : e.kind = .container)
    (hpart : e.containerPart (e.nodeName localNode) = .ok (action, c)) :
    e.normalise localNode members
      = e.dated localNode members action (some c) := by
  unfold normalise
  simp only [if_pos hkind, hpart]
  rfl

theorem normalise_undescribed {fault : Fault} (hkind : e.kind = .container)
    (hpart : e.containerPart (e.nodeName localNode) = .error fault) :
    e.normalise localNode members = .error fault := by
  unfold normalise
  simp only [if_pos hkind, hpart]
  rfl

-- ================================================================ the law

/-- With a date, the last step gives what it should. -/
theorem translates_of_dated {action : String}
    {container : Option ContainerBase} (hdate : ¬ e.Undated)
    (hplain : e.kind ≠ .container → action = e.action ∧ container = none)
    (hcontainer : e.kind = .container →
        action = (mapAction e.action).1.getD e.action
      ∧ ∃ a c, e.actor = some a ∧ container = some c
        ∧ Describes e a (e.nodeName localNode) c) :
    ∃ event, e.dated localNode members action container = .ok event
      ∧ Translates e localNode members event := by
  obtain ⟨date, hfound⟩ :=
    Option.ne_none_iff_exists'.1 (mt date?_eq_none_iff.1 hdate)
  unfold dated
  rw [hfound]
  refine ⟨_, rfl, ?_⟩
  exact {
    named := fun n hn hname => nodeName_of_named hn hname
    unnamed := fun hnone => nodeName_of_unnamed hnone
    cluster := rfl
    nanos := by
      intro n hn hpos
      rw [date?_of_nanos hn hpos] at hfound
      cases hfound
      rfl
    seconds := by
      intro hnone
      rw [date?_of_seconds hnone, Instant.ofSeconds?_eq] at hfound
      split at hfound
      case isTrue => cases hfound
      case isFalse =>
        cases hfound
        rfl
    kind := rfl
    status := rfl
    severity := rfl
    plain := hplain
    container := hcontainer }

/-- Without one it fails. -/
theorem dated_undated {action : String} {container : Option ContainerBase}
    (hdate : e.Undated) :
    ∃ fault, e.dated localNode members action container = .error fault := by
  unfold dated
  rw [date?_eq_none_iff.2 hdate]
  exact ⟨_, rfl⟩

/-- An event is not normalized, for one of the reasons, or there is none of
them and it is. -/
theorem untranslatable_or_translates (e : EngineEvent) (localNode : String)
    (members : Membership) :
    (e.Untranslatable ∧ ∃ fault, e.normalise localNode members = .error fault)
      ∨ (¬ e.Untranslatable ∧ ∃ event,
          e.normalise localNode members = .ok event
        ∧ Translates e localNode members event) := by
  by_cases hkind : e.kind = .container
  case neg =>
    rw [normalise_plain hkind]
    by_cases hdate : e.Undated
    · exact .inl ⟨.undated hdate, dated_undated hdate⟩
    · refine .inr ⟨?_, translates_of_dated hdate (fun _ => ⟨rfl, rfl⟩) fun h =>
        absurd h hkind⟩
      rintro (⟨hcontainer, -⟩ | ⟨hcontainer, -, -, -⟩ | hundated)
      · exact hkind hcontainer
      · exact hkind hcontainer
      · exact hdate hundated
  case pos =>
    by_cases hpart :
        e.actor = none ∨ ∃ a, e.actor = some a ∧ a.id = "" ∧ e.id = none
    · obtain ⟨fault, hfault⟩ :=
        containerPart_error (e.nodeName localNode) hpart
      refine .inl ⟨?_, fault, normalise_undescribed hkind hfault⟩
      rcases hpart with hactor | ⟨a, hactor, hempty, hid⟩
      · exact .actorless hkind hactor
      · exact .anonymous hkind hactor hempty hid
    · obtain ⟨a, hactor⟩ :=
        Option.ne_none_iff_exists'.1 fun hnone => hpart (.inl hnone)
      have hnamed : ¬ (a.id = "" ∧ e.id = none) :=
        fun h => hpart (.inr ⟨a, hactor, h⟩)
      obtain ⟨c, hdescribed, hdescribes⟩ :=
        describes_of_containerPart (e.nodeName localNode) hactor hnamed
      rw [normalise_described hkind hdescribed]
      by_cases hdate : e.Undated
      · exact .inl ⟨.undated hdate, dated_undated hdate⟩
      · refine .inr
          ⟨?_, translates_of_dated hdate (fun h => absurd hkind h) fun _ =>
            ⟨rfl, a, c, hactor, rfl, hdescribes⟩⟩
        rintro (⟨-, hnone⟩ | ⟨-, hsome, hempty, hid⟩ | hundated)
        · exact hpart (.inl hnone)
        · exact hpart (.inr ⟨_, hsome, hempty, hid⟩)
        · exact hdate hundated

/-- What is normalized is normalized as it should be. -/
theorem translates_of_ok {event : LogEvent}
    (h : e.normalise localNode members = .ok event) :
    Translates e localNode members event := by
  rcases e.untranslatable_or_translates localNode members with
    ⟨-, fault, hfault⟩ | ⟨-, other, hother, htranslates⟩
  · rw [h] at hfault
    cases hfault
  · rw [h] at hother
    cases hother
    exact htranslates

/-- Of the membership only one entry is read. -/
theorem normalise_congr {members' : Membership}
    (h : members' (e.nodeName localNode) = members (e.nodeName localNode)) :
    e.normalise localNode members' = e.normalise localNode members := by
  unfold normalise
  dsimp only
  rw [h]

end EngineEvent

/-- The log events among effects, in order. -/
def Effect.log? : Effect → Option LogEvent
  | log event => some event
  | lifecycle _ | health _ | journal _ | bindAsked _ _ | pollerStarted _ _
  | pollerStopped _ => none

/-- A registration that takes in an event tells the normalized event, if there
is one, whatever cluster it is in itself. -/
theorem Registration.log_acceptEvent (env : Services) (e : EngineEvent)
    (r : Registration) :
    (r.acceptEvent env e).filterMap Effect.log?
      = (e.normalise r.name env.members).toOption.toList := by
  unfold acceptEvent
  cases e.normalise r.name env.members with
  | error fault => rfl
  | ok event =>
    by_cases hsame : event.cluster = r.cluster
    · simp only [if_pos hsame]
      rfl
    · simp only [if_neg hsame]
      rfl

/-- Normalizing is exact: an event fails just for one of the three reasons, and
every part of a log event has the source that it should. A registration that
takes in an event tells what comes of that and nothing else, whichever cluster
it is in, and of the membership only the entry of the event's node matters. -/
theorem normalise_exact (e : EngineEvent) (localNode : String)
    (members : Membership) :
    ((∃ fault, e.normalise localNode members = .error fault)
        ↔ e.Untranslatable)
      ∧ (¬ e.Untranslatable →
          ∃ event, e.normalise localNode members = .ok event
        ∧ e.Translates localNode members event)
      ∧ (∀ env (r : Registration), r.name = localNode → env.members = members →
        (r.acceptEvent env e).filterMap Effect.log?
          = (e.normalise localNode members).toOption.toList)
      ∧ ∀ members' : Membership,
        members' (e.nodeName localNode) = members (e.nodeName localNode) →
          e.normalise localNode members' = e.normalise localNode members := by
  refine ⟨?_, ?_, ?_, fun _ => EngineEvent.normalise_congr⟩
  · rcases e.untranslatable_or_translates localNode members with
      ⟨hreason, hfault⟩ | ⟨hnone, event, hevent, -⟩
    · exact ⟨fun _ => hreason, fun _ => hfault⟩
    · refine ⟨?_, fun hreason => absurd hreason hnone⟩
      rintro ⟨fault, hfault⟩
      rw [hevent] at hfault
      cases hfault
  · intro hnone
    rcases e.untranslatable_or_translates localNode members with
      ⟨hreason, -⟩ | ⟨-, hevent⟩
    · exact absurd hreason hnone
    · exact hevent
  · rintro env r rfl rfl
    exact r.log_acceptEvent env e

-- A kill that names neither a node nor, in its actor, a container.
example :
    let labels := (∅ : Table String).insert "zone" "a"
    let e : EngineEvent :=
      { kind := .container, action := "kill", status := some "kill",
        id := some "c1",
        actor :=
          some ⟨"", (labels.insert "name" "web").insert "image" "nginx"⟩,
        node := some {}, time := 5, timeNano := some 0 }
    e.normalise "n1" (fun _ => some "edge")
      = .ok { action := "STOP", node := "n1", cluster := some "edge",
              date := .ofInstant ⟨5000000000⟩, kind := .container,
              status := some "kill", severity := .warning,
              container := some { id := "c1", name := some "web",
                                  node := some "n1", labels,
                                  state := some .exited } } :=
  rfl

end Fleetkeeper
