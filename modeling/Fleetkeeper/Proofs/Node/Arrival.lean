/-
What a poll has brought arrives in the log, and nowhere else.

# What arrives

Of the events that a poll hands over, the log gets those that can be
normalized, in their order (`arriving`). An event is normalized with the name
of the node that was polled and with the membership that the storage has when
the events are handed over, whatever has been asked of it since the poller was
started. The cluster that the polled node is in does not come into it, unless
the event is one of that node.

# Why it holds

Handing over an event changes the log channel and the journal and no more
(`accept_eq_arriving`), so the storage, and with it the membership, is the same
for all events of a poll. What arrives is then found event by event, by
induction on them (`acceptAll_eq_arriving`).

# The end of a poll

How the poll ended is looked at last, and it only makes a difference to the
journal. The poller waits for its next tick in any case, and that starts a poll
while windows end at a date.
-/
import Fleetkeeper.Proofs.Node.Lifetime
import Fleetkeeper.Proofs.Node.Translation

namespace Fleetkeeper

-- ========================================================== what arrives

/-- The log events that raw events received from a node come to. -/
def arriving (localNode : String) (members : Membership)
    (events : List EngineEvent) : List LogEvent :=
  events.filterMap fun e => (e.normalise localNode members).toOption

variable {localNode : String} {members : Membership} {e : EngineEvent}

theorem arriving_of_ok {event : LogEvent}
    (h : e.normalise localNode members = .ok event) (rest : List EngineEvent) :
    arriving localNode members (e :: rest)
      = event :: arriving localNode members rest := by
  refine List.filterMap_cons_some ?_
  rw [h]
  rfl

theorem arriving_of_error {fault : Fault}
    (h : e.normalise localNode members = .error fault)
    (rest : List EngineEvent) :
    arriving localNode members (e :: rest)
      = arriving localNode members rest := by
  refine List.filterMap_cons_none ?_
  rw [h]
  rfl

theorem arriving_append (events more : List EngineEvent) :
    arriving localNode members (events ++ more)
      = arriving localNode members events ++ arriving localNode members more :=
  List.filterMap_append

theorem mem_arriving {events : List EngineEvent} {event : LogEvent} :
    event ∈ arriving localNode members events
      ↔ ∃ e ∈ events, e.normalise localNode members = .ok event := by
  unfold arriving
  rw [List.mem_filterMap]
  refine exists_congr fun e => and_congr_right fun _ => ?_
  cases e.normalise localNode members <;> simp [Except.toOption]

namespace Fleet

variable {σ : Type} {engines : Engines σ} {f : Fleet} {i : Slot}
  {r : Registration} {p : Poller}

-- ======================================================= handing over

/-- Lines for the journal go there. -/
theorem publishAll_journal (i : Slot) (lines : List LogLine) (f : Fleet) :
    ∃ journal, f.publishAll i (lines.map .journal) = { f with journal } := by
  unfold publishAll
  induction lines generalizing f with
  | nil => exact ⟨_, rfl⟩
  | cons l rest ih =>
    obtain ⟨journal, hrest⟩ := ih (f.publish i (.journal l))
    exact ⟨journal, hrest⟩

/-- An event that is handed over arrives if it can be normalized, and it
changes nothing else but the journal. -/
theorem accept_eq_arriving (engines : Engines σ)
    (hat : f.storage.at? i = some r) (e : EngineEvent) :
    ∃ journal, f.accept engines i e
      = { f with logs := (arriving r.name f.storage.clusterOf [e]).foldl
                   Channel.send f.logs,
                 journal } := by
  have hmembers : (f.services engines).members = f.storage.clusterOf := rfl
  unfold accept Registration.acceptEvent
  rw [hat, hmembers]
  dsimp only
  cases hevent : e.normalise r.name f.storage.clusterOf with
  | ok event =>
    rw [arriving_of_ok hevent]
    by_cases hsame : event.cluster = r.cluster
    · simp only [if_pos hsame]
      exact ⟨_, rfl⟩
    · simp only [if_neg hsame]
      exact ⟨_, rfl⟩
  | error fault =>
    rw [arriving_of_error hevent]
    exact ⟨_, rfl⟩

/-- So do all events that are handed over, in their order. By induction on
them. -/
theorem acceptAll_eq_arriving (engines : Engines σ) (events : List EngineEvent)
    {f : Fleet} (hat : f.storage.at? i = some r) :
    ∃ journal, events.foldl (fun f e => f.accept engines i e) f
      = { f with logs := (arriving r.name f.storage.clusterOf events).foldl
                   Channel.send f.logs,
                 journal } := by
  induction events generalizing f with
  | nil => exact ⟨_, rfl⟩
  | cons e rest ih =>
    obtain ⟨_, hfirst⟩ := accept_eq_arriving engines hat e
    obtain ⟨journal, hrest⟩ :=
      ih (f := f.accept engines i e) (by rw [hfirst]; exact hat)
    refine ⟨journal, ?_⟩
    rw [List.foldl_cons, hrest, hfirst]
    -- the storage is the same for the events to come, and so is the membership
    have hsplit : arriving r.name f.storage.clusterOf (e :: rest)
        = arriving r.name f.storage.clusterOf [e]
          ++ arriving r.name f.storage.clusterOf rest :=
      arriving_append [e] rest
    rw [hsplit, List.foldl_append]

/-- What a poll has brought arrives, however it ended. -/
theorem deliver_eq_arriving (engines : Engines σ) (node : String)
    (answer : PollAnswer) (hat : f.storage.at? i = some r) :
    ∃ journal, f.deliver engines i node answer
      = { f with
          logs := (arriving r.name f.storage.clusterOf answer.events).foldl
            Channel.send f.logs,
          journal } := by
  obtain ⟨_, hremarks⟩ := publishAll_journal i answer.remarks f
  obtain ⟨_, hevents⟩ := acceptAll_eq_arriving engines answer.events
    (f := f.publishAll i (answer.remarks.map .journal))
    (by rw [hremarks]; exact hat)
  unfold deliver
  dsimp only
  rw [hevents, hremarks]
  cases answer.result with
  | ok => exact ⟨_, rfl⟩
  | error => exact ⟨_, rfl⟩

-- ======================================================== a poll that ends

/-- A poller that moves on leaves all else in its storage as it is. -/
theorem at?_moved (hat : f.storage.at? i = some r)
    (hpoller : r.poller = some p) (phase : PollPhase) (j : Slot) :
    (f.setPoller i { p with phase }).storage.at? j
      = if i = j then some (r.inPhase phase) else f.storage.at? j := by
  rw [setPoller_storage hat hpoller phase]
  unfold Storage.operate
  rw [hat]
  exact Storage.at?_commit hat _ j

/-- So nodes stay in their clusters. -/
theorem clusterOf_moved (hat : f.storage.at? i = some r)
    (hpoller : r.poller = some p) (phase : PollPhase) :
    (f.setPoller i { p with phase }).storage.clusterOf
      = f.storage.clusterOf := by
  funext name
  have hslot : (f.setPoller i { p with phase }).storage.slot? name
    = f.storage.slot? name := rfl
  unfold Storage.clusterOf Storage.find?
  rw [hslot]
  cases f.storage.slot? name with
  | none => rfl
  | some j =>
    simp only [Option.bind_some, at?_moved hat hpoller phase j]
    by_cases hij : i = j
    · subst hij
      rw [if_pos rfl, hat]
      rfl
    · rw [if_neg hij]

/-- A poll that is over hands over what it has brought, and its poller waits
for the next tick. -/
theorem act_polling {done tick : Nat} {answer : PollAnswer}
    (hphase : p.phase = .polling done tick answer) (node : String) (s : σ) :
    f.act engines i node p s
      = ((f.setPoller i { p with phase := .waiting tick }).deliver engines i
          node answer, none, s) := by
  unfold act
  rw [hphase]

/-- A poller that waits starts a poll when its tick comes, if there is a window
to ask for. -/
theorem act_waiting (engines : Engines σ) {tick : Nat}
    (hphase : p.phase = .waiting tick) (node : String) (s : σ) :
    (f.act engines i node p s).2.1
      = (Poller.onTick f.config.polling f.clock).map
          fun window => ⟨f.timer, node, p.address, window⟩ := by
  unfold act
  rw [hphase]
  dsimp only
  cases Poller.onTick f.config.polling f.clock with
  | none => rfl
  | some window => rfl

/-- What has become of a fleet when a poll of the registration `r` at `i` is
over that has brought `events`. -/
structure Arrived (f : Fleet) (i : Slot) (r : Registration) (p : Poller)
    (tick : Nat) (events : List EngineEvent) (f' : Fleet) : Prop where
  /-- The log has been sent what arrives of the events, in their order. -/
  logs : f'.logs
    = (arriving r.name f.storage.clusterOf events).foldl Channel.send f.logs
  lifecycle : f'.lifecycle = f.lifecycle
  health : f'.health = f.health
  names : f'.storage.names = f.storage.names
  /-- Of the registrations only that one is changed, and only in its poller. -/
  places : ∀ j, f'.storage.at? j
    = if i = j then some (r.inPhase (.waiting tick)) else f.storage.at? j
  /-- And that is up for its next tick. -/
  waking : (i, { p with phase := .waiting tick }, tick) ∈ f'.waking

/-- A poll that is over has arrived: its poller waits for the next tick, and
its events are taken in by its own registration. -/
theorem arrived_of_act (engines : Engines σ) (s : σ) {done tick : Nat}
    {answer : PollAnswer} (hat : f.storage.at? i = some r)
    (hpoller : r.poller = some p)
    (hphase : p.phase = .polling done tick answer) :
    Arrived f i r p tick answer.events (f.act engines i r.name p s).1 := by
  have hmoved := at?_moved hat hpoller (.waiting tick)
  have hwaiting :
      (f.setPoller i { p with phase := .waiting tick }).storage.at? i
        = some (r.inPhase (.waiting tick)) := by
    rw [hmoved i, if_pos rfl]
  obtain ⟨journal, hdelivered⟩ :=
    deliver_eq_arriving engines r.name answer hwaiting
  rw [act_polling hphase]
  dsimp only
  rw [hdelivered, clusterOf_moved hat hpoller]
  refine ⟨rfl, rfl, rfl, rfl, hmoved, ?_⟩
  refine mem_waking.2 ⟨r.inPhase (.waiting tick), hwaiting, ?_, rfl⟩
  unfold Registration.inPhase
  rw [hpoller]
  rfl

/-- When a poll is over, however it has ended and whatever the storage is by
then, the log gets the events of the poll that can be normalized, in their
order, each placed on the node that it names, or else on the polled one, and in
the cluster of that node. No other channel gets anything, and of all
registrations only the phase of this poller changes: it is up for its next
tick, and starts a poll then, as long as windows end at a date.

What is true of all events of a poll is true of each for itself, whatever has
become of the fleet before it is handed over. -/
theorem poll_arrives (engines : Engines σ) (s : σ) {done tick : Nat}
    {events : List EngineEvent} {result : Except Fault Nat}
    {remarks : List LogLine} (hat : f.storage.at? i = some r)
    (hpoller : r.poller = some p)
    (hphase : p.phase = .polling done tick ⟨events, result, remarks⟩) :
    Arrived f i r p tick events (f.act engines i r.name p s).1
      ∧ (∀ event ∈ arriving r.name f.storage.clusterOf events,
        ∃ e ∈ events, e.normalise r.name f.storage.clusterOf = .ok event
          ∧ (∀ n, e.node = some n → n.name ≠ "" → event.node = n.name)
          ∧ ((∀ n, e.node = some n → n.name = "") → event.node = r.name)
          ∧ event.cluster = f.storage.clusterOf event.node)
      ∧ (∀ (g : Fleet) (s : σ),
        (g.act engines i r.name { p with phase := .waiting tick } s).2.1
            = (Poller.onTick g.config.polling g.clock).map
                (fun window => ⟨g.timer, r.name, p.address, window⟩)
          ∧ (g.config.polling.periodSecs ≠ 0 →
            (Event.acted g.clock).Timely g.config.polling →
            (Poller.onTick g.config.polling g.clock).isSome = true))
      ∧ ∀ (g : Fleet) (j : Slot) (q : Registration) (e : EngineEvent),
        g.storage.at? j = some q → ∃ journal, g.accept engines j e
          = { g with logs := (arriving q.name g.storage.clusterOf [e]).foldl
                       Channel.send g.logs,
                     journal } := by
  refine ⟨arrived_of_act engines s hat hpoller hphase, ?_, ?_, ?_⟩
  · intro event hevent
    obtain ⟨e, he, hnormalised⟩ := mem_arriving.1 hevent
    have htranslates := EngineEvent.translates_of_ok hnormalised
    exact ⟨e, he, hnormalised, htranslates.named, htranslates.unnamed,
      htranslates.cluster⟩
  · intro g s
    refine ⟨act_waiting engines rfl r.name s, fun hperiod htimely => ?_⟩
    rw [onTick_timely hperiod htimely]
    rfl
  · intro g j q e hg
    exact accept_eq_arriving engines hg e

/-- What a poll brings that breaks off: an event that names another node, a
container event that says nothing of its container, and one that names no
node. -/
def brokenPoll : PollAnswer where
  events :=
    [{ kind := .network, action := "connect", node := some { name := "n2" } },
     { kind := .container, action := "start" },
     { kind := .image, action := "pull", node := some {} }]
  result := .error (.node "connection reset")

/-- Two nodes in two clusters. The poll of the first is just over. -/
def edgeAndProd : Fleet :=
  let polled : Registration :=
    { Registration.ofInfo
        { name := "n1", address := some "10.0.0.1:2375",
          cluster := some "edge" } with
      client := some ⟨"10.0.0.1:2375", 0⟩
      poller := some ⟨0, "10.0.0.1:2375", .polling 0 1000 brokenPoll⟩ }
  let other := Registration.ofInfo { name := "n2", cluster := some "prod" }
  { config := { polling := eachSecond }, clock := ⟨0⟩,
    storage := { slots := [polled, other],
                 names := ((∅ : Table Slot).insert "n1" 0).insert "n2" 1,
                 started := 1 },
    lifecycle := .ofCapacity 8, logs := .ofCapacity 8,
    health := [.ofCapacity 8, .ofCapacity 8] }

/-- The first event and the last arrive, each in the cluster of its node, and
the poller is up for its next tick. -/
theorem arrived_of_brokenPoll :
    let p : Poller := ⟨0, "10.0.0.1:2375", .polling 0 1000 brokenPoll⟩
    let f' := (edgeAndProd.act (idle 0) 0 "n1" p ()).1
    p.phase = .polling 0 1000
        ⟨brokenPoll.events, .error (.node "connection reset"), []⟩
      ∧ ∃ r, edgeAndProd.storage.at? 0 = some r ∧ r.poller = some p
        ∧ Arrived edgeAndProd 0 r p 1000 brokenPoll.events f'
        ∧ f'.logs.kept.reverse.map
              (fun event => (event.action, event.node, event.cluster))
            = [("connect", "n2", some "prod"),
              ("pull", "n1", some "edge")] := by
  intro p f'
  obtain ⟨harrived, -⟩ :=
    poll_arrives (f := edgeAndProd) (i := 0) (p := p) (idle 0) () rfl rfl rfl
  exact ⟨rfl, _, rfl, rfl, harrived, rfl⟩

end Fleet

end Fleetkeeper
