/-
The health channel of a node is a record of its health: what is published is
owed, what is owed is published, and the last message is what the next
snapshot says.

# Health by value

A load can be the same in two forms, zero having a sign. `Metrics.value` drops
it, so that reports say the same where they have one value
(`Metrics.beq_iff_value`). An edit that only turns the sign around owes no
message, and then the last message and the health have one value but not one
form; so that is all that can be said of them.

# What carries it

Every request leaves the health alone or publishes what it leaves
(`Telling.health_value`), an edit that breaks off excepted. Such an edit owes
a message like any other and publishes none, so that the laws are about runs
in which those leave the health alone (`Request.Keeps`).
-/
import Fleetkeeper.Proofs.Node.Telling

namespace Fleetkeeper

-- ======================================================== health by value

/-- The form that all numbers of one value share: zero has no sign. -/
def Binary64.value (x : Binary64) : Binary64 :=
  if x.units = 0 then ⟨false, 0⟩ else x

theorem Binary64.beq_iff_value {x y : Binary64} :
    (x == y) = true ↔ x.value = y.value := by
  rw [same_iff]
  obtain ⟨xn, xu⟩ := x
  obtain ⟨yn, yu⟩ := y
  unfold value
  dsimp only
  by_cases hx : xu = 0 <;> by_cases hy : yu = 0 <;> grind

/-- A report with its load in the form that all loads of that value share. -/
def Metrics.value (m : Metrics) : Metrics :=
  { m with cpuLoad := m.cpuLoad.map Binary64.value }

theorem Metrics.sameLoad_iff_value {x y : Option Binary64} :
    sameLoad x y = true ↔ x.map Binary64.value = y.map Binary64.value := by
  cases x <;> cases y <;> simp [sameLoad, Binary64.beq_iff_value]

theorem Metrics.beq_iff_value {a b : Metrics} :
    (a == b) = true ↔ a.value = b.value := by
  show Metrics.same a b = true ↔ _
  unfold Metrics.same Metrics.value
  rw [Bool.and_eq_true, sameLoad_iff_value, decide_eq_true_iff]
  simp only [Metrics.mk.injEq]
  tauto

theorem Metrics.bne_iff_value {a b : Metrics} :
    (a != b) = true ↔ a.value ≠ b.value := by
  unfold bne
  rw [Bool.not_eq_true', ← Bool.not_eq_true, beq_iff_value]

namespace Registration

variable {env : Services} {r s : Registration} {q : Request}
  {events : List LifecycleEvent} {messages : List HealthEvent}

/-- The messages that a turn owes the channel of a node: what a report came to,
if it was granted, and the health that a granted edit left, if that has another
value than before. Both with the cluster that the node has behind the turn. -/
def Turn.owed (name : String) (t : Turn) : List HealthEvent :=
  match t.request with
  | .updateHealth caller report =>
    match (t.before.updateHealth t.env caller report).result with
    | .ok merged => [⟨name, t.after.cluster, merged⟩]
    | .error _ => []
  | .mutate caller edit | .breakOff caller edit =>
    let health := (edit (t.before.shown t.env.now)).health
    if t.before.checkUpdate t.env caller = .ok ()
        ∧ health.value ≠ t.before.draft.health.value then
      [⟨name, t.after.cluster, health⟩]
    else []
  | .heartbeat _ | .snapshot | .setCluster _ | .bind _ | .teardown => []

/-- The health that a listener knows after some messages: that of the last, or
the description's where there was none. -/
def lastPublished (info : NodeInfo) (messages : List HealthEvent) : Metrics :=
  (messages.getLast?.map (·.metrics)).getD info.health

-- ========================================================= of each request

theorem updateHealth_result {caller : Caller} (report : Metrics)
    (hgranted : r.checkUpdate env caller = .ok ()) :
    (r.updateHealth env caller report).result
      = .ok (r.draft.health.merge report) := by
  unfold updateHealth
  rw [hgranted]

/-- A turn publishes what it owes, if an edit that breaks off in it leaves the
health alone. -/
theorem Telling.owed {t : Turn} {name : String} (hname : t.before.name = name)
    (h : Telling t.env t.before t.after t.request events messages)
    (hkeeps : t.request.Keeps (·.health.value)) : messages = t.owed name := by
  generalize hq : t.request = q at h hkeeps
  unfold Turn.owed
  rw [hq]
  cases h with
  | looked | moved | bound => rfl
  | idle hidle =>
    cases q with
    | heartbeat | snapshot | setCluster | bind | teardown => rfl
    | updateHealth caller report =>
      dsimp only
      cases hcheck : t.before.checkUpdate t.env caller with
      | ok => exact absurd hcheck hidle
      | error e => rw [updateHealth_denied report hcheck]
    | mutate | breakOff => exact (if_neg fun h => hidle h.1).symm
  | @reported caller report hgranted hdraft =>
    dsimp only
    rw [updateHealth_result report hgranted, hdraft, hname, cluster, hdraft]
    rfl
  | @edited caller edit hgranted hdraft =>
    have hhealth : (edit (t.before.shown t.env.now)).health
        = t.after.draft.health := by
      rw [hdraft]
      rfl
    simp only [hhealth, hgranted, hname, true_and, Metrics.bne_iff_value]
    rfl
  | brokenOff => exact (if_neg fun h => h.2 (hkeeps _)).symm

/-- The snapshot at hand, if there is one, has the health of the draft, by
value. -/
def HealthFresh (r : Registration) : Prop :=
  ∀ c, r.cache = some c → c.health.value = r.draft.health.value

theorem HealthFresh.seen (h : r.HealthFresh) (now : Instant) :
    (r.seen now).health.value = r.draft.health.value := by
  have hshows : r.Shows fun info => info.health.value := h
  exact hshows.seen now

/-- Every request keeps that, unless an edit breaks off and touches the
health. -/
theorem Telling.healthFresh (h : Telling env r s q events messages)
    (hkeeps : q.Keeps (·.health.value)) (hname : s.name = r.name)
    (hfresh : r.HealthFresh) :
    s.HealthFresh := by
  have hshows : s.Shows fun info => info.health.value := by
    refine h.shows (fun caller edit hq => ?_) hname hfresh
    rw [hq] at hkeeps
    exact hkeeps
  exact hshows

/-- Every request publishes the health that it leaves, or leaves the health as
it was, by value. -/
theorem Telling.health_value (h : Telling env r s q events messages)
    (hkeeps : q.Keeps (·.health.value)) :
    (∃ m, messages = [m] ∧ m.metrics = s.draft.health)
      ∨ (messages = [] ∧ s.draft.health.value = r.draft.health.value) := by
  cases h with
  | idle _ hdraft | looked hdraft | moved _ hdraft | bound hdraft =>
    right
    rw [hdraft]
    exact ⟨rfl, rfl⟩
  | reported => exact .inl ⟨_, rfl, rfl⟩
  | edited =>
    split
    case isTrue => exact .inl ⟨_, rfl, rfl⟩
    case isFalse hsame =>
      exact .inr ⟨rfl, not_not.1 (mt Metrics.bne_iff_value.2 hsame)⟩
  | brokenOff _ hdraft =>
    right
    rw [hdraft]
    exact ⟨rfl, hkeeps _⟩

-- ============================================================== of all runs

/-- A listener knows the health of a registration, and has been sent what the
past owed. -/
structure Heard (info : NodeInfo) (past : List Turn) (r : Registration) :
    Prop where
  name : r.name = info.name
  fresh : r.HealthFresh
  owed : past.flatMap Turn.messages = past.flatMap (Turn.owed info.name)
  last : (lastPublished info (past.flatMap Turn.messages)).value
    = r.draft.health.value

/-- A turn that owes a message publishes it, and one that owes none leaves the
health by value. -/
theorem heard_turn {info : NodeInfo} {past : List Turn} (t : Turn)
    (hkeeps : t.request.Keeps (·.health.value))
    (h : Heard info past t.before) :
    Heard info (past ++ [t]) t.after := by
  have htelling := telling_of_turn t
  refine ⟨(perform_name ..).trans h.name,
    htelling.healthFresh hkeeps (perform_name ..) h.fresh, ?_, ?_⟩
  · rw [List.flatMap_append, List.flatMap_append, h.owed,
      List.flatMap_singleton, List.flatMap_singleton,
      htelling.owed h.name hkeeps]
  · rw [List.flatMap_append, List.flatMap_singleton]
    rcases htelling.health_value hkeeps with ⟨m, hone, hmetrics⟩
      | ⟨hnone, hsame⟩
    · rw [hone, lastPublished, List.getLast?_concat, ← hmetrics]
      rfl
    · rw [hnone, List.append_nil, h.last, hsame]

theorem heard_ofInfo (info : NodeInfo) : Heard info [] (ofInfo info) where
  name := rfl
  fresh := by
    intro c hc
    cases hc
  owed := rfl
  last := rfl

theorem heard_performAll (info : NodeInfo) {run : Run}
    (hkeeps : ∀ x ∈ run, x.2.Keeps (·.health.value)) :
    Heard info (turns run (ofInfo info))
      (performAll run (ofInfo info)).state :=
  turns_of_turn (P := Heard info) (fun _ q => q.Keeps (·.health.value))
    (fun t hq h => heard_turn t hq h) run hkeeps (heard_ofInfo info)

/-- As long as edits that break off leave the health alone, the messages
published are those that the turns owe, in order; and the health that the next
snapshot says is that of the last message, or the description's where there was
none, by value. -/
theorem health_published (info : NodeInfo) (run : Run)
    (hkeeps : ∀ x ∈ run, x.2.Keeps (·.health.value)) :
    let r := (performAll run (ofInfo info)).state
    let published := healthOf (performAll run (ofInfo info)).effects
    published = (turns run (ofInfo info)).flatMap (Turn.owed info.name)
      ∧ ∀ env, (r.snapshot env).result.health.value
          = (lastPublished info published).value := by
  intro r published
  have hheard : Heard info (turns run (ofInfo info)) r :=
    heard_performAll info hkeeps
  have hpublished :
      published = (turns run (ofInfo info)).flatMap Turn.messages :=
    healthOf_performAll run _
  rw [hpublished]
  exact ⟨hheard.owed,
    fun env => (hheard.fresh.seen env.now).trans hheard.last.symm⟩

/-- A node of which its memory is reported, then an edit moves it and gives it
an address that is refused, then somebody labels it and breaks off. -/
def reportedAndRefused : Run :=
  [(surroundingsAt 0, .updateHealth .system { memTotal := some 8 }),
   ({ surroundingsAt 1 with
        makeClient := fun _ _ => .error (.node "refused") },
    .mutate .system fun d =>
      { d with cluster := some "prod", address := some "10.0.0.1:2375",
               health := { d.health with healthy := some true } }),
   (surroundingsAt 2, .breakOff .system (·.label "zone" "a"))]

/-- Two messages are owed and published, the second with the cluster that its
edit led to, and the next snapshot has the health that it says. -/
theorem published_of_reportedAndRefused :
    let r := (performAll reportedAndRefused (ofInfo (.bare "n1"))).state
    let published :=
      healthOf (performAll reportedAndRefused (ofInfo (.bare "n1"))).effects
    (∀ x ∈ reportedAndRefused, x.2.Keeps (·.health.value))
      ∧ published
          = (turns reportedAndRefused (ofInfo (.bare "n1"))).flatMap
            (Turn.owed "n1")
      ∧ published
          = [⟨"n1", none, { memTotal := some 8 }⟩,
             ⟨"n1", some "prod", { memTotal := some 8, healthy := some true }⟩]
      ∧ (r.snapshot (surroundingsAt 3)).result.health.value
          = { memTotal := some 8, healthy := some true } := by
  intro r published
  have hkeeps : ∀ x ∈ reportedAndRefused, x.2.Keeps (·.health.value) := by
    simp [reportedAndRefused, Request.Keeps, Draft.label]
  obtain ⟨howed, hsnapshot⟩ :=
    health_published (.bare "n1") reportedAndRefused hkeeps
  exact ⟨hkeeps, howed, rfl, hsnapshot (surroundingsAt 3)⟩

/-- An edit that turns a node healthy and breaks off owes a message that it
does not publish. The snapshot with which the node comes online is built anew,
and so it says what nobody was sent. -/
theorem breakOff_unpublished :
    let run : Run :=
      [(surroundingsAt 0,
        .breakOff .system (·.setHealth { healthy := some true })),
       (surroundingsAt 0, .heartbeat 10)]
    let r := (performAll run (ofInfo (.bare "n1"))).state
    let published := healthOf (performAll run (ofInfo (.bare "n1"))).effects
    published = []
      ∧ (turns run (ofInfo (.bare "n1"))).flatMap (Turn.owed "n1")
          = [⟨"n1", none, { healthy := some true }⟩]
      ∧ (r.snapshot (surroundingsAt 0)).result.health.value
          = { healthy := some true }
      ∧ (r.snapshot (surroundingsAt 0)).result.health.value
          ≠ (lastPublished (.bare "n1") published).value := by
  refine ⟨rfl, ?_, rfl, ?_⟩
  · rfl
  · decide

end Registration

end Fleetkeeper
