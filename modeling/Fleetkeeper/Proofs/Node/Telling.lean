/-
What a request tells others, and what it does meanwhile to the draft and to
the snapshot at hand. All laws about lifecycle events and health messages are
read off `Telling`, which has one case for each way in which a request can go;
only `telling_of_perform` looks at the operations.

A change of liveness is told in three places, each time in the same form
(`turned`): where the flag was one thing and is found to be another. They
differ in the snapshot that they give as the one before. A plain look has the
snapshot at hand; an edit has it for its first look and none for its second;
a move to another cluster has none, having dropped it to begin with.
-/
import Fleetkeeper.Proofs.Node.Steps
import Fleetkeeper.Proofs.Node.Turns

namespace Fleetkeeper.Registration

variable {env : Services} {r s : Registration} {caller : Caller}

-- ============================================== what a look has to tell

/-- The snapshot that a look gives. -/
def seen (now : Instant) (r : Registration) : NodeInfo := (r.refresh now).2.1

/-- The change of liveness where the flag `was` so and is found `on`. -/
def turned (name : String) (was on : Bool) (old : Option NodeInfo)
    (current : NodeInfo) : List LifecycleEvent :=
  if was = on then [] else [⟨name, .ofFlag on, old, current⟩]

/-- The change of the snapshot that an edit tells. -/
def updated (name : String) (old current : NodeInfo) : List LifecycleEvent :=
  if old == current then [] else [⟨name, .update, some old, current⟩]

theorem mem_turned {name : String} {was on : Bool} {old : Option NodeInfo}
    {current : NodeInfo} {e : LifecycleEvent} :
    e ∈ turned name was on old current
      ↔ was ≠ on ∧ e = ⟨name, .ofFlag on, old, current⟩ := by
  unfold turned
  split <;> simp_all

theorem mem_updated {name : String} {old current : NodeInfo}
    {e : LifecycleEvent} :
    e ∈ updated name old current
      ↔ (old == current) = false ∧ e = ⟨name, .update, some old, current⟩ := by
  unfold updated
  split <;> simp_all

theorem turned_eq_nil {name : String} {was on : Bool} {old : Option NodeInfo}
    {current : NodeInfo} : turned name was on old current = [] ↔ was = on := by
  unfold turned
  split <;> simp_all

theorem updated_eq_nil {name : String} {old current : NodeInfo} :
    updated name old current = [] ↔ (old == current) = true := by
  unfold updated
  split <;> simp_all

theorem transition?_iff {now : Instant} :
    r.transition? now = true ↔ r.draft.on ≠ r.isOn now :=
  bne_iff_ne.trans ne_comm

/-- A look tells the change that it sees, with the snapshot at hand as the
one before. -/
theorem refresh_event (now : Instant) (r : Registration) :
    (r.refresh now).2.2.toList
      = turned r.name r.draft.on (r.isOn now) r.cache (r.seen now) := by
  unfold seen turned refresh
  dsimp only
  split
  case isTrue hturn =>
    rw [if_neg (transition?_iff.1 hturn)]
    rfl
  case isFalse hsame =>
    rw [if_pos (not_not.1 (mt transition?_iff.2 hsame))]
    cases r.cache <;> rfl

/-- A snapshot that shows a change is built anew. -/
theorem seen_of_turn {now : Instant} (hturn : r.draft.on ≠ r.isOn now) :
    r.seen now = (r.shown now).build r.name := by
  unfold seen refresh
  dsimp only
  rw [if_pos (transition?_iff.2 hturn)]
  rfl

theorem seen_of_fresh (now : Instant) (hfresh : r.Fresh) :
    r.seen now = (r.shown now).build r.name :=
  refresh_info now hfresh

/-- A look gives the snapshot at hand, or what the draft gives. -/
theorem seen_cases (now : Instant) (r : Registration) :
    r.cache = some (r.seen now) ∨ r.seen now = (r.shown now).build r.name := by
  by_cases hsame : r.draft.on = r.isOn now
  · cases hcache : r.cache with
    | none => exact .inr (seen_of_fresh now (fresh_of_cache hcache))
    | some c =>
      left
      unfold seen refresh
      dsimp only
      rw [if_neg (mt transition?_iff.1 (not_not.2 hsame)), hcache]
  · exact .inr (seen_of_turn hsame)

theorem lifecycleOf_tell (event : Option LifecycleEvent) :
    lifecycleOf (tell event) = event.toList := by
  cases event <;> rfl

theorem healthOf_tell (event : Option LifecycleEvent) :
    healthOf (tell event) = [] := by
  cases event <;> rfl

-- ================================================ what wiring has to tell

/-- Effects that are nobody's message: they wire, or go to the journal. -/
def Unspoken (told : List Effect) : Prop :=
  lifecycleOf told = [] ∧ healthOf told = []

theorem unspoken_stopped (r : Registration) : Unspoken r.stopped := by
  unfold stopped
  cases r.poller <;> exact ⟨rfl, rfl⟩

theorem Unspoken.append {told more : List Effect} (h : Unspoken told)
    (hmore : Unspoken more) : Unspoken (told ++ more) := by
  refine ⟨?_, ?_⟩
  · rw [lifecycleOf_append, h.1, hmore.1]
    rfl
  · rw [healthOf_append, h.2, hmore.2]
    rfl

theorem unspoken_journal (lines : List LogLine) :
    Unspoken (lines.map Effect.journal) := by
  induction lines with
  | nil => exact ⟨rfl, rfl⟩
  | cons l rest ih => exact ⟨ih.1, ih.2⟩

theorem unspoken_of_binding {address : String}
    {step : Step (Except Fault Client)} (h : Binding env address r step) :
    Unspoken step.effects := by
  cases h with
  | kept | shut => exact ⟨rfl, rfl⟩
  | refused | stranded | made => exact (unspoken_stopped r).append ⟨rfl, rfl⟩

theorem unspoken_of_rebinding {step : Step (Except Fault Unit)}
    (h : Rebinding env r step) : Unspoken step.effects := by
  cases h with
  | shut => exact ⟨rfl, rfl⟩
  | bound _ _ hbinding => exact unspoken_of_binding hbinding
  | unbound => exact (unspoken_stopped r).append (unspoken_journal _)

-- ================================================ what edits have to tell

/-- The draft that an edit leaves: the online flag is what the second look
finds. -/
def editedDraft (env : Services) (edit : Draft → Draft) (r : Registration) :
    Draft :=
  { edit (r.shown env.now) with on := r.isOn env.later }

/-- The second look of an edit is behind the binding and finds no snapshot. The
binding changes neither name nor draft, so what it sees is the edited draft. -/
theorem refresh_rebound (env : Services) (edit : Draft → Draft)
    (r : Registration) :
    let second := ((r.edited env.now edit).rebind env).state.refresh env.later
    let current := (r.editedDraft env edit).build r.name
    second.1.name = r.name ∧ second.1.draft = r.editedDraft env edit
      ∧ second.2.1 = current
      ∧ second.2.2.toList
          = turned r.name (r.isOn env.now)
            (r.isOn env.later) none current := by
  dsimp only
  -- Rebinding may have written client and poller; the snapshot at hand is
  -- still gone, so the second look builds one.
  obtain ⟨client, poller, hrebind⟩ := rebind_state env (r.edited env.now edit)
  have hseen := seen_of_fresh
    (r := { r.edited env.now edit with client, poller }) env.later
      (fresh_of_cache rfl)
  rw [hrebind, refresh_event, hseen]
  refine ⟨?_, ?_, hseen, rfl⟩
  · rw [refresh_state]
    rfl
  · rw [refresh_state]
    rfl

/-- An edit tells the changes that its two looks see, and behind them that the
snapshot has changed, if it has. -/
theorem lifecycleOf_notices (env : Services) (edit : Draft → Draft)
    (r : Registration) :
    lifecycleOf (r.notices env edit)
      = turned r.name r.draft.on (r.isOn env.now) r.cache (r.seen env.now)
        ++ turned r.name (r.isOn env.now) (r.isOn env.later) none
            ((r.editedDraft env edit).build r.name)
        ++ updated r.name (r.seen env.now)
          ((r.editedDraft env edit).build r.name) := by
  obtain ⟨hname, -, hcurrent, hturned⟩ := refresh_rebound env edit r
  unfold notices
  dsimp only
  rw [lifecycleOf_append, lifecycleOf_append, lifecycleOf_append,
    lifecycleOf_tell, lifecycleOf_tell, refresh_event, hturned,
    hname, hcurrent]
  have hhealth (b : Bool) (m : HealthEvent) :
      lifecycleOf (if b then [.health m] else []) = [] := by
    cases b <;> rfl
  rw [hhealth, List.append_nil]
  unfold updated seen
  split <;> rfl

/-- An edit publishes the health that it led to, if that is another one. -/
theorem healthOf_notices (env : Services) (edit : Draft → Draft)
    (r : Registration) :
    healthOf (r.notices env edit)
      = if (edit (r.shown env.now)).health != r.draft.health then
          [⟨r.name, (edit (r.shown env.now)).cluster,
            (edit (r.shown env.now)).health⟩]
        else [] := by
  obtain ⟨hname, hdraft, -, -⟩ := refresh_rebound env edit r
  unfold notices
  dsimp only
  rw [healthOf_append, healthOf_append, healthOf_append, healthOf_tell,
    healthOf_tell, cluster, hname, hdraft]
  have hupdate (b : Bool) (name : String) (old : Option NodeInfo)
    (current : NodeInfo) :
      healthOf (if b then [] else [updateEvent name old current]) = [] := by
    cases b <;> rfl
  rw [hupdate, List.nil_append, List.nil_append, List.nil_append]
  split <;> rfl

-- ============================================================ all requests

/-- Whether a request leaves the description of the node alone: it is denied,
or has nothing to do with it, or asks for what is there already. -/
def Request.Idle (env : Services) (r : Registration) : Request → Prop
  | heartbeat _ | teardown => True
  | snapshot | bind _ => False
  | updateHealth caller _ | mutate caller _ | breakOff caller _ =>
    r.checkUpdate env caller ≠ .ok ()
  | setCluster cluster => r.draft.cluster = cluster

/-- What a request leaves of draft and snapshot, the lifecycle events it tells
and the health messages it publishes. -/
inductive Telling (env : Services) (r s : Registration) :
    Request → List LifecycleEvent → List HealthEvent → Prop where
  | idle {q : Request} (hidle : q.Idle env r) (hdraft : s.draft = r.draft)
      (hcache : s.cache = r.cache) : Telling env r s q [] []
  | looked (hdraft : s.draft = r.shown env.now)
      (hcache : s.cache = some (r.seen env.now)) :
      Telling env r s .snapshot
        (turned r.name r.draft.on (r.isOn env.now) r.cache (r.seen env.now)) []
  | reported {caller : Caller} {report : Metrics}
      (hgranted : r.checkUpdate env caller = .ok ())
      (hdraft : s.draft = r.draft.setHealth (r.draft.health.merge report))
      (hcache : s.cache = none) :
      Telling env r s (.updateHealth caller report) []
        [⟨r.name, s.draft.cluster, s.draft.health⟩]
  | edited {caller : Caller} {edit : Draft → Draft}
      (hgranted : r.checkUpdate env caller = .ok ())
      (hdraft : s.draft = r.editedDraft env edit)
      (hcache : s.cache = some (s.draft.build r.name)) :
      Telling env r s (.mutate caller edit)
        (turned r.name r.draft.on (r.isOn env.now) r.cache (r.seen env.now)
          ++ turned r.name (r.isOn env.now) (r.isOn env.later) none
              (s.draft.build r.name)
          ++ updated r.name (r.seen env.now) (s.draft.build r.name))
        (if s.draft.health != r.draft.health then
          [⟨r.name, s.draft.cluster, s.draft.health⟩]
        else [])
  | brokenOff {caller : Caller} {edit : Draft → Draft}
      (hgranted : r.checkUpdate env caller = .ok ())
      (hdraft : s.draft = edit (r.shown env.now))
      (hcache : s.cache = some (r.seen env.now)) :
      Telling env r s (.breakOff caller edit) [] []
  | moved {cluster : Option String} (hmoved : r.draft.cluster ≠ cluster)
      (hdraft : s.draft = { r.draft with cluster, on := r.isOn env.now })
      (hcache : s.cache = some (s.draft.build r.name)) :
      Telling env r s (.setCluster cluster)
        (turned r.name r.draft.on (r.isOn env.now) none (s.draft.build r.name)
          ++ [⟨r.name, .update, r.cache, s.draft.build r.name⟩]) []
  | bound {address : String}
      (hdraft : s.draft = { r.draft with address := some address })
      (hcache : s.cache
        = if r.draft.address = some address then r.cache else none) :
      Telling env r s (.bind address) [] []

/-- What an edit tells is that of its two looks, whatever comes of its
binding. -/
theorem telling_of_mutate (edit : Draft → Draft)
    (hgranted : r.checkUpdate env caller = .ok ()) :
    Telling env r (r.mutate env caller edit).state (.mutate caller edit)
      (lifecycleOf (r.mutate env caller edit).effects)
      (healthOf (r.mutate env caller edit).effects) := by
  obtain ⟨client, poller, hstate⟩ := mutate_state edit hgranted
  have hunspoken : Unspoken ((r.edited env.now edit).rebind env).effects :=
    unspoken_of_rebinding (rebinding_of_rebind _ _)
  have hlifecycle : lifecycleOf (r.mutate env caller edit).effects
      = lifecycleOf (r.notices env edit) := by
    rw [mutate_eq edit hgranted, lifecycleOf_append, hunspoken.1]
    rfl
  have hhealth : healthOf (r.mutate env caller edit).effects
      = healthOf (r.notices env edit) := by
    rw [mutate_eq edit hgranted, healthOf_append, hunspoken.2]
    rfl
  rw [hlifecycle, hhealth, lifecycleOf_notices, healthOf_notices, hstate]
  exact .edited hgranted rfl rfl

/-- A move to another cluster tells what its look found and one update, with
what was at hand as the old state. -/
theorem telling_of_setCluster {cluster : Option String}
    (hmoved : r.draft.cluster ≠ cluster) :
    Telling env r (r.setCluster env cluster).state (.setCluster cluster)
      (lifecycleOf (r.setCluster env cluster).effects)
      (healthOf (r.setCluster env cluster).effects) := by
  have heffects : (r.setCluster env cluster).effects
      = tell
        ({ r with draft := r.draft.setCluster cluster, cache := none }.refresh
            env.now).2.2
        ++ [updateEvent r.name r.cache
            ({ r.draft with cluster, on := r.isOn env.now }.build
              r.name)] := by
    unfold setCluster
    rw [if_neg hmoved]
    dsimp only
    rw [refresh_state, refresh_info env.now (fresh_of_cache rfl)]
    rfl
  rw [setCluster_state hmoved, heffects, lifecycleOf_append, healthOf_append,
    lifecycleOf_tell, healthOf_tell, refresh_event,
    seen_of_fresh env.now (fresh_of_cache rfl)]
  exact .moved hmoved rfl rfl

/-- Every request tells what one of the cases says. -/
theorem telling_of_perform (env : Services) (q : Request) (r : Registration) :
    Telling env r (q.perform env r).state q
      (lifecycleOf (q.perform env r).effects)
      (healthOf (q.perform env r).effects) := by
  -- What is denied is denied in the same way by all, and is dealt with first.
  by_cases hdenied :
      ∃ caller, q.caller? = some caller ∧ r.checkUpdate env caller ≠ .ok ()
  · obtain ⟨caller, hcaller, hdenied⟩ := hdenied
    cases hcheck : r.checkUpdate env caller with
    | ok => exact absurd hcheck hdenied
    | error e =>
      rw [(Request.denied hcaller hcheck).1]
      refine .idle ?_ rfl rfl
      cases q with
      | updateHealth | mutate | breakOff =>
        cases hcaller
        exact hdenied
      | heartbeat | snapshot | setCluster | bind | teardown => cases hcaller
  have hcheck : ∀ caller, q.caller? = some caller →
      r.checkUpdate env caller = .ok () := by
    simpa using hdenied
  cases q with
  | heartbeat secs =>
    obtain ⟨⟨lease, ttl, hstate⟩, heffects⟩ := heartbeat_eq env secs.toNat r
    rw [Request.perform, Step.discard_state, Step.discard_effects,
      hstate, heffects]
    exact .idle trivial rfl rfl
  | snapshot =>
    show Telling env r (r.refresh env.now).1 .snapshot
      (lifecycleOf (tell (r.refresh env.now).2.2))
      (healthOf (tell (r.refresh env.now).2.2))
    rw [lifecycleOf_tell, healthOf_tell, refresh_event, refresh_state]
    exact .looked rfl rfl
  | updateHealth caller report =>
    have hgranted := hcheck caller rfl
    show Telling env r (r.updateHealth env caller report).state _
      (lifecycleOf (r.updateHealth env caller report).effects)
      (healthOf (r.updateHealth env caller report).effects)
    unfold updateHealth
    rw [hgranted]
    exact .reported hgranted rfl rfl
  | mutate caller edit => exact telling_of_mutate edit (hcheck caller rfl)
  | breakOff caller edit =>
    have hgranted := hcheck caller rfl
    have hquiet : (r.breakOff env caller edit).effects = [] := by
      unfold breakOff
      rw [hgranted]
    show Telling env r (r.breakOff env caller edit).state _
      (lifecycleOf (r.breakOff env caller edit).effects)
      (healthOf (r.breakOff env caller edit).effects)
    rw [breakOff_state edit hgranted, hquiet]
    exact .brokenOff hgranted rfl rfl
  | setCluster cluster =>
    by_cases hsame : r.draft.cluster = cluster
    · show Telling env r (r.setCluster env cluster).state _
        (lifecycleOf (r.setCluster env cluster).effects)
        (healthOf (r.setCluster env cluster).effects)
      unfold setCluster
      rw [if_pos hsame]
      exact .idle hsame rfl rfl
    · exact telling_of_setCluster hsame
  | bind address =>
    have hbinding := binding_of_bind env address r
    obtain ⟨client, poller, hstate⟩ := hbinding.state_eq
    obtain ⟨hlifecycle, hhealth⟩ := unspoken_of_binding hbinding
    show Telling env r (r.bind env address).state _
      (lifecycleOf (r.bind env address).effects)
      (healthOf (r.bind env address).effects)
    rw [hlifecycle, hhealth, hstate]
    exact .bound rfl rfl
  | teardown =>
    show Telling env r r.teardown.state _ (lifecycleOf r.teardown.effects)
      (healthOf r.teardown.effects)
    rw [teardown_eq, (unspoken_stopped r).1, (unspoken_stopped r).2]
    exact .idle trivial rfl rfl

theorem telling_of_turn (t : Turn) :
    Telling t.env t.before t.after t.request t.events t.messages :=
  telling_of_perform t.env t.request t.before

-- =============================================== snapshots that are current

section

variable {α : Type} {part : NodeInfo → α}

/-- The snapshot at hand, if there is one, shows this part of the node as the
draft has it. -/
def Shows (part : NodeInfo → α) (r : Registration) : Prop :=
  ∀ c, r.cache = some c → part c = part (r.draft.build r.name)

/-- So does the next snapshot. -/
theorem Shows.seen (h : r.Shows part) (now : Instant) :
    part (r.seen now) = part ((r.shown now).build r.name) := by
  by_cases hsame : r.draft.on = r.isOn now
  · rcases seen_cases now r with hcache | hseen
    · rw [h _ hcache]
      unfold shown
      rw [← hsame]
    · rw [hseen]
  · rw [seen_of_turn hsame]

/-- Every request keeps that, unless an edit breaks off and touches the
part. -/
theorem Telling.shows {q : Request} {events : List LifecycleEvent}
    {messages : List HealthEvent} (h : Telling env r s q events messages)
    (hbroken : ∀ caller edit, q = .breakOff caller edit →
      ∀ d : Draft, part ((edit d).build r.name) = part (d.build r.name))
    (hname : s.name = r.name) (hshows : r.Shows part) : s.Shows part := by
  intro c hc
  rw [hname]
  cases h with
  | idle _ hdraft hcache =>
    rw [hdraft]
    exact hshows c (hcache ▸ hc)
  | looked hdraft hcache =>
    rw [hcache] at hc
    cases hc
    rw [hdraft]
    exact hshows.seen env.now
  | reported _ _ hcache =>
    rw [hcache] at hc
    cases hc
  | edited _ _ hcache | moved _ _ hcache =>
    rw [hcache] at hc
    cases hc
    rfl
  | @brokenOff caller edit _ hdraft hcache =>
    rw [hcache] at hc
    cases hc
    -- The snapshot is older than the edit, which may have changed the rest.
    rw [hdraft, hshows.seen]
    exact (hbroken caller edit rfl _).symm
  | bound hdraft hcache =>
    rw [hcache] at hc
    split at hc
    case isTrue hsame =>
      rw [hdraft, ← hsame]
      exact hshows c hc
    case isFalse => cases hc

end

/-- Every request that returns leaves a snapshot, if any, that is what the
draft gives. -/
theorem Telling.fresh {q : Request} {events : List LifecycleEvent}
    {messages : List HealthEvent} (h : Telling env r s q events messages)
    (hreturns : q.returns = true) (hname : s.name = r.name)
    (hfresh : r.Fresh) :
    s.Fresh := by
  have hshows : s.Shows id := by
    refine h.shows (fun caller edit hq => ?_) hname hfresh
    rw [hq] at hreturns
    cases hreturns
  exact hshows

end Fleetkeeper.Registration
