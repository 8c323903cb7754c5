/-
An update is told just where the description of a node has changed.

# What is compared

An edit sees two snapshots, one before it and one behind it, and neither is
its own work: they are what anybody would have seen who asked right before
and right after. So the law is stated with those (`Edits`). It holds of every
edit, whatever it does to the online flag and whether or not the address that
it leaves can be bound. A move to another cluster compares the clusters
instead, and gives the snapshot at hand as the one before.

# What else is told

All other requests tell changes of liveness at most (`Telling.flips`), and so
do both of these besides their update (`Flips`). The clock stands still
meanwhile: an edit looks at it twice, and a lease that runs out between the two
looks would change the snapshot behind the edit's back.

# How far that goes

Two parts of the law are about the snapshot at hand: that an update by an edit
is none of the online flag, and that a move gives a snapshot of another
cluster. They need the snapshot to show that part of the node as the draft has
it (`Shows`), and every request sees to that but an edit that breaks off having
written it. What a move tells behind such an edit is shown behind the law.
-/
import Fleetkeeper.Proofs.Node.Lease
import Fleetkeeper.Proofs.Node.Recall

namespace Fleetkeeper.Registration

variable {env : Services} {r s : Registration} {caller : Caller}

-- ============================================================ vocabulary

/-- Changes of liveness, and nothing else. -/
def Flips (events : List LifecycleEvent) : Prop :=
  ∀ e ∈ events, ∃ on, e.action = .ofFlag on

/-- Whether a request may rewrite the description of the node and come to its
end. -/
def Request.rewrites : Request → Bool
  | mutate _ _ | setCluster _ => true
  | heartbeat _ | snapshot | updateHealth _ _ | breakOff _ _ | bind _
    | teardown => false

/-- What comes of an edit that is granted, when the clock stands still. -/
structure Edits (env : Services) (edit : Draft → Draft) (r : Registration)
    (s : Step (Except Fault Unit)) : Prop where
  /-- The edit stays, whatever comes of the binding, but for what it says about
  being online. -/
  draft : s.state.draft = { edit (r.shown env.now) with on := r.isOn env.now }
  /-- The next snapshot says so. -/
  current : (s.state.snapshot env).result = s.state.draft.build r.name
  /-- Behind changes of liveness an update is told if the snapshots differ. -/
  told : ∃ live, Flips live ∧ lifecycleOf s.effects
    = live ++ updated r.name (r.snapshot env).result
      (s.state.snapshot env).result
  /-- The only fault is that of binding the address that the edit left. -/
  result : ∀ e, s.result = .error e ↔ r.closed = false
    ∧ ∃ address, (edit (r.shown env.now)).address = some address
      ∧ ((r.edited env.now edit).bind env address).result = .error e

/-- What comes of a move to another cluster, or to the one that the node is
in. -/
structure Relocates (env : Services) (cluster : Option String)
    (r : Registration) (s : Step Unit) : Prop where
  idle : r.cluster = cluster → s = ⟨r, (), []⟩
  /-- Behind changes of liveness one update is told, with the new cluster and
  the snapshot at hand as the one before. -/
  told : r.cluster ≠ cluster → ∃ live, Flips live
    ∧ lifecycleOf s.effects
        = live ++ [⟨r.name, .update, r.cache, (s.state.snapshot env).result⟩]
    ∧ (s.state.snapshot env).result.cluster = cluster

-- ===================================================== changes of liveness

theorem flips_nil : Flips [] := by
  simp [Flips]

theorem flips_turned (name : String) (was on : Bool) (old : Option NodeInfo)
    (current : NodeInfo) : Flips (turned name was on old current) := by
  intro e he
  obtain ⟨-, rfl⟩ := mem_turned.1 he
  exact ⟨on, rfl⟩

/-- There is no update among changes of liveness. -/
theorem Flips.not_update {events : List LifecycleEvent} (h : Flips events)
    {e : LifecycleEvent} (he : e ∈ events) : e.action ≠ .update := by
  obtain ⟨on, hon⟩ := h e he
  rw [hon]
  exact ofFlag_ne_update on

/-- A request that does not rewrite the description tells changes of liveness
at most. -/
theorem Telling.flips {q : Request} {events : List LifecycleEvent}
    {messages : List HealthEvent} (h : Telling env r s q events messages)
    (hq : q.rewrites = false) : Flips events := by
  cases h with
  | idle | reported | brokenOff | bound => exact flips_nil
  | looked => exact flips_turned _ _ _ _ _
  | edited | moved => cases hq

-- ================================================================= edits

/-- A snapshot at hand is given again, unless the flag has changed. -/
theorem snapshot_at_hand {info : NodeInfo} (hcache : r.cache = some info)
    (hsame : r.draft.on = r.isOn env.now) :
    (r.snapshot env).result = info := by
  show r.seen env.now = info
  unfold seen refresh
  dsimp only
  rw [if_neg (mt transition?_iff.1 (not_not.2 hsame)), hcache]

/-- Binding after an edit fails where there is an address, and it fails. -/
theorem rebind_error_iff {e : Fault} :
    (r.rebind env).result = .error e ↔ r.closed = false
      ∧ ∃ address, r.draft.address = some address
        ∧ (r.bind env address).result = .error e := by
  unfold rebind
  cases haddress : r.draft.address with
  | none => simp
  | some address =>
    by_cases hclosed : r.closed = true
    · simp [hclosed]
    · cases hbind : (r.bind env address).result <;>
        simp [hclosed, hbind, Except.map]

/-- The snapshot that an edit has taken is the one that is asked for next,
while the clock stands still. -/
theorem mutate_snapshot (edit : Draft → Draft)
    (hgranted : r.checkUpdate env caller = .ok ())
    (hstill : env.later = env.now) :
    ((r.mutate env caller edit).state.snapshot env).result
      = (r.mutate env caller edit).state.draft.build r.name := by
  obtain ⟨client, poller, hstate⟩ := mutate_state edit hgranted
  rw [hstate, hstill]
  exact snapshot_at_hand rfl rfl

/-- The events of an edit: its first look and its second, and the update. -/
theorem mutate_events (edit : Draft → Draft)
    (hgranted : r.checkUpdate env caller = .ok ())
    (hstill : env.later = env.now) :
    lifecycleOf (r.mutate env caller edit).effects
      = turned r.name r.draft.on (r.isOn env.now) r.cache (r.seen env.now)
        ++ updated r.name (r.snapshot env).result
            ((r.mutate env caller edit).state.snapshot env).result := by
  have htelling := telling_of_mutate edit hgranted
  rw [mutate_snapshot edit hgranted hstill]
  generalize lifecycleOf (r.mutate env caller edit).effects
    = events at htelling ⊢
  generalize healthOf (r.mutate env caller edit).effects = messages at htelling
  cases htelling with
  | idle hidle => exact absurd hgranted hidle
  | edited =>
    -- The clock stands still, so the second look sees no change.
    rw [hstill, turned_eq_nil.2 rfl, List.append_nil]
    rfl

/-- An edit at a clock that stands still tells one update, behind the changes
of liveness, if its snapshots differ. -/
theorem edits_of_mutate (edit : Draft → Draft)
    (hgranted : r.checkUpdate env caller = .ok ())
    (hstill : env.later = env.now) :
    Edits env edit r (r.mutate env caller edit) := by
  refine ⟨?_, mutate_snapshot edit hgranted hstill, ?_, ?_⟩
  · obtain ⟨client, poller, hstate⟩ := mutate_state edit hgranted
    rw [hstate, hstill]
  · exact ⟨_, flips_turned _ _ _ _ _, mutate_events edit hgranted hstill⟩
  · intro e
    rw [mutate_eq edit hgranted]
    exact rebind_error_iff

/-- An update by an edit is none of the online flag, where the snapshot at hand
shows the flag as it is. -/
theorem Edits.same_on {edit : Draft → Draft} {s : Step (Except Fault Unit)}
    (h : Edits env edit r s) (hshows : r.Shows NodeInfo.on)
    {e : LifecycleEvent} (he : e ∈ lifecycleOf s.effects)
    (hupdate : e.action = .update) :
    e.old.map NodeInfo.on = some e.current.on := by
  obtain ⟨live, hlive, htold⟩ := h.told
  rw [htold] at he
  rcases List.mem_append.1 he with he | he
  · exact absurd hupdate (hlive.not_update he)
  · obtain ⟨-, rfl⟩ := mem_updated.1 he
    have hcurrent : (s.state.snapshot env).result.on = r.isOn env.now := by
      rw [h.current, h.draft]
      rfl
    show some _ = some _
    rw [hshows.snapshot_on, hcurrent]

-- ================================================================= moves

/-- A move to the same cluster does nothing; one to another tells an update in
any case. -/
theorem relocates_of_setCluster (env : Services) (cluster : Option String)
    (r : Registration) :
    Relocates env cluster r (r.setCluster env cluster) := by
  refine ⟨?_, ?_⟩
  · intro hsame
    unfold setCluster
    exact if_pos hsame
  · intro hmoved
    have hsnapshot : ((r.setCluster env cluster).state.snapshot env).result
        = (r.setCluster env cluster).state.draft.build r.name := by
      rw [setCluster_state hmoved]
      exact snapshot_at_hand rfl rfl
    have hcluster : (r.setCluster env cluster).state.draft.cluster
        = cluster := by
      rw [setCluster_state hmoved]
    have htelling : Telling env r (r.setCluster env cluster).state _ _ _ :=
      telling_of_setCluster hmoved
    rw [hsnapshot]
    generalize lifecycleOf (r.setCluster env cluster).effects
      = events at htelling ⊢
    generalize healthOf (r.setCluster env cluster).effects
      = messages at htelling
    cases htelling with
    | idle hidle => exact absurd hidle hmoved
    | moved => exact ⟨_, flips_turned _ _ _ _ _, rfl, hcluster⟩

/-- An update by a move gives a snapshot of another cluster before it, if any,
where the snapshot at hand shows the cluster as it is. -/
theorem Relocates.other_cluster {cluster : Option String} {s : Step Unit}
    (h : Relocates env cluster r s) (hshows : r.Shows NodeInfo.cluster)
    {e : LifecycleEvent} (he : e ∈ lifecycleOf s.effects)
    (hupdate : e.action = .update) :
    ∀ old, e.old = some old → old.cluster ≠ e.current.cluster := by
  by_cases hsame : r.cluster = cluster
  · rw [h.idle hsame] at he
    cases he
  · obtain ⟨live, hlive, htold, hcluster⟩ := h.told hsame
    rw [htold] at he
    rcases List.mem_append.1 he with he | he
    · exact absurd hupdate (hlive.not_update he)
    · rw [List.mem_singleton.1 he, hcluster]
      intro old hold
      rw [hshows old hold]
      exact hsame

-- ================================================================ the law

/-- Whatever has been asked of a registration, and as long as the clock stands
still: a granted edit stays, but for the online flag, and tells one update
just where the snapshot has changed, with both of them; a move tells one just
where the cluster changes; nothing else tells any. A denied edit does nothing,
and another fault than that of the binding it has not.

The flags of an update by an edit are the same, and the clusters of one by a
move are not, where edits that broke off before have left these alone. -/
theorem updates_tell_changes (info : NodeInfo) (run : Run) (env : Services)
    (hstill : env.later = env.now) :
    let r := (performAll run (ofInfo info)).state
    (∀ caller edit,
      (∀ e, r.checkUpdate env caller = .error e →
        r.mutate env caller edit = ⟨r, .error e, []⟩)
      ∧ (r.checkUpdate env caller = .ok () →
        Edits env edit r (r.mutate env caller edit)))
    ∧ (∀ cluster, Relocates env cluster r (r.setCluster env cluster))
    ∧ (∀ q : Request, q.rewrites = false →
      Flips (lifecycleOf (q.perform env r).effects))
    ∧ ((∀ x ∈ run, x.2.Keeps Draft.on) →
      ∀ caller edit, ∀ e ∈ lifecycleOf (r.mutate env caller edit).effects,
        e.action = .update → e.old.map NodeInfo.on = some e.current.on)
    ∧ ((∀ x ∈ run, x.2.Keeps Draft.cluster) →
      ∀ cluster, ∀ e ∈ lifecycleOf (r.setCluster env cluster).effects,
        e.action = .update → ∀ old, e.old = some old →
          old.cluster ≠ e.current.cluster)
    := by
  intro r
  refine ⟨?_, ?_, ?_, ?_, ?_⟩
  · intro caller edit
    refine ⟨?_, fun hgranted => edits_of_mutate edit hgranted hstill⟩
    intro e hdenied
    unfold mutate
    rw [hdenied]
  · exact fun cluster => relocates_of_setCluster env cluster r
  · exact fun q hq => (telling_of_perform env q r).flips hq
  · intro hkeeps caller edit e he hupdate
    have hshows : r.Shows NodeInfo.on :=
      shows_on_performAll hkeeps (by simp [Shows, ofInfo])
    cases hcheck : r.checkUpdate env caller with
    | ok =>
      exact (edits_of_mutate edit hcheck hstill).same_on hshows he hupdate
    | error fault =>
      unfold mutate at he
      rw [hcheck] at he
      cases he
  · intro hkeeps cluster e he hupdate
    have hshows : r.Shows NodeInfo.cluster :=
      shows_performAll (fun _ _ => rfl) hkeeps (by simp [Shows, ofInfo])
    exact (relocates_of_setCluster env cluster r).other_cluster
      hshows he hupdate

/-- A node that somebody labels and breaks off, and that beats. -/
def labelledAndBeaten : Run :=
  [(surroundingsAt 0, .breakOff .system (·.label "zone" "a")),
   (surroundingsAt 0, .heartbeat 10)]

/-- An edit that moves a node, gives it an address and takes it offline. -/
def toProd (d : Draft) : Draft :=
  { d with cluster := some "prod", address := some "10.0.0.1:2375",
           on := false }

/-- Surroundings in which no address can be bound. -/
def refusing : Services :=
  { surroundingsAt 1 with makeClient := fun _ _ => .error (.node "refused") }

/-- The edit fails for the binding and stays nevertheless. It tells that the
node has come online, and then one update, before and behind which it is
online. -/
theorem updates_of_labelledAndBeaten :
    let r := (performAll labelledAndBeaten (ofInfo (.bare "n1"))).state
    let s := r.mutate refusing .system toProd
    refusing.later = refusing.now
      ∧ (∀ x ∈ labelledAndBeaten, x.2.Keeps Draft.on)
      ∧ Edits refusing toProd r s
      ∧ s.result = .error (.node "refused")
      ∧ s.state.draft.cluster = some "prod" ∧ s.state.draft.on = true
      ∧ (lifecycleOf s.effects).map LifecycleEvent.action = [.online, .update]
      ∧ ∀ e ∈ lifecycleOf s.effects, e.action = .update →
          e.old.map NodeInfo.on = some e.current.on := by
  intro r s
  have hkeeps : ∀ x ∈ labelledAndBeaten, x.2.Keeps Draft.on := by
    simp [labelledAndBeaten, Request.Keeps, Draft.label]
  obtain ⟨hmutate, -, -, hflags, -⟩ :=
    updates_tell_changes (.bare "n1") labelledAndBeaten refusing rfl
  exact ⟨rfl, hkeeps, (hmutate .system toProd).2 rfl, rfl, rfl, rfl, rfl,
    hflags hkeeps .system toProd⟩

/-- An edit that moves a node and breaks off leaves a snapshot from before the
move. When the node is moved back, the update gives that snapshot, and it is of
the same cluster as the new one. -/
theorem breakOff_blurs_move :
    let run : Run :=
      [(surroundingsAt 0, .breakOff .system (·.setCluster (some "prod")))]
    let r := (performAll run (ofInfo (.bare "n1"))).state
    r.cluster = some "prod"
      ∧ ∃ old current,
        lifecycleOf (r.setCluster (surroundingsAt 0) none).effects
            = [⟨"n1", .update, some old, current⟩]
          ∧ old.cluster = none ∧ current.cluster = none :=
  ⟨rfl, _, _, rfl, rfl, rfl⟩

end Fleetkeeper.Registration
