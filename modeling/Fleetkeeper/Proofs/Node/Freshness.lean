/-
Snapshots are never out of date: whatever has been asked of a registration,
the next snapshot tells what those requests come to.

# What a snapshot is held against

An `Account` is kept beside the registration and knows nothing of drafts that
are cached, clients or pollers. It notes what was said about the node, with
every edit laid over what came before, and when the last heartbeat was and
for how long it counts. The online flag is never noted: it is reckoned from
the heartbeat when it is asked for, so an edit that sets it, or a description
that says so, has nothing to change.

# The one gap

An edit that breaks off half-way leaves the draft edited and the snapshot at
hand as it was, so that snapshot is out of date and stays so until something
else drops it. The account notes that as `hidden`.
Requests that return never set it (`shown_of_returns`); a granted report or
edit, and a change of cluster or address, clear it.

# Why it holds

`Agrees` is the invariant: registration and account say the same about the
node, have the same lease, and the snapshot at hand, if there is one, is what
the draft gives, unless an edit is hidden. Every request keeps it
(`agrees_perform`); all of the work is in which requests may keep a snapshot
and which have to drop it.
-/
import Fleetkeeper.Proofs.Node.Steps

namespace Fleetkeeper.Registration

variable {env : Services} {r : Registration} {name : String}

-- ========================================================== the account

/-- What requests to a registration come to, reckoned without it. -/
structure Account where
  /-- The description of the node as edited. What it says about being online
  counts for nothing. -/
  said : Draft
  /-- The last heartbeat, and the seconds it counts for. -/
  beat : Option (Instant × Nat) := none
  /-- Whether an edit that broke off is still hidden by a snapshot. -/
  hidden : Bool := false

namespace Account

/-- The account of a node just described. -/
def ofInfo (info : NodeInfo) : Account := { said := info.toDraft }

/-- Whether the node is online: there was a heartbeat, and its time is not
over. -/
def isOn (now : Instant) (a : Account) : Bool :=
  match a.beat with
  | some (beat, secs) => decide (now.nanos ≤ beat.nanos + secs * 1000000000)
  | none => false

/-- The snapshot that is due at `now`. -/
def info (name : String) (now : Instant) (a : Account) : NodeInfo where
  name := name
  address := a.said.address
  cluster := a.said.cluster
  on := a.isOn now
  labels := a.said.labels
  health := a.said.health

/-- What an edit makes of the description. It may look at the online flag. -/
def edited (now : Instant) (edit : Draft → Draft) (a : Account) : Draft :=
  edit { a.said with on := a.isOn now }

/-- Whether a caller may update the node. -/
def granted (name : String) (env : Services) (caller : Caller) : Bool :=
  env.access.allows caller ⟨.node, name⟩ .update

/-- Seconds that a heartbeat counts for. -/
def term (env : Services) (secs : UInt32) : Nat :=
  max secs.toNat (max env.nodes.minTtlSecs 10)

/-- Enter a request. -/
def enter (name : String) (env : Services) (a : Account) : Request → Account
  | .heartbeat secs => { a with beat := some (env.now, term env secs) }
  | .snapshot => a
  | .updateHealth caller report =>
    if granted name env caller then
      { a with said := { a.said with health := a.said.health.merge report },
               hidden := false }
    else a
  | .mutate caller edit =>
    if granted name env caller then
      { a with said := a.edited env.now edit, hidden := false }
    else a
  | .breakOff caller edit =>
    if granted name env caller then
      { a with said := a.edited env.now edit, hidden := true }
    else a
  | .setCluster cluster =>
    if a.said.cluster = cluster then a
    else { a with said := { a.said with cluster }, hidden := false }
  | .bind address =>
    if a.said.address = some address then a
    else { a with said := { a.said with address := some address },
                  hidden := false }
  | .teardown => a

theorem enter_denied {env : Services} {a : Account} {q : Request}
    {caller : Caller} (hq : q.caller? = some caller)
    (hdenied : granted name env caller = false) : a.enter name env q = a := by
  cases q with
  | updateHealth | mutate | breakOff =>
    cases hq
    unfold enter
    dsimp only
    rw [if_neg (by simp [hdenied])]
  | heartbeat | snapshot | setCluster | bind | teardown => cases hq

/-- Enter requests one after the other. -/
def enterAll (name : String) (run : Run) (a : Account) : Account :=
  run.foldl (fun a x => a.enter name x.1 x.2) a

/-- Requests that return hide nothing. -/
theorem shown_of_returns {run : Run} {a : Account}
    (hreturns : ∀ x ∈ run, x.2.returns = true) (ha : a.hidden = false) :
    (a.enterAll name run).hidden = false := by
  induction run generalizing a with
  | nil => exact ha
  | cons x rest ih =>
    refine ih (fun y hy => hreturns y (List.mem_cons_of_mem _ hy)) ?_
    have hx := hreturns x (List.mem_cons_self ..)
    obtain ⟨env, q⟩ := x
    cases q <;> unfold enter <;> dsimp only
    case breakOff => cases hx
    case heartbeat | snapshot | teardown => exact ha
    all_goals split <;> first | rfl | exact ha

end Account

-- ========================================================== the invariant

/-- A registration agrees with an account of it. -/
structure Agrees (name : String) (r : Registration) (a : Account) : Prop where
  name_eq : r.name = name
  said_eq : ∃ on, r.draft = { a.said with on }
  isOn_eq : ∀ now, r.isOn now = a.isOn now
  fresh : a.hidden = false → r.Fresh

variable {a : Account}

theorem Agrees.checkUpdate_eq (h : Agrees name r a) (env : Services)
    (caller : Caller) :
    r.checkUpdate env caller
      = if Account.granted name env caller then .ok ()
        else .error (.accessDenied r.oid.toText Action.update.toText) := by
  have hoid : r.oid = ⟨.node, name⟩ := by rw [oid, h.name_eq]
  unfold checkUpdate AccessControl.check Account.granted
  rw [hoid]

theorem Agrees.address_eq (h : Agrees name r a) :
    r.draft.address = a.said.address := by
  obtain ⟨on, hdraft⟩ := h.said_eq
  rw [hdraft]

theorem Agrees.cluster_eq (h : Agrees name r a) :
    r.draft.cluster = a.said.cluster := by
  obtain ⟨on, hdraft⟩ := h.said_eq
  rw [hdraft]

/-- An edit is shown the same by both. -/
theorem Agrees.shown_eq (h : Agrees name r a) (now : Instant) :
    r.shown now = { a.said with on := a.isOn now } := by
  obtain ⟨on, hdraft⟩ := h.said_eq
  unfold shown
  rw [h.isOn_eq, hdraft]

/-- The end of a heartbeat can be shown as a date, and the least lease that
the settings ask for is a number of 32 bits, so that nothing is cut. -/
def Request.Sustainable (env : Services) : Request → Prop
  | .heartbeat secs =>
    env.nodes.minTtlSecs < 4294967296
      ∧ Instant.inRange ⟨env.now.nanos + Account.term env secs * 1000000000⟩
        = true
  | _ => True

/-- A heartbeat that is sustainable writes the lease and its length, and no
more. -/
theorem heartbeat_state {secs : UInt32}
    (hsustainable : (Request.heartbeat secs).Sustainable env) :
    (r.heartbeat env secs.toNat).state
      = { r with
          lease := some ⟨env.now.nanos + Account.term env secs * 1000000000⟩,
          ttl := low32 (Account.term env secs) } := by
  obtain ⟨hleast, hrange⟩ := hsustainable
  have hsecs : secs.toNat < 4294967296 := secs.toNat_lt
  have hword : Account.term env secs < 4294967296 := by
    unfold Account.term
    omega
  have hlease : leaseSecs env.nodes secs.toNat = Account.term env secs := rfl
  exact (heartbeat_done hlease (by unfold Span.maxSeconds; omega) hrange).1

/-- Every request keeps the agreement. One that is denied is entered by
neither; the others are taken by what they leave. -/
theorem agrees_perform {q : Request} (hq : q.Sustainable env)
    (h : Agrees name r a) :
    Agrees name (q.perform env r).state (a.enter name env q) := by
  by_cases hdenied : ∃ caller, q.caller? = some caller
      ∧ Account.granted name env caller = false
  · obtain ⟨caller, hcaller, hdenied⟩ := hdenied
    have hcheck := h.checkUpdate_eq env caller
    rw [if_neg (by simp [hdenied])] at hcheck
    rw [(Request.denied hcaller hcheck).1,
      Account.enter_denied hcaller hdenied]
    exact h
  have hgranted : ∀ caller, q.caller? = some caller →
      Account.granted name env caller = true := by
    simpa using hdenied
  have hcheck : ∀ caller, q.caller? = some caller →
      r.checkUpdate env caller = .ok () := by
    intro caller hcaller
    rw [h.checkUpdate_eq, if_pos (hgranted caller hcaller)]
  obtain ⟨on, hdraft⟩ := h.said_eq
  cases q with
  | heartbeat secs =>
    rw [Request.perform, Step.discard_state, heartbeat_state hq]
    refine ⟨h.name_eq, ⟨on, hdraft⟩, fun now => ?_, h.fresh⟩
    unfold isOn Account.isOn
    simp only [Account.enter, Instant.le_def]
  | snapshot =>
    show Agrees name (r.refresh env.now).1 a
    have hfresh : a.hidden = false → (r.refresh env.now).1.Fresh :=
      fun hshown => (h.fresh hshown).refresh env.now
    rw [refresh_state] at hfresh ⊢
    exact ⟨h.name_eq, ⟨_, by rw [hdraft]⟩, h.isOn_eq, hfresh⟩
  | updateHealth caller report =>
    show Agrees name (r.updateHealth env caller report).state _
    unfold updateHealth Account.enter
    rw [hcheck caller rfl]
    dsimp only
    rw [if_pos (hgranted caller rfl), hdraft]
    exact ⟨h.name_eq, ⟨on, rfl⟩, h.isOn_eq, fun _ => fresh_of_cache rfl⟩
  | mutate caller edit =>
    show Agrees name (r.mutate env caller edit).state _
    obtain ⟨client, poller, hstate⟩ := mutate_state edit (hcheck caller rfl)
    unfold Account.enter
    dsimp only
    rw [hstate, if_pos (hgranted caller rfl), h.shown_eq]
    refine ⟨h.name_eq, ⟨_, rfl⟩, h.isOn_eq, fun _ c hc => ?_⟩
    cases hc
    rfl
  | breakOff caller edit =>
    show Agrees name (r.breakOff env caller edit).state _
    unfold Account.enter
    dsimp only
    rw [breakOff_state edit (hcheck caller rfl), if_pos (hgranted caller rfl),
      h.shown_eq]
    -- The snapshot is the one from before the edit, so it counts as hidden.
    refine ⟨h.name_eq, ⟨_, rfl⟩, h.isOn_eq, fun hshown => ?_⟩
    cases hshown
  | setCluster cluster =>
    show Agrees name (r.setCluster env cluster).state _
    unfold Account.enter
    dsimp only
    by_cases hsame : r.draft.cluster = cluster
    · rw [if_pos (h.cluster_eq ▸ hsame)]
      unfold setCluster
      rw [if_pos hsame]
      exact h
    · rw [if_neg (h.cluster_eq ▸ hsame), setCluster_state hsame, hdraft]
      refine ⟨h.name_eq, ⟨_, rfl⟩, h.isOn_eq, fun _ c hc => ?_⟩
      cases hc
      rfl
  | bind address =>
    show Agrees name (r.bind env address).state _
    obtain ⟨client, poller, hstate⟩ := (binding_of_bind env address r).state_eq
    unfold Account.enter
    dsimp only
    rw [hstate]
    by_cases hsame : r.draft.address = some address
    · rw [if_pos (h.address_eq ▸ hsame), noted_of_eq hsame]
      exact ⟨h.name_eq, ⟨on, hdraft⟩, h.isOn_eq, h.fresh⟩
    · rw [if_neg (h.address_eq ▸ hsame)]
      refine ⟨h.name_eq, ⟨on, ?_⟩, h.isOn_eq,
        fun _ => fresh_of_cache (if_neg hsame)⟩
      unfold noted
      dsimp only
      rw [hdraft]
  | teardown =>
    show Agrees name r.teardown.state a
    rw [teardown_eq]
    exact ⟨h.name_eq, ⟨on, hdraft⟩, h.isOn_eq, h.fresh⟩

/-- A registration of a node just described agrees with the account of it:
there is no lease, and no snapshot yet. -/
theorem agrees_ofInfo (info : NodeInfo) :
    Agrees info.name (ofInfo info) (.ofInfo info) :=
  ⟨rfl, ⟨_, rfl⟩, fun _ => rfl, fun _ => fresh_of_cache rfl⟩

/-- A run keeps the agreement. By induction on the requests. -/
theorem agrees_performAll {run : Run} (hrun : ∀ x ∈ run, x.2.Sustainable x.1)
    (h : Agrees name r a) :
    Agrees name (performAll run r).state (a.enterAll name run) := by
  induction run generalizing r a with
  | nil => exact h
  | cons x rest ih =>
    have hfirst := agrees_perform (hrun x (List.mem_cons_self ..)) h
    exact ih (fun y hy => hrun y (List.mem_cons_of_mem _ hy)) hfirst

-- ========================================================= the snapshots

/-- Whatever has been asked of a registration since its node was described,
the next snapshot tells what that comes to, and a snapshot at hand is what
the draft gives, as long as no edit that broke off is hidden; and none is
where every request has returned. -/
theorem snapshot_current (info : NodeInfo) (run : Run) (env : Services)
    (hrun : ∀ x ∈ run, x.2.Sustainable x.1) :
    let r := (performAll run (ofInfo info)).state
    let a := (Account.ofInfo info).enterAll info.name run
    ((∀ x ∈ run, x.2.returns = true) → a.hidden = false)
      ∧ (a.hidden = false →
          (r.snapshot env).result = a.info info.name env.now
            ∧ ∀ c, r.cache = some c → c = r.draft.build info.name) := by
  intro r a
  have hagrees : Agrees info.name r a :=
    agrees_performAll hrun (agrees_ofInfo info)
  refine ⟨fun hreturns => Account.shown_of_returns hreturns rfl,
    fun hshown => ?_⟩
  have hfresh := hagrees.fresh hshown
  refine ⟨?_, ?_⟩
  · obtain ⟨on, hdraft⟩ := hagrees.said_eq
    show (r.refresh env.now).2.1 = _
    rw [refresh_info env.now hfresh, hagrees.name_eq, hagrees.isOn_eq, hdraft]
    rfl
  · rw [← hagrees.name_eq]
    exact hfresh

/-- A node that beats once, and is then given an address by an edit that
would have it offline. -/
def beatenAndEdited : Run :=
  [(surroundingsAt 0, .heartbeat 5),
   (surroundingsAt 3, .mutate .system fun d =>
      { d with address := some "10.0.0.1:2375", on := false })]

/-- The snapshot of that node in the last second of its lease, which lasts
ten seconds although it was asked for five. -/
theorem snapshot_of_beatenAndEdited :
    (∀ x ∈ beatenAndEdited, x.2.Sustainable x.1)
      ∧ ((performAll beatenAndEdited (ofInfo (.bare "n1"))).state.snapshot
          (surroundingsAt 10)).result
        = { name := "n1", address := some "10.0.0.1:2375", on := true } := by
  have hrun : ∀ x ∈ beatenAndEdited, x.2.Sustainable x.1 := by
    refine List.forall_mem_cons.2
      ⟨⟨?_, ?_⟩, List.forall_mem_singleton.2 trivial⟩
    · decide
    · decide
  obtain ⟨hreturns, hcurrent⟩ :=
    snapshot_current (.bare "n1") beatenAndEdited (surroundingsAt 10) hrun
  have hshown := hreturns (by decide)
  exact ⟨hrun, (hcurrent hshown).1⟩

/-- An edit that gives a node an address and breaks off. -/
def addressedAndBrokenOff : Run :=
  [(surroundingsAt 0, .breakOff .system (·.setAddress (some "10.0.0.1:2375")))]

/-- Behind an edit that broke off a snapshot can be out of date: the node has
its address, the snapshot at hand is not what the draft gives, and the next
snapshot, which is that one, has none. -/
theorem breakOff_leaves_stale :
    let r := (performAll addressedAndBrokenOff (ofInfo (.bare "n1"))).state
    let a := (Account.ofInfo (.bare "n1")).enterAll "n1" addressedAndBrokenOff
    a.said.address = some "10.0.0.1:2375" ∧ r.address = a.said.address
      ∧ (r.snapshot (surroundingsAt 0)).result = .bare "n1"
      ∧ (r.snapshot (surroundingsAt 0)).result
          ≠ a.info "n1" (surroundingsAt 0).now
      ∧ ∃ c, r.cache = some c ∧ c ≠ r.draft.build "n1" := by
  refine ⟨rfl, rfl, rfl, ?_, _, rfl, ?_⟩
  · decide
  · decide

end Fleetkeeper.Registration
