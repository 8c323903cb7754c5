/-
Serials tell the clients and pollers of a run apart and do nothing else. A
storage counts them over all nodes, so a node gets other ones where there are
other nodes. With the serials left out (`plain`), what a registration comes
to, what it gives back and what it tells depends on the registration, the
request and the surroundings alone; of those neither the serial that is next
nor the membership of nodes counts.

Every operation commutes with leaving the serials out. That is shown from the
bottom up, in the order in which the operations call each other.
-/
import Fleetkeeper.Proofs.Node.Orders
import Fleetkeeper.Proofs.Node.Steps
import Fleetkeeper.Proofs.Node.Turns

namespace Fleetkeeper

-- ======================================================= without serials

def Client.plain (c : Client) : Client := { c with serial := 0 }

def Poller.plain (p : Poller) : Poller := { p with serial := 0 }

def Effect.plain : Effect → Effect
  | pollerStarted _ address => pollerStarted 0 address
  | pollerStopped _ => pollerStopped 0
  | lifecycle e => lifecycle e
  | health e => health e
  | log e => log e
  | journal l => journal l
  | bindAsked node address => bindAsked node address

/-- Surroundings without other nodes: no membership, and no client made yet. -/
def Services.alone (env : Services) : Services :=
  { env with members := fun _ => none, serial := 0 }

namespace Registration

def plain (r : Registration) : Registration :=
  { r with client := r.client.map Client.plain,
           poller := r.poller.map Poller.plain }

def Answer.plain : Answer → Answer
  | bound result => bound (result.map Client.plain)
  | done result => done result
  | shown info => shown info
  | merged result => merged result

end Registration

/-- A step without serials; `result` leaves them out of what it results in. -/
def Step.plain {α : Type} (result : α → α) (s : Step α) : Step α :=
  ⟨s.state.plain, result s.result, s.effects.map Effect.plain⟩

theorem Step.eq_plain {α : Type} {result : α → α} {s t : Step α}
    (hstate : s.state = t.state.plain) (hresult : s.result = result t.result)
    (htold : s.effects = t.effects.map Effect.plain) : s = t.plain result := by
  obtain ⟨state, outcome, told⟩ := s
  subst hstate hresult htold
  rfl

namespace Registration

variable {env : Services} {r : Registration} {α : Type}

/-- A look does not depend on clients and serials. -/
theorem plain_refresh (now : Instant) (r : Registration) :
    r.plain.refresh now = ((r.refresh now).1.plain, (r.refresh now).2) := by
  have hsame : r.plain.transition? now = r.transition? now := rfl
  unfold refresh
  rw [hsame]
  dsimp only
  split
  · rfl
  · cases hcache : r.cache with
    | none =>
      have hnone : r.plain.cache = none := hcache
      rw [hnone]
      rfl
    | some c =>
      have hsome : r.plain.cache = some c := hcache
      rw [hsome]

theorem plain_tell (event : Option LifecycleEvent) :
    (tell event).map Effect.plain = tell event := by
  cases event <;> rfl

theorem plain_snapshot (env : Services) (r : Registration) :
    r.plain.snapshot env.alone = (r.snapshot env).plain id := by
  have hlook : r.plain.refresh env.alone.now
      = ((r.refresh env.now).1.plain, (r.refresh env.now).2) :=
    plain_refresh env.now r
  unfold snapshot
  rw [hlook]
  exact congrArg (Step.mk _ _) (plain_tell _).symm

theorem plain_stopPoller (r : Registration) :
    r.plain.stopPoller
      = (r.stopPoller.1.plain, r.stopPoller.2.map Effect.plain) := by
  obtain ⟨name, draft, cache, lease, ttl, client, poller, closed⟩ := r
  cases poller <;> rfl

theorem plain_noteAddress (address : String) (r : Registration) :
    r.plain.noteAddress address = (r.noteAddress address).plain := by
  unfold noteAddress
  split
  · rename_i h
    rw [if_pos (show r.draft.address = some address from h)]
  · rename_i h
    rw [if_neg (show ¬ r.draft.address = some address from h)]
    rfl

/-- The client that is made, and its poller, are the only ones that get a
serial. -/
theorem plain_attach (env : Services) (address : String) (r : Registration) :
    attach env.alone address r.plain
      = (attach env address r).plain (Except.map Client.plain) := by
  have hmake : env.alone.makeClient r.plain.name address
    = env.makeClient r.name address := rfl
  have hruntime : env.alone.hasRuntime = env.hasRuntime := rfl
  unfold attach
  dsimp only
  rw [hmake, hruntime]
  cases env.makeClient r.name address with
  | error e => rfl
  | ok =>
    cases env.hasRuntime with
    | true => rfl
    | false => rfl

/-- What binding does where no client has the address yet. -/
def renew (env : Services) (address : String) (r : Registration) :
    Step (Except Fault Client) :=
  if r.closed then
    ⟨r, .error (.node ("Registration of node " ++ r.name ++ " is closed")), []⟩
  else
    let s := attach env address { r.stopPoller.1 with client := none }
    { s with effects := r.stopPoller.2 ++ s.effects }

theorem bind_eq_renew (env : Services) (address : String) (r : Registration) :
    r.bind env address
      = match (r.noteAddress address).client with
        | some c =>
          if c.address = address then ⟨r.noteAddress address, .ok c, []⟩
          else renew env address (r.noteAddress address)
        | none => renew env address (r.noteAddress address) :=
  rfl

/-- A new client takes the serial that is next; the old poller stops under its
own. -/
theorem plain_renew (env : Services) (address : String) (r : Registration) :
    renew env.alone address r.plain
      = (renew env address r).plain (Except.map Client.plain) := by
  have hclosed : r.plain.closed = r.closed := rfl
  unfold renew
  rw [hclosed, plain_stopPoller]
  cases r.closed with
  | true => rfl
  | false =>
    let bare : Registration := { r.stopPoller.1 with client := none }
    -- What is left, results and is told, as a function of the attaching.
    let step (stopped : List Effect) (s : Step (Except Fault Client)) :
        Step (Except Fault Client) :=
      { s with effects := stopped ++ s.effects }
    show step (r.stopPoller.2.map Effect.plain)
        (attach env.alone address bare.plain)
      = (step r.stopPoller.2 (attach env address bare)).plain
        (Except.map Client.plain)
    rw [plain_attach]
    exact congrArg (Step.mk _ _) List.map_append.symm

/-- Binding decides by addresses, and serials only go into what comes of it. -/
theorem plain_bind (env : Services) (address : String) (r : Registration) :
    r.plain.bind env.alone address
      = (r.bind env address).plain (Except.map Client.plain) := by
  rw [bind_eq_renew, bind_eq_renew, plain_noteAddress, plain_renew]
  generalize r.noteAddress address = noted
  have hclient : noted.plain.client = noted.client.map Client.plain := rfl
  rw [hclient]
  cases noted.client with
  | none => rfl
  | some c =>
    by_cases haddress : c.address = address
    · show (if c.address = address then _ else _)
        = Step.plain _ (if c.address = address then _ else _)
      rw [if_pos haddress, if_pos haddress]
      rfl
    · show (if c.address = address then _ else _)
        = Step.plain _ (if c.address = address then _ else _)
      rw [if_neg haddress, if_neg haddress]

theorem plain_unbind (r : Registration) :
    r.plain.unbind = (r.unbind.1.plain, r.unbind.2.map Effect.plain) := by
  obtain ⟨name, draft, cache, lease, ttl, client, poller, closed⟩ := r
  cases client <;> cases poller <;> rfl

theorem plain_teardown (r : Registration) :
    r.plain.teardown = r.teardown.plain id := by
  unfold teardown
  rw [plain_stopPoller]
  rfl

/-- Rebinding hands on to binding or unbinding, or does nothing. -/
theorem plain_rebind (env : Services) (r : Registration) :
    r.plain.rebind env.alone = (r.rebind env).plain id := by
  have haddress : r.plain.draft.address = r.draft.address := rfl
  have hclosed : r.plain.closed = r.closed := rfl
  unfold rebind
  rw [haddress]
  cases r.draft.address with
  | none =>
    dsimp only
    rw [plain_unbind]
    rfl
  | some address =>
    dsimp only
    rw [hclosed, plain_bind]
    cases r.closed with
    | true => rfl
    | false =>
      show (⟨_, ((r.bind env address).result.map Client.plain).map fun _ => (),
        _⟩ : Step _) = _
      have hresult :
          ((r.bind env address).result.map Client.plain).map (fun _ => ())
            = (r.bind env address).result.map fun _ => () := by
        cases (r.bind env address).result <;> rfl
      rw [hresult]
      rfl

/-- The second look of an edit. -/
theorem plain_refresh_rebound (env : Services) (edit : Draft → Draft)
    (r : Registration) :
    let rebound := (r.edited env.now edit).rebind env
    (r.plain.edited env.alone.now edit).rebind env.alone = rebound.plain id
      ∧ ((r.plain.edited env.alone.now edit).rebind env.alone).state.refresh
          env.alone.later
        = ((rebound.state.refresh env.later).1.plain,
          (rebound.state.refresh env.later).2) := by
  intro rebound
  have hrebind : (r.plain.edited env.alone.now edit).rebind env.alone
      = rebound.plain id :=
    plain_rebind env (r.edited env.now edit)
  refine ⟨hrebind, ?_⟩
  rw [hrebind]
  exact plain_refresh env.later rebound.state

/-- What an edit tells besides its binding goes by drafts and snapshots. -/
theorem plain_notices (env : Services) (edit : Draft → Draft)
    (r : Registration) :
    r.plain.notices env.alone edit
      = (r.notices env edit).map Effect.plain := by
  have hfirst : r.plain.refresh env.alone.now
      = ((r.refresh env.now).1.plain, (r.refresh env.now).2) :=
    plain_refresh env.now r
  obtain ⟨-, hsecond⟩ := plain_refresh_rebound env edit r
  have hupdate (b : Bool) (name : String) (old : Option NodeInfo)
    (current : NodeInfo) :
      (if b then [] else [updateEvent name old current]).map Effect.plain
        = if b then [] else [updateEvent name old current] := by
    cases b <;> rfl
  have hhealth (b : Bool) (m : HealthEvent) :
      (if b then [Effect.health m] else []).map Effect.plain
        = if b then [Effect.health m] else [] := by
    cases b <;> rfl
  unfold notices
  rw [hfirst, hsecond]
  simp only [List.map_append, plain_tell, hupdate, hhealth]
  rfl

/-- So does an edit: what it tells besides its binding comes from the draft. -/
theorem plain_mutate (env : Services) (caller : Caller) (edit : Draft → Draft)
    (r : Registration) :
    r.plain.mutate env.alone caller edit
      = (r.mutate env caller edit).plain id := by
  have hcheck : r.plain.checkUpdate env.alone caller
    = r.checkUpdate env caller := rfl
  cases hresult : r.checkUpdate env caller with
  | error e =>
    unfold mutate
    rw [hcheck, hresult]
    rfl
  | ok =>
    obtain ⟨hrebind, hlook⟩ := plain_refresh_rebound env edit r
    rw [mutate_eq edit hresult, mutate_eq edit (hcheck.trans hresult),
      plain_notices, hlook, hrebind]
    exact congrArg (Step.mk _ _) List.map_append.symm

/-- A move to another cluster: its look comes behind the change, and what it
tells is read off what the look gives. -/
theorem plain_setCluster (env : Services) (cluster : Option String)
    (r : Registration) :
    r.plain.setCluster env.alone cluster
      = (r.setCluster env cluster).plain id := by
  have hcluster : r.plain.draft.cluster = r.draft.cluster := rfl
  unfold setCluster
  rw [hcluster]
  by_cases hsame : r.draft.cluster = cluster
  · rw [if_pos hsame, if_pos hsame]
    rfl
  · rw [if_neg hsame, if_neg hsame]
    let moved : Registration :=
      { r with draft := r.draft.setCluster cluster, cache := none }
    have hlook : moved.plain.refresh env.alone.now
        = ((moved.refresh env.now).1.plain, (moved.refresh env.now).2) :=
      plain_refresh env.now moved
    -- What is left and what is told, as a function of what the look gives.
    let step (look : Registration × NodeInfo × Option LifecycleEvent) :
        Step Unit :=
      ⟨look.1, (), tell look.2.2 ++ [updateEvent look.1.name r.cache look.2.1]⟩
    show step (moved.plain.refresh env.alone.now)
      = (step (moved.refresh env.now)).plain id
    rw [hlook]
    show _
      = (⟨_, _, (tell (moved.refresh env.now).2.2 ++ _).map Effect.plain⟩ :
          Step Unit)
    rw [List.map_append, plain_tell]
    rfl

/-- An edit that breaks off has looked and written the draft. -/
theorem plain_breakOff (env : Services) (caller : Caller)
    (edit : Draft → Draft) (r : Registration) :
    r.plain.breakOff env.alone caller edit
      = (r.breakOff env caller edit).plain id := by
  have hcheck : r.plain.checkUpdate env.alone caller
    = r.checkUpdate env caller := rfl
  have hlook : r.plain.refresh env.alone.now
      = ((r.refresh env.now).1.plain, (r.refresh env.now).2) :=
    plain_refresh env.now r
  unfold breakOff
  rw [hcheck, hlook]
  cases r.checkUpdate env caller with
  | error e => rfl
  | ok => rfl

/-- A report writes the draft and passes on what came of it. -/
theorem plain_updateHealth (env : Services) (caller : Caller)
    (report : Metrics) (r : Registration) :
    r.plain.updateHealth env.alone caller report
      = (r.updateHealth env caller report).plain id := by
  have hcheck : r.plain.checkUpdate env.alone caller
    = r.checkUpdate env caller := rfl
  unfold updateHealth
  rw [hcheck]
  cases r.checkUpdate env caller with
  | error e => rfl
  | ok => rfl

/-- A heartbeat reads the clock and the settings, and touches neither client
nor poller. -/
theorem plain_heartbeat (env : Services) (secs : Nat) (r : Registration) :
    r.plain.heartbeat env.alone secs = (r.heartbeat env secs).plain id := by
  obtain ⟨term, hterm⟩ : ∃ term, leaseSecs env.nodes secs = term := ⟨_, rfl⟩
  have hterm' : leaseSecs env.alone.nodes secs = term := hterm
  have hnow : env.alone.now = env.now := rfl
  -- Part by part: on whole steps the kernel would compute with the lengths.
  have hstate : (r.plain.heartbeat env.alone secs).state
      = (r.heartbeat env secs).state.plain := by
    unfold heartbeat
    simp only [hterm, hterm', hnow]
    split
    · rfl
    · rfl
  have hresult : (r.plain.heartbeat env.alone secs).result
      = id (r.heartbeat env secs).result := by
    unfold heartbeat
    simp only [hterm, hterm', hnow]
    split
    · rfl
    · rfl
  have htold : (r.plain.heartbeat env.alone secs).effects
      = (r.heartbeat env secs).effects.map Effect.plain := by
    unfold heartbeat
    simp only [hterm, hterm', hnow]
    split
    · rfl
    · rfl
  exact Step.eq_plain hstate hresult htold

-- ============================================================ all requests

theorem discard_plain (result : α → α) (s : Step α) :
    (s.plain result).discard = s.discard.plain id :=
  rfl

theorem done_plain (s : Step (Except Fault Unit)) :
    Answer.done (s.plain id).result = (Answer.done s.result).plain :=
  rfl

/-- What a request comes to does not depend on serials. -/
theorem plain_perform (env : Services) (q : Request) (r : Registration) :
    q.perform env.alone r.plain = (q.perform env r).plain id
      ∧ q.answer env.alone r.plain = (q.answer env r).plain := by
  unfold Request.perform Request.answer
  cases q with
  | heartbeat secs =>
    dsimp only
    rw [plain_heartbeat]
    exact ⟨discard_plain id _, done_plain _⟩
  | snapshot =>
    dsimp only
    rw [plain_snapshot]
    exact ⟨rfl, rfl⟩
  | updateHealth caller report =>
    dsimp only
    rw [plain_updateHealth]
    exact ⟨rfl, rfl⟩
  | mutate caller edit =>
    dsimp only
    rw [plain_mutate]
    exact ⟨rfl, rfl⟩
  | breakOff caller edit =>
    dsimp only
    rw [plain_breakOff]
    exact ⟨rfl, rfl⟩
  | setCluster cluster =>
    dsimp only
    rw [plain_setCluster]
    exact ⟨rfl, rfl⟩
  | bind address =>
    dsimp only
    rw [plain_bind]
    exact ⟨rfl, rfl⟩
  | teardown =>
    dsimp only
    rw [plain_teardown]
    exact ⟨rfl, rfl⟩

end Registration

end Fleetkeeper
