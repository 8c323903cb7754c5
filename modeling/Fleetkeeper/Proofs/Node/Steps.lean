/-
What single operations do to a registration, said once: refreshing, binding,
letting go of a client, and edits. Laws about requests are read off these, so
a branch that is added to an operation is paid for here.

Taking a snapshot writes two fields and no more, the online flag of the draft
and the snapshot at hand (`refresh_state`); which snapshot it is depends on
whether the one at hand is current (`refresh_info`). Binding writes the
address, the snapshot at hand, client and poller; `Binding` lists the ways in
which it can go, with everything that is told on each. An edit is a rebinding
of the edited draft between two refreshings (`mutate_eq`), and `Rebinding`
lists the ways in which that can go, by the address that was left.

What is told falls in two parts. Effects that wire, as `Effect.wires` has it,
are about clients and pollers; all others are notices for somebody else.
-/
import Fleetkeeper.Proofs.Node.Request
import Fleetkeeper.Proofs.Time.Range

namespace Fleetkeeper

/-- Whether an effect has to do with clients and pollers. -/
def Effect.wires : Effect → Bool
  | bindAsked _ _ | pollerStarted _ _ | pollerStopped _ => true
  | lifecycle _ | health _ | log _ | journal _ => false

namespace Registration

variable {env : Services} {r : Registration} {caller : Caller}

-- =========================================================== refreshing

/-- The snapshot at hand, if there is one, is what the draft gives. -/
def Fresh (r : Registration) : Prop :=
  ∀ c, r.cache = some c → c = r.draft.build r.name

/-- Refreshing derives the online flag and keeps the snapshot. -/
theorem refresh_state (now : Instant) (r : Registration) :
    (r.refresh now).1
      = { r with draft := { r.draft with on := r.isOn now },
                 cache := some (r.refresh now).2.1 } := by
  unfold refresh
  dsimp only
  split
  case isTrue => rfl
  case isFalse hsame =>
    have hon : r.isOn now = r.draft.on := by
      simpa [transition?] using hsame
    cases hcache : r.cache with
    | some current =>
      dsimp only
      rw [hon, ← hcache]
    | none =>
      dsimp only
      rw [hon]

/-- The snapshot that is taken where the one at hand is current. -/
theorem refresh_info (now : Instant) (hfresh : r.Fresh) :
    (r.refresh now).2.1
      = { r.draft with on := r.isOn now }.build r.name := by
  unfold refresh
  dsimp only
  split
  case isTrue => rfl
  case isFalse hsame =>
    have hon : r.isOn now = r.draft.on := by
      simpa [transition?] using hsame
    cases hcache : r.cache with
    | some current =>
      dsimp only
      rw [hon]
      exact hfresh current hcache
    | none =>
      dsimp only
      rw [hon]

/-- A registration is fresh behind a snapshot of a fresh one. -/
theorem Fresh.refresh (now : Instant) (hfresh : r.Fresh) :
    (r.refresh now).1.Fresh := by
  intro c hc
  rw [refresh_state] at hc ⊢
  cases hc
  exact refresh_info now hfresh

theorem fresh_of_cache (h : r.cache = none) : r.Fresh := by
  intro c hc
  rw [h] at hc
  cases hc

/-- A heartbeat writes the lease and its length, no more, and tells nothing. -/
theorem heartbeat_eq (env : Services) (secs : Nat) (r : Registration) :
    (∃ lease ttl, (r.heartbeat env secs).state = { r with lease, ttl })
      ∧ (r.heartbeat env secs).effects = [] := by
  -- The length has to be a variable before the span of it can be looked at.
  obtain ⟨term, hterm⟩ : ∃ term, leaseSecs env.nodes secs = term := ⟨_, rfl⟩
  unfold heartbeat
  simp only [hterm]
  split
  · exact ⟨⟨_, _, rfl⟩, rfl⟩
  · exact ⟨⟨_, _, rfl⟩, rfl⟩

/-- A heartbeat comes to its end if the lease is a span and ends at a
date. -/
theorem heartbeat_done {secs term : Nat}
    (hterm : leaseSecs env.nodes secs = term)
    (hspan : (term : Int) ≤ Span.maxSeconds)
    (hend : (env.now.afterSeconds term).inRange = true) :
    (r.heartbeat env secs).state
        = { r with lease := some (env.now.afterSeconds term),
                   ttl := low32 term }
      ∧ (r.heartbeat env secs).result = .ok () := by
  have hspan := Instant.ofSeconds?_signed64 hspan
  have hstop := Instant.add?_seconds hend
  unfold heartbeat
  simp only [hterm, hspan, hstop, Option.bind_eq_bind, Option.bind_some,
    and_self]

-- ============================================================== binding

/-- What is told when the poller, if any, is stopped. -/
def stopped (r : Registration) : List Effect :=
  r.poller.toList.map fun p => .pollerStopped p.serial

theorem stopPoller_eq (r : Registration) :
    r.stopPoller = ({ r with poller := none }, r.stopped) := by
  obtain ⟨name, draft, cache, lease, ttl, client, poller, closed⟩ := r
  cases poller <;> rfl

/-- A registration with an address noted, field by field: the snapshot at
hand goes unless that was the address already. -/
def noted (address : String) (r : Registration) : Registration :=
  { r with
    draft := { r.draft with address := some address },
    cache := if r.draft.address = some address then r.cache else none }

theorem noted_client (r : Registration) (address : String) :
    (r.noted address).client = r.client :=
  rfl

theorem noteAddress_eq (address : String) (r : Registration) :
    r.noteAddress address = r.noted address := by
  unfold noteAddress noted
  split
  case isTrue hsame =>
    rw [← hsame]
  case isFalse => rfl

/-- The address that is there already needs no noting. -/
theorem noted_of_eq {address : String}
    (hsame : r.draft.address = some address) :
    r.noted address = r := by
  unfold noted
  rw [if_pos hsame, ← hsame]

/-- The ways in which binding to `address` can go, with what they leave, what
they result in and what they tell. -/
inductive Binding (env : Services) (address : String) (r : Registration) :
    Step (Except Fault Client) → Prop where
  | kept {c : Client} (hclient : r.client = some c)
      (haddress : c.address = address) :
      Binding env address r ⟨r.noted address, .ok c, []⟩
  | shut (hother : ∀ c, r.client = some c → c.address ≠ address)
      (hclosed : r.closed = true) :
      Binding env address r ⟨r.noted address,
        .error (.node ("Registration of node " ++ r.name ++ " is closed")), []⟩
  | refused {e : Fault} (hother : ∀ c, r.client = some c → c.address ≠ address)
      (hopen : r.closed = false)
      (hmake : env.makeClient r.name address = .error e) :
      Binding env address r
        ⟨{ r.noted address with client := none, poller := none }, .error e,
          r.stopped ++ [.bindAsked r.name address]⟩
  | stranded (hother : ∀ c, r.client = some c → c.address ≠ address)
      (hopen : r.closed = false)
      (hmake : env.makeClient r.name address = .ok ())
      (hruntime : env.hasRuntime = false) :
      Binding env address r
        ⟨{ r.noted address with client := none, poller := none },
          .error
            (.node ("No async runtime to poll events of node " ++ r.name)),
          r.stopped ++ [.bindAsked r.name address]⟩
  | made {begun done : LogLine}
      (hother : ∀ c, r.client = some c → c.address ≠ address)
      (hopen : r.closed = false)
      (hmake : env.makeClient r.name address = .ok ())
      (hruntime : env.hasRuntime = true) :
      Binding env address r
        ⟨{ r.noted address with
            client := some ⟨address, env.serial⟩,
            poller :=
              some (Poller.start env.serial address env.polling env.timer) },
          .ok ⟨address, env.serial⟩,
          r.stopped ++ [.bindAsked r.name address, .journal begun,
            .pollerStarted env.serial address, .journal done]⟩

/-- Binding where no client has the address yet. -/
theorem binding_of_other {address : String}
    (hother : ∀ c, r.client = some c → c.address ≠ address) :
    Binding env address r (r.bind env address) := by
  have hbind : r.bind env address
      = if r.closed then
          ⟨r.noted address,
            .error (.node ("Registration of node " ++ r.name ++ " is closed")),
            []⟩
        else
          let s := attach env address
            { r.noted address with client := none, poller := none }
          { s with effects := r.stopped ++ s.effects } := by
    unfold bind
    rw [noteAddress_eq]
    dsimp only
    rw [stopPoller_eq]
    cases hclient : r.client with
    | none =>
      rw [(noted_client r address).trans hclient]
      rfl
    | some c =>
      rw [(noted_client r address).trans hclient]
      dsimp only
      rw [if_neg (hother c hclient)]
      rfl
  rw [hbind]
  split
  case isTrue hclosed => exact .shut hother hclosed
  case isFalse hopen =>
    have hopen : r.closed = false := by simpa using hopen
    unfold attach
    dsimp only
    split
    case h_1 e hmake => exact .refused hother hopen hmake
    case h_2 hmake =>
      split
      case isTrue hruntime => exact .made hother hopen hmake hruntime
      case isFalse hruntime =>
        exact .stranded hother hopen hmake (by simpa using hruntime)

/-- Binding goes in one of these ways, in the order in which the address, the
flag and the two failures are looked at. -/
theorem binding_of_bind (env : Services) (address : String)
    (r : Registration) :
    Binding env address r (r.bind env address) := by
  cases hclient : r.client with
  | none =>
    refine binding_of_other fun c hc => ?_
    rw [hclient] at hc
    cases hc
  | some c =>
    by_cases haddress : c.address = address
    · have hbind : r.bind env address = ⟨r.noted address, .ok c, []⟩ := by
        unfold bind
        dsimp only
        rw [noteAddress_eq, (noted_client r address).trans hclient]
        dsimp only
        rw [if_pos haddress]
      rw [hbind]
      exact .kept hclient haddress
    · refine binding_of_other fun d hd => ?_
      rw [hclient] at hd
      cases hd
      exact haddress

/-- Binding writes client and poller, and notes the address. -/
theorem Binding.state_eq {address : String} {s : Step (Except Fault Client)}
    (h : Binding env address r s) :
    ∃ client poller, s.state = { r.noted address with client, poller } := by
  cases h with
  | kept | shut => exact ⟨_, _, rfl⟩
  | refused | stranded => exact ⟨none, none, rfl⟩
  | made => exact ⟨_, _, rfl⟩

-- ================================================= letting go of a client

/-- Unbinding leaves neither client nor poller and stops the poller. -/
theorem unbind_eq (r : Registration) :
    ∃ lines : List LogLine, r.unbind
      = ({ r with client := none, poller := none },
          r.stopped ++ lines.map .journal) := by
  unfold unbind
  rw [stopPoller_eq]
  dsimp only
  split
  case isTrue => exact ⟨[_], rfl⟩
  case isFalse => exact ⟨[], rfl⟩

/-- Closing leaves neither client nor poller and stops the poller. -/
theorem teardown_eq (r : Registration) :
    r.teardown
      = ⟨{ r with client := none, poller := none, closed := true }, (),
          r.stopped⟩ := by
  unfold teardown
  rw [stopPoller_eq]

-- ================================================= binding after an edit

/-- The ways in which binding can go after an edit, by the address that the
edit left. -/
inductive Rebinding (env : Services) (r : Registration) :
    Step (Except Fault Unit) → Prop where
  | shut {address : String} (haddress : r.draft.address = some address)
      (hclosed : r.closed = true) : Rebinding env r ⟨r, .ok (), []⟩
  | bound {address : String} {s : Step (Except Fault Client)}
      (haddress : r.draft.address = some address) (hopen : r.closed = false)
      (hbinding : Binding env address r s) :
      Rebinding env r ⟨s.state, s.result.map fun _ => (), s.effects⟩
  | unbound {lines : List LogLine} (haddress : r.draft.address = none) :
      Rebinding env r ⟨{ r with client := none, poller := none }, .ok (),
        r.stopped ++ lines.map .journal⟩

/-- So does binding after an edit. -/
theorem rebinding_of_rebind (env : Services) (r : Registration) :
    Rebinding env r (r.rebind env) := by
  unfold rebind
  split
  case h_1 address haddress =>
    split
    case isTrue hclosed => exact .shut haddress hclosed
    case isFalse hopen =>
      exact .bound haddress (by simpa using hopen)
        (binding_of_bind env address r)
  case h_2 haddress =>
    obtain ⟨lines, hunbind⟩ := unbind_eq r
    rw [hunbind]
    exact .unbound haddress

/-- Binding after an edit writes client and poller and no more: the address
was written by the edit. -/
theorem rebind_state (env : Services) (r : Registration) :
    ∃ client poller, (r.rebind env).state = { r with client, poller } := by
  generalize hs : r.rebind env = s
  have hrebinding : Rebinding env r s := hs ▸ rebinding_of_rebind env r
  cases hrebinding with
  | shut => exact ⟨_, _, rfl⟩
  | bound haddress _ hbinding =>
    obtain ⟨client, poller, hstate⟩ := hbinding.state_eq
    rw [hstate, noted_of_eq haddress]
    exact ⟨client, poller, rfl⟩
  | unbound => exact ⟨none, none, rfl⟩

-- ================================================================ edits

/-- The draft that an edit gets to see: what it says about being online holds
at that moment. -/
def shown (now : Instant) (r : Registration) : Draft :=
  { r.draft with on := r.isOn now }

/-- A registration whose draft is edited, with the online flag kept and no
snapshot at hand. -/
def edited (now : Instant) (edit : Draft → Draft) (r : Registration) :
    Registration :=
  { r with
    draft := { edit (r.shown now) with on := r.isOn now }, cache := none }

theorem wires_tell (event : Option LifecycleEvent) :
    (tell event).filter Effect.wires = [] := by
  cases event <;> rfl

/-- What an edit tells besides its binding: the changes of liveness that the
two looks see, a changed snapshot, and changed health. -/
def notices (env : Services) (edit : Draft → Draft) (r : Registration) :
    List Effect :=
  let (_, old, before) := r.refresh env.now
  let (left, current, after) :=
    ((r.edited env.now edit).rebind env).state.refresh env.later
  tell before ++ tell after
    ++ (if old == current then []
        else [updateEvent left.name (some old) current])
    ++ (if (edit (r.shown env.now)).health != r.draft.health then
          [.health ⟨left.name, left.cluster, left.draft.health⟩]
        else [])

theorem wires_notices (env : Services) (edit : Draft → Draft)
    (r : Registration) :
    (r.notices env edit).filter Effect.wires = [] := by
  unfold notices
  simp only [List.filter_append, wires_tell, List.nil_append]
  split <;> split <;> rfl

/-- An edit that is granted: the edited draft is bound again, a snapshot is
taken of it, and besides what the binding tells there are only notices. -/
theorem mutate_eq (edit : Draft → Draft)
    (hgranted : r.checkUpdate env caller = .ok ()) :
    r.mutate env caller edit
      = ⟨(((r.edited env.now edit).rebind env).state.refresh env.later).1,
          ((r.edited env.now edit).rebind env).result,
          ((r.edited env.now edit).rebind env).effects
            ++ r.notices env edit⟩ := by
  unfold mutate notices
  rw [hgranted]
  dsimp only
  rw [refresh_state env.now r]
  simp only [List.append_assoc]
  rfl

/-- The registration behind an edit that is granted. -/
theorem mutate_state (edit : Draft → Draft)
    (hgranted : r.checkUpdate env caller = .ok ()) :
    ∃ client poller, (r.mutate env caller edit).state
      = { r with
          draft := { edit (r.shown env.now) with on := r.isOn env.later },
          cache := some ({ edit (r.shown env.now) with
            on := r.isOn env.later }.build r.name),
          client, poller } := by
  obtain ⟨client, poller, hrebind⟩ := rebind_state env (r.edited env.now edit)
  rw [mutate_eq edit hgranted]
  dsimp only
  rw [hrebind, refresh_state, refresh_info env.later (fresh_of_cache rfl)]
  exact ⟨client, poller, rfl⟩

/-- The registration behind an edit that was granted and broke off: what was
edited stays, and so does the snapshot from before. -/
theorem breakOff_state (edit : Draft → Draft)
    (hgranted : r.checkUpdate env caller = .ok ()) :
    (r.breakOff env caller edit).state
      = { r with draft := edit (r.shown env.now),
                 cache := some (r.refresh env.now).2.1 } := by
  unfold breakOff
  rw [hgranted]
  dsimp only
  rw [refresh_state]
  rfl

/-- The registration behind a move to another cluster. -/
theorem setCluster_state {cluster : Option String}
    (hmoved : r.draft.cluster ≠ cluster) :
    (r.setCluster env cluster).state
      = { r with
          draft := { r.draft with cluster, on := r.isOn env.now },
          cache := some ({ r.draft with
            cluster, on := r.isOn env.now }.build r.name) } := by
  unfold setCluster
  rw [if_neg hmoved]
  dsimp only
  rw [refresh_state, refresh_info env.now (fresh_of_cache rfl)]
  rfl

/-- Only a heartbeat writes the lease and its length, and it writes no
more. -/
theorem perform_state (env : Services) (q : Request) (r : Registration) :
    (∃ secs lease ttl, q = .heartbeat secs
        ∧ (q.perform env r).state = { r with lease, ttl })
      ∨ ∃ draft cache client poller closed,
          (q.perform env r).state
            = { r with draft, cache, client, poller, closed } := by
  rcases q.perform_denied_or env r with hdenied | hcheck
  · rw [hdenied]
    exact .inr ⟨_, _, _, _, _, rfl⟩
  cases q with
  | heartbeat secs =>
    obtain ⟨⟨lease, ttl, hstate⟩, -⟩ := heartbeat_eq env secs.toNat r
    refine .inl ⟨secs, lease, ttl, rfl, ?_⟩
    rw [Request.perform, Step.discard_state, hstate]
  | snapshot =>
    right
    show ∃ _ _ _ _ _, (r.refresh env.now).1 = _
    rw [refresh_state]
    exact ⟨_, _, _, _, _, rfl⟩
  | updateHealth caller report =>
    right
    show ∃ _ _ _ _ _, (r.updateHealth env caller report).state = _
    unfold updateHealth
    rw [hcheck caller rfl]
    exact ⟨_, _, _, _, _, rfl⟩
  | mutate caller edit =>
    obtain ⟨client, poller, hstate⟩ := mutate_state edit (hcheck caller rfl)
    exact .inr ⟨_, _, _, _, _, hstate⟩
  | breakOff caller edit =>
    exact .inr ⟨_, _, _, _, _, breakOff_state edit (hcheck caller rfl)⟩
  | setCluster cluster =>
    right
    show ∃ _ _ _ _ _, (r.setCluster env cluster).state = _
    by_cases hsame : r.draft.cluster = cluster
    · unfold setCluster
      rw [if_pos hsame]
      exact ⟨_, _, _, _, _, rfl⟩
    · exact ⟨_, _, _, _, _, setCluster_state hsame⟩
  | bind address =>
    obtain ⟨client, poller, hstate⟩ := (binding_of_bind env address r).state_eq
    exact .inr ⟨_, _, _, _, _, hstate⟩
  | teardown =>
    right
    show ∃ _ _ _ _ _, r.teardown.state = _
    rw [teardown_eq]
    exact ⟨_, _, _, _, _, rfl⟩

/-- No request changes the name. -/
theorem perform_name (env : Services) (q : Request) (r : Registration) :
    (q.perform env r).state.name = r.name := by
  rcases perform_state env q r with ⟨_, _, _, -, hstate⟩
    | ⟨_, _, _, _, _, hstate⟩
  · rw [hstate]
  · rw [hstate]

end Registration

end Fleetkeeper
