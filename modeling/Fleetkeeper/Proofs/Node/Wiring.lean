/-
Clients and pollers: which pollers run, and what a request does to the client
and the poller of its registration.

Which pollers run is not a matter of registrations. It is read off what was
told (`running`): each poller from the moment it is started until it is
stopped, as the client that it polls. That the registration knows the same is
a law, not a definition.

`Wiring` says what any request can do: leave client and poller alone, take
both away, or take both away and make new ones. In each case it says all that
is told of it. Only an open registration gets new ones; and only closing makes
a difference to being closed.
-/
import Fleetkeeper.Proofs.Node.Steps

namespace Fleetkeeper

-- ====================================================== pollers that run

/-- The client that a poller polls. -/
def Poller.client (p : Poller) : Client := ⟨p.address, p.serial⟩

/-- The pollers that run behind an effect, in the order they were started. -/
def Effect.onPollers (going : List Client) : Effect → List Client
  | pollerStarted serial address => going ++ [⟨address, serial⟩]
  | pollerStopped serial => going.filter fun c => c.serial ≠ serial
  | bindAsked _ _ | lifecycle _ | health _ | log _ | journal _ => going

/-- The pollers that run after all that was told. -/
def running (told : List Effect) : List Client :=
  told.foldl Effect.onPollers []

theorem running_append (told more : List Effect) :
    running (told ++ more) = more.foldl Effect.onPollers (running told) := by
  unfold running
  rw [List.foldl_append]

/-- Effects that do not wire change nothing about what runs. -/
theorem foldl_wires (told : List Effect) (going : List Client) :
    (told.filter Effect.wires).foldl Effect.onPollers going
      = told.foldl Effect.onPollers going := by
  induction told generalizing going with
  | nil => rfl
  | cons e rest ih =>
    cases e <;> exact ih _

namespace Registration

variable {env : Services} {r s : Registration} {told : List Effect}

-- ==================================================== client and poller

/-- The poller of a registration polls its client, so that there are both or
neither, and there are none once it is closed. -/
structure Wired (r : Registration) : Prop where
  polls : r.poller.map Poller.client = r.client
  shut : r.closed = true → r.client = none

theorem Wired.poller_none (h : r.Wired) (hclient : r.client = none) :
    r.poller = none := by
  have hpolls := h.polls
  rw [hclient] at hpolls
  simpa using hpolls

theorem Wired.opened (h : r.Wired) {c : Client} (hclient : r.client = some c) :
    r.closed = false := by
  cases hclosed : r.closed with
  | false => rfl
  | true =>
    rw [h.shut hclosed] at hclient
    cases hclient

/-- The pollers of others: those that have not the serial of the client. -/
def others (r : Registration) (going : List Client) : List Client :=
  going.filter fun c => r.client.map Client.serial ≠ some c.serial

/-- Stopping the poller leaves those of others. -/
theorem foldl_stopped (h : r.Wired) (going : List Client) :
    r.stopped.foldl Effect.onPollers going = r.others going := by
  unfold stopped others
  rw [← h.polls]
  cases r.poller with
  | none => exact (List.filter_eq_self.2 fun _ _ => rfl).symm
  | some p => simp [Effect.onPollers, Poller.client, eq_comm]

-- ============================================================ the wiring

/-- What a request can do to client and poller, and what it tells of it. A
poller that is kept may have moved on meanwhile. -/
inductive Wiring (env : Services) (r s : Registration) (told : List Effect) :
    Prop where
  | kept (hclient : s.client = r.client)
      (hpoller : s.poller.map Poller.client = r.poller.map Poller.client)
      (hclosed : s.closed = r.closed) (htold : told.filter Effect.wires = [])
  | severed (asked : Option String)
      (hclient : s.client = none) (hpoller : s.poller = none)
      (hclosed : r.closed = true → s.closed = true)
      (htold : told.filter Effect.wires
        = r.stopped ++ asked.toList.map (.bindAsked r.name))
  | renewed (address : String)
      (hopen : r.closed = false) (hclosed : s.closed = false)
      (hclient : s.client = some ⟨address, env.serial⟩)
      (hpoller : s.poller
        = some (Poller.start env.serial address env.polling env.timer))
      (htold : told.filter Effect.wires
        = r.stopped
          ++ [.bindAsked r.name address, .pollerStarted env.serial address])

/-- Being closed is for good. -/
theorem Wiring.closed (h : Wiring env r s told) (hr : r.closed = true) :
    s.closed = true := by
  cases h with
  | kept _ _ hclosed _ => rw [hclosed, hr]
  | severed _ _ _ hclosed _ => exact hclosed hr
  | renewed _ hopen _ _ _ _ =>
    rw [hr] at hopen
    cases hopen

/-- The poller polls the client again. -/
theorem Wiring.wired (h : Wiring env r s told) (hr : r.Wired) : s.Wired := by
  cases h with
  | kept hclient hpoller hclosed _ =>
    refine ⟨?_, fun hshut => ?_⟩
    · rw [hclient, hpoller, hr.polls]
    · rw [hclient, hr.shut (hclosed ▸ hshut)]
  | severed _ hclient hpoller _ _ =>
    refine ⟨?_, fun _ => hclient⟩
    rw [hclient, hpoller]
    rfl
  | renewed _ _ hclosed hclient hpoller _ =>
    refine ⟨?_, fun hshut => ?_⟩
    · rw [hclient, hpoller]
      rfl
    · rw [hclosed] at hshut
      cases hshut

/-- What runs behind a request: what ran before it, or the pollers of others
and that of the new client, if there is one. -/
theorem Wiring.running_eq (h : Wiring env r s told) (hr : r.Wired)
    (going : List Client) :
    (s.client = r.client ∧ told.foldl Effect.onPollers going = going)
      ∨ ((∀ c, s.client = some c → c.serial = env.serial
            ∧ .pollerStarted c.serial c.address ∈ told)
        ∧ told.foldl Effect.onPollers going
          = r.others going ++ s.client.toList) := by
  -- Less the notices, all that is told is known in each case.
  rw [← foldl_wires]
  cases h with
  | kept hclient _ _ htold =>
    rw [htold]
    exact .inl ⟨hclient, rfl⟩
  | severed asked hclient _ _ htold =>
    refine .inr ⟨fun c hc => ?_, ?_⟩
    · rw [hclient] at hc
      cases hc
    · rw [htold, List.foldl_append, foldl_stopped hr, hclient]
      cases asked <;> simp [Effect.onPollers]
  | renewed address _ _ hclient _ htold =>
    refine .inr ⟨fun c hc => ?_, ?_⟩
    · rw [hclient] at hc
      cases hc
      have hmem : Effect.pollerStarted env.serial address
          ∈ told.filter Effect.wires := by
        rw [htold]
        simp
      exact ⟨rfl, (List.mem_filter.1 hmem).1⟩
    · rw [htold, List.foldl_append, foldl_stopped hr, hclient]
      rfl

-- ======================================================= of each request

/-- Everything that stopping a poller tells has to do with pollers. -/
theorem wires_stopped (r : Registration) :
    r.stopped.filter Effect.wires = r.stopped := by
  unfold stopped
  cases r.poller <;> rfl

/-- What comes behind an operation and leaves client and poller alone can be
taken with it. -/
theorem Wiring.trailed {s' : Registration} {notices : List Effect}
    (h : Wiring env r s told) (hclient : s'.client = s.client)
    (hpoller : s'.poller = s.poller) (hclosed : s'.closed = s.closed)
    (hnotices : notices.filter Effect.wires = []) :
    Wiring env r s' (told ++ notices) := by
  have hfilter : (told ++ notices).filter Effect.wires
      = told.filter Effect.wires := by
    rw [List.filter_append, hnotices, List.append_nil]
  cases h with
  | kept hc hp hd htold =>
    exact .kept (hclient.trans hc) (by rw [hpoller, hp]) (hclosed.trans hd)
      (hfilter.trans htold)
  | severed asked hc hp hd htold =>
    exact .severed asked (hclient.trans hc) (hpoller.trans hp)
      (fun hr => hclosed.trans (hd hr)) (hfilter.trans htold)
  | renewed address hopen hd hc hp htold =>
    exact .renewed address hopen (hclosed.trans hd) (hclient.trans hc)
      (hpoller.trans hp) (hfilter.trans htold)

/-- However a binding ends, it keeps client and poller, drops both, or makes
both. -/
theorem wiring_of_binding {address : String}
    {step : Step (Except Fault Client)} (h : Binding env address r step) :
    Wiring env r step.state step.effects := by
  cases h with
  | kept | shut => exact .kept rfl rfl rfl rfl
  | refused | stranded =>
    refine .severed (some address) rfl rfl id ?_
    rw [List.filter_append, wires_stopped]
    rfl
  | made _ hopen =>
    refine .renewed address hopen hopen rfl rfl ?_
    rw [List.filter_append, wires_stopped]
    rfl

/-- Rebinding wires as binding does, or unwires, or leaves the wires alone. -/
theorem wiring_of_rebinding {step : Step (Except Fault Unit)}
    (h : Rebinding env r step) : Wiring env r step.state step.effects := by
  cases h with
  | shut => exact .kept rfl rfl rfl rfl
  | bound _ _ hbinding => exact wiring_of_binding hbinding
  | @unbound lines =>
    refine .severed none rfl rfl id ?_
    have hlines : (lines.map Effect.journal).filter Effect.wires = [] := by
      simp [Effect.wires]
    rw [List.filter_append, wires_stopped, hlines]
    rfl

/-- Closing, which can be done again and again. -/
theorem wiring_of_teardown (env : Services) (r : Registration) :
    Wiring env r r.teardown.state r.teardown.effects := by
  rw [teardown_eq]
  refine .severed none rfl rfl (fun _ => rfl) ?_
  dsimp only
  rw [wires_stopped]
  exact (List.append_nil _).symm

/-- Every request does one of these things. -/
theorem wiring_of_perform (env : Services) (q : Request) (r : Registration) :
    Wiring env r (q.perform env r).state (q.perform env r).effects := by
  rcases q.perform_denied_or env r with hdenied | hcheck
  · rw [hdenied]
    exact .kept rfl rfl rfl rfl
  cases q with
  | heartbeat secs =>
    obtain ⟨⟨lease, ttl, hstate⟩, heffects⟩ := heartbeat_eq env secs.toNat r
    rw [Request.perform, Step.discard_state, Step.discard_effects,
      hstate, heffects]
    exact .kept rfl rfl rfl rfl
  | snapshot =>
    show Wiring env r (r.refresh env.now).1 (tell (r.refresh env.now).2.2)
    refine .kept ?_ ?_ ?_ (wires_tell _) <;> rw [refresh_state]
  | updateHealth caller report =>
    show Wiring env r (r.updateHealth env caller report).state
      (r.updateHealth env caller report).effects
    unfold updateHealth
    rw [hcheck caller rfl]
    exact .kept rfl rfl rfl rfl
  | mutate caller edit =>
    -- An edit leaves name, client and poller: this is the wiring of `r` too.
    have hrebind : Wiring env r ((r.edited env.now edit).rebind env).state
        ((r.edited env.now edit).rebind env).effects := by
      cases wiring_of_rebinding
        (rebinding_of_rebind env (r.edited env.now edit)) with
      | kept hc hp hd htold => exact .kept hc hp hd htold
      | severed asked hc hp hd htold => exact .severed asked hc hp hd htold
      | renewed address hopen hd hc hp htold =>
        exact .renewed address hopen hd hc hp htold
    show Wiring env r (r.mutate env caller edit).state
      (r.mutate env caller edit).effects
    rw [mutate_eq edit (hcheck caller rfl)]
    refine hrebind.trailed ?_ ?_ ?_ (wires_notices env edit r) <;>
      rw [refresh_state]
  | breakOff caller edit =>
    have hstate := breakOff_state edit (hcheck caller rfl)
    show Wiring env r (r.breakOff env caller edit).state
      (r.breakOff env caller edit).effects
    rw [hstate]
    refine .kept rfl rfl rfl ?_
    unfold breakOff
    rw [hcheck caller rfl]
    rfl
  | setCluster cluster =>
    show Wiring env r (r.setCluster env cluster).state
      (r.setCluster env cluster).effects
    by_cases hsame : r.draft.cluster = cluster
    · unfold setCluster
      rw [if_pos hsame]
      exact .kept rfl rfl rfl rfl
    · rw [setCluster_state hsame]
      refine .kept rfl rfl rfl ?_
      unfold setCluster
      rw [if_neg hsame]
      dsimp only
      rw [List.filter_append, wires_tell]
      rfl
  | bind address => exact wiring_of_binding (binding_of_bind env address r)
  | teardown => exact wiring_of_teardown env r

end Registration

end Fleetkeeper
