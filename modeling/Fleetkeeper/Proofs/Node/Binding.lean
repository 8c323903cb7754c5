/-
A registration is bound or it is not: client and poller come and go together,
and no request finds or leaves one without the other.

# The invariant

`Bound` holds a registration against all that it has told so far. Its poller
polls its client; a closed registration has neither; and the pollers that run
are the one of its client, or none. Every request keeps it, edits that break
off included, because every request does one of three things to client and
poller (`wiring_of_perform`).

The address is a law apart, `Addressed`: a client is at the address that the
draft has. Every binding brings it about, from whatever was there before. An
edit that breaks off loses it: it has written the address, and the binding
that would have followed does not take place, so that the client stays where
it was (`breakOff_strands_client`). So the law is about runs in which such
edits leave the address alone (`Request.Keeps`).

# What follows

Being closed is for good, and nothing can be bound then (`Ended`). A binding
that fails leaves nothing behind, with the old client gone before the new one
is asked for. Where the client is at the right address already, binding is no
work at all (`Undisturbed`).
-/
import Fleetkeeper.Proofs.Node.Wiring

namespace Fleetkeeper.Registration

variable {env : Services} {r : Registration} {told : List Effect}

-- ========================================================= the invariant

/-- A registration that has told so much has its client and poller in
order. -/
structure Bound (r : Registration) (told : List Effect) : Prop where
  wired : r.Wired
  runs : running told = r.client.toList

theorem bound_ofInfo (info : NodeInfo) : (ofInfo info).Bound [] :=
  ⟨⟨rfl, fun _ => rfl⟩, rfl⟩

/-- Where only its own poller runs, there are no pollers of others. -/
theorem others_self (r : Registration) : r.others r.client.toList = [] := by
  unfold others
  cases r.client with
  | none => rfl
  | some c => simp

/-- Every request keeps client and poller in order. -/
theorem bound_perform (env : Services) (q : Request) (h : r.Bound told) :
    (q.perform env r).state.Bound (told ++ (q.perform env r).effects) := by
  have hwiring := wiring_of_perform env q r
  refine ⟨hwiring.wired h.wired, ?_⟩
  rw [running_append, h.runs]
  rcases hwiring.running_eq h.wired r.client.toList with
    ⟨hclient, hrun⟩ | ⟨-, hrun⟩
  · rw [hrun, hclient]
  · rw [hrun, others_self, List.nil_append]

theorem bound_performAll (run : Run) (info : NodeInfo) :
    (performAll run (ofInfo info)).state.Bound
      (performAll run (ofInfo info)).effects := by
  have hrun := performAll_of_perform (fun _ _ => True)
    (fun env q _ h => bound_perform env q h) run (fun _ _ => trivial) []
    (bound_ofInfo info)
  exact hrun

-- =========================================================== the address

/-- The client, if any, is at the address of the node. -/
def Addressed (r : Registration) : Prop :=
  ∀ c, r.client = some c → r.address = some c.address

theorem addressed_of_client (h : r.client = none) : r.Addressed := by
  intro c hc
  rw [h] at hc
  cases hc

/-- Binding leaves the client at the address of the node. -/
theorem addressed_of_binding {address : String}
    {s : Step (Except Fault Client)} (h : Binding env address r s)
    (hr : r.Wired) : s.state.Addressed := by
  cases h with
  | @kept c hclient haddress =>
    intro d hd
    have hcd : c = d := Option.some.inj (hclient.symm.trans hd)
    rw [← hcd, haddress]
    rfl
  | shut _ hclosed => exact addressed_of_client (hr.shut hclosed)
  | refused | stranded => exact addressed_of_client rfl
  | made =>
    intro d hd
    cases hd
    rfl

/-- So does binding after an edit, whatever the edit did to the address. -/
theorem addressed_of_rebinding {s : Step (Except Fault Unit)}
    (h : Rebinding env r s) (hr : r.Wired) : s.state.Addressed := by
  cases h with
  | shut _ hclosed => exact addressed_of_client (hr.shut hclosed)
  | bound _ _ hbinding => exact addressed_of_binding hbinding hr
  | unbound => exact addressed_of_client rfl

/-- The registration that an edit leaves is wired as the one before. -/
theorem Wired.edited (hr : r.Wired) (now : Instant) (edit : Draft → Draft) :
    (r.edited now edit).Wired :=
  ⟨hr.polls, hr.shut⟩

/-- An edit that is granted leaves the client at the address of the node,
whatever it did to the address, and wherever the client was. -/
theorem addressed_mutate {caller : Caller} (edit : Draft → Draft)
    (hr : r.Wired) (hgranted : r.checkUpdate env caller = .ok ()) :
    (r.mutate env caller edit).state.Addressed := by
  have hrebind : ((r.edited env.now edit).rebind env).state.Addressed :=
    addressed_of_rebinding (rebinding_of_rebind _ _) (hr.edited env.now edit)
  rw [mutate_eq edit hgranted]
  dsimp only
  rw [refresh_state]
  exact hrebind

/-- Every request leaves the client at the address of the node, edits
excepted that change the address and break off. -/
theorem addressed_perform {q : Request} (hq : q.Keeps Draft.address)
    (hr : r.Wired) (h : r.Addressed) :
    (q.perform env r).state.Addressed := by
  rcases q.perform_denied_or env r with hdenied | hcheck
  · rw [hdenied]
    exact h
  cases q with
  | heartbeat secs =>
    obtain ⟨⟨lease, ttl, hstate⟩, -⟩ := heartbeat_eq env secs.toNat r
    rw [Request.perform, Step.discard_state, hstate]
    exact h
  | snapshot =>
    show (r.refresh env.now).1.Addressed
    rw [refresh_state]
    exact h
  | updateHealth caller report =>
    show (r.updateHealth env caller report).state.Addressed
    unfold updateHealth
    rw [hcheck caller rfl]
    exact h
  | mutate caller edit => exact addressed_mutate edit hr (hcheck caller rfl)
  | breakOff caller edit =>
    intro c hclient
    rw [Request.perform, Step.discard_state,
      breakOff_state edit (hcheck caller rfl)] at hclient ⊢
    exact (hq (r.shown env.now)).trans (h c hclient)
  | setCluster cluster =>
    show (r.setCluster env cluster).state.Addressed
    by_cases hsame : r.draft.cluster = cluster
    · unfold setCluster
      rw [if_pos hsame]
      exact h
    · rw [setCluster_state hsame]
      exact h
  | bind address =>
    exact addressed_of_binding (binding_of_bind env address r) hr
  | teardown =>
    show r.teardown.state.Addressed
    rw [teardown_eq]
    exact addressed_of_client rfl

/-- Where edits that break off have left the address alone the client is at
the address of the node. -/
theorem addressed_performAll {run : Run} (info : NodeInfo)
    (hkeeps : ∀ x ∈ run, x.2.Keeps Draft.address) :
    (performAll run (ofInfo info)).state.Addressed := by
  have hrun := performAll_of_perform (P := fun r _ => r.Wired ∧ r.Addressed)
    (fun _ q => q.Keeps Draft.address)
    (fun env q hq h => ⟨(wiring_of_perform env q _).wired h.1,
      addressed_perform hq h.1 h.2⟩)
    run hkeeps [] ⟨(bound_ofInfo info).wired, addressed_of_client rfl⟩
  exact hrun.2

-- ========================================================== being closed

/-- Neither a client nor a poller. -/
def Unbound (r : Registration) : Prop := r.client = none ∧ r.poller = none

/-- Closed, without client and poller, and not to be bound again. -/
structure Ended (r : Registration) : Prop where
  closed : r.closed = true
  unbound : r.Unbound
  refuses : ∀ env address, ∃ e, (r.bind env address).result = .error e

/-- A wired registration that is closed has come to its end. -/
theorem Wired.ended (hr : r.Wired) (hclosed : r.closed = true) : r.Ended := by
  have hclient := hr.shut hclosed
  refine ⟨hclosed, ⟨hclient, hr.poller_none hclient⟩, fun env address => ?_⟩
  generalize hs : r.bind env address = step
  have hbinding : Binding env address r step :=
    hs ▸ binding_of_bind env address r
  cases hbinding with
  | kept hc =>
    -- There is no client whose address it could be.
    rw [hclient] at hc
    cases hc
  | shut => exact ⟨_, rfl⟩
  | refused _ hopen | stranded _ hopen | made _ hopen =>
    rw [hclosed] at hopen
    cases hopen

theorem ended_performAll (later : Run) (hr : r.Wired)
    (hclosed : r.closed = true) :
    (performAll later r).state.Ended := by
  have hrun :=
    performAll_of_perform (P := fun r _ => r.Wired ∧ r.closed = true)
      (fun _ _ => True)
      (fun env q _ h => ⟨(wiring_of_perform env q _).wired h.1,
        (wiring_of_perform env q _).closed h.2⟩)
      later (fun _ _ => trivial) [] ⟨hr, hclosed⟩
  exact hrun.1.ended hrun.2

-- ==================================================== bindings that fail

/-- A binding that fails leaves nothing behind. -/
theorem unbound_of_binding {address : String} {e : Fault}
    {s : Step (Except Fault Client)} (h : Binding env address r s)
    (hr : r.Wired) (hfails : s.result = .error e) : s.state.Unbound := by
  cases h with
  | kept | made => cases hfails
  | shut _ hclosed =>
    have hclient := hr.shut hclosed
    exact ⟨hclient, hr.poller_none hclient⟩
  | refused | stranded => exact ⟨rfl, rfl⟩

/-- So does an edit whose binding fails; an edit without an address, or of a
closed registration, does not fail here. -/
theorem unbound_of_rebinding {e : Fault} {s : Step (Except Fault Unit)}
    (h : Rebinding env r s) (hr : r.Wired) (hfails : s.result = .error e) :
    s.state.Unbound := by
  cases h with
  | shut | unbound => cases hfails
  | @bound _ s _ _ hbinding =>
    dsimp only at hfails
    cases hresult : s.result with
    | ok c =>
      rw [hresult] at hfails
      cases hfails
    | error => exact unbound_of_binding hbinding hr hresult

/-- An edit whose binding fails leaves nothing behind. -/
theorem unbound_of_mutate {caller : Caller} {edit : Draft → Draft} {e : Fault}
    (hr : r.Wired) (hgranted : r.checkUpdate env caller = .ok ())
    (hfails : (r.mutate env caller edit).result = .error e) :
    (r.mutate env caller edit).state.Unbound := by
  rw [mutate_eq edit hgranted] at hfails ⊢
  have hrebind : ((r.edited env.now edit).rebind env).state.Unbound :=
    unbound_of_rebinding (rebinding_of_rebind _ _)
      (hr.edited env.now edit) hfails
  dsimp only
  rw [refresh_state]
  exact hrebind

-- ============================================== bindings that do nothing

/-- What leaves client and poller as they are, and asks for none. -/
structure Undisturbed {α : Type} (r : Registration) (s : Step α) : Prop where
  client : s.state.client = r.client
  poller : s.state.poller = r.poller
  quiet : s.effects.filter Effect.wires = []

/-- Binding the address of the client gives that client. -/
theorem bind_same {c : Client} (hclient : r.client = some c) :
    r.bind env c.address = ⟨r.noted c.address, .ok c, []⟩ := by
  generalize hs : r.bind env c.address = step
  have hbinding : Binding env c.address r step :=
    hs ▸ binding_of_bind env c.address r
  cases hbinding with
  | kept hd =>
    rw [hclient] at hd
    cases hd
    rfl
  | shut hother | refused hother | stranded hother | made hother =>
    exact absurd rfl (hother c hclient)

/-- An edit that leaves the address as it is leaves client and poller. -/
theorem undisturbed_of_mutate {c : Client} {caller : Caller}
    {edit : Draft → Draft} (hr : r.Wired) (haddressed : r.Addressed)
    (hclient : r.client = some c)
    (hsame : (edit (r.shown env.now)).address = r.address) :
    r.Undisturbed (r.mutate env caller edit) := by
  cases hcheck : r.checkUpdate env caller with
  | error e =>
    rw [mutate_denied edit hcheck]
    exact ⟨rfl, rfl, rfl⟩
  | ok =>
    have haddress : (r.edited env.now edit).draft.address
        = some c.address := by
      rw [← haddressed c hclient]
      exact hsame
    have hopen : (r.edited env.now edit).closed = false := hr.opened hclient
    have hrebind : (r.edited env.now edit).rebind env
        = ⟨r.edited env.now edit, .ok (), []⟩ := by
      have hbind : (r.edited env.now edit).bind env c.address
          = ⟨(r.edited env.now edit).noted c.address, .ok c, []⟩ :=
        bind_same hclient
      unfold rebind
      rw [haddress]
      dsimp only
      rw [if_neg (by simp [hopen]), hbind, noted_of_eq haddress]
      rfl
    rw [mutate_eq edit hcheck, hrebind]
    refine ⟨?_, ?_, wires_notices env edit r⟩
    · rw [refresh_state]
      rfl
    · rw [refresh_state]
      rfl

-- ============================================================== all of it

/-- Whatever has been asked of a registration: there is a client just where
there is a poller, and then the registration is open and that poller, which
polls that client, is the only one that was started and not stopped; once
closed the registration has come to its end; a binding that fails leaves it
unbound; a client whose address is bound again stays; and a binding, or an edit
that is granted, leaves the client at the address of the node. As long as edits
that broke off left the address alone, the client is there to begin with, and
stays where an edit leaves the address alone. -/
theorem binding_sound (info : NodeInfo) (run : Run) :
    let r := (performAll run (ofInfo info)).state
    let told := (performAll run (ofInfo info)).effects
    (r.client.isSome = true ↔ r.poller.isSome = true)
      ∧ (∀ c, r.client = some c →
          r.closed = false ∧ r.poller.map Poller.client = some c)
      ∧ running told = r.client.toList
      ∧ (r.closed = true → ∀ later, (performAll later r).state.Ended)
      ∧ (∀ env address e, (r.bind env address).result = .error e →
          (r.bind env address).state.Unbound)
      ∧ (∀ env caller edit e, r.checkUpdate env caller = .ok () →
          (r.mutate env caller edit).result = .error e →
          (r.mutate env caller edit).state.Unbound)
      ∧ (∀ c, r.client = some c → ∀ env,
          (r.bind env c.address).result = .ok c
            ∧ r.Undisturbed (r.bind env c.address))
      ∧ (∀ env address, (r.bind env address).state.Addressed)
      ∧ (∀ env caller edit, r.checkUpdate env caller = .ok () →
          (r.mutate env caller edit).state.Addressed)
      ∧ ((∀ x ∈ run, x.2.Keeps Draft.address) →
          ∀ c, r.client = some c → r.address = some c.address
            ∧ ∀ env caller edit, (edit (r.shown env.now)).address = r.address →
                r.Undisturbed (r.mutate env caller edit)) := by
  intro r told
  have hbound : r.Bound told := bound_performAll run info
  have hwired := hbound.wired
  refine ⟨?_, fun c hclient => ⟨hwired.opened hclient, hclient ▸ hwired.polls⟩,
    hbound.runs, fun hclosed later => ended_performAll later hwired hclosed,
    fun env address e =>
      unbound_of_binding (binding_of_bind env address r) hwired,
    fun env caller edit e => unbound_of_mutate hwired,
    fun c hclient env => ?_,
    fun env address =>
      addressed_of_binding (binding_of_bind env address r) hwired,
    fun env caller edit => addressed_mutate edit hwired,
    fun hkeeps c hclient => ?_⟩
  · rw [← hwired.polls, Option.isSome_map]
  · rw [bind_same hclient]
    exact ⟨rfl, rfl, rfl, rfl⟩
  · have haddressed : r.Addressed := addressed_performAll info hkeeps
    exact ⟨haddressed c hclient, fun env caller edit hsame =>
      undisturbed_of_mutate hwired haddressed hclient hsame⟩

/-- What a registration finds around it when the next binding has a serial. -/
def bindingAt (serial : Nat) : Services where
  now := ⟨0⟩
  later := ⟨0⟩
  serial := serial

/-- A node that is bound, and by an edit bound elsewhere; then somebody labels
it and breaks off. -/
def boundElsewhere : Run :=
  [(bindingAt 0, .bind "10.0.0.1:2375"),
   (bindingAt 1, .mutate .system (·.setAddress (some "10.0.0.2:2375"))),
   (bindingAt 2, .breakOff .system (·.label "zone" "a"))]

/-- Behind the edits there is the new client, at the address of the node; its
poller is the only one that runs, and binding there again changes nothing. -/
theorem binding_of_boundElsewhere :
    let r := (performAll boundElsewhere (ofInfo (.bare "n1"))).state
    let c : Client := ⟨"10.0.0.2:2375", 1⟩
    (∀ x ∈ boundElsewhere, x.2.Keeps Draft.address) ∧ r.client = some c
      ∧ running (performAll boundElsewhere (ofInfo (.bare "n1"))).effects = [c]
      ∧ r.address = some c.address
      ∧ r.Undisturbed (r.bind (bindingAt 3) c.address)
      ∧ r.Undisturbed
        (r.mutate (bindingAt 3) .system (·.label "zone" "b")) := by
  intro r c
  have hkeeps : ∀ x ∈ boundElsewhere, x.2.Keeps Draft.address := by
    simp [boundElsewhere, Request.Keeps, Draft.label]
  have hclient : r.client = some c := rfl
  obtain ⟨-, -, hruns, -, -, -, hagain, -, -, hstays⟩ :=
    binding_sound (.bare "n1") boundElsewhere
  obtain ⟨haddress, hedit⟩ := hstays hkeeps c hclient
  exact ⟨hkeeps, hclient, hruns, haddress, (hagain c hclient (bindingAt 3)).2,
    hedit (bindingAt 3) .system (·.label "zone" "b") rfl⟩

/-- A node that is bound, and an edit that gives it another address and breaks
off. -/
def boundAndBrokenOff : Run :=
  [(bindingAt 0, .bind "10.0.0.1:2375"),
   (bindingAt 1, .breakOff .system (·.setAddress (some "10.0.0.2:2375")))]

/-- The edit leaves the client, and the poller with it, at the address that
the node had before. An edit that then leaves the address as it is asks for a
new client, which takes the place of the old one. -/
theorem breakOff_strands_client :
    let r := (performAll boundAndBrokenOff (ofInfo (.bare "n1"))).state
    let c : Client := ⟨"10.0.0.1:2375", 0⟩
    let s := r.mutate (bindingAt 2) .system (·.label "zone" "a")
    r.client = some c ∧ r.poller.map Poller.client = some c
      ∧ r.address = some "10.0.0.2:2375" ∧ r.address ≠ some c.address
      ∧ s.state.address = r.address
      ∧ s.state.client = some ⟨"10.0.0.2:2375", 2⟩
      ∧ ¬ r.Undisturbed s := by
  refine ⟨rfl, rfl, rfl, ?_, rfl, rfl, fun h => ?_⟩
  · decide
  · have hclient : some (⟨"10.0.0.2:2375", 2⟩ : Client)
        = some ⟨"10.0.0.1:2375", 0⟩ := h.client
    revert hclient
    decide

end Fleetkeeper.Registration
