/-
Which requests leave a client and its poller alone, said by the requests and
not by what becomes of them: those that do not bind the registration to another
address, unbind it or close it.

At a registration, binding decides (`Request.Spares`): an edit that is granted
binds to whatever address it leaves, so it spares a client only where that is
the client's own, though the draft may have had another. At a storage, all
depends on the place. A request to another registration is no concern, and
neither is registering, even where it fails and closes what it has made: that
stands behind all others (`register_joined`).

What is not spared is not always lost, but then there is no poller or a new one
(`perform_binding`). So pollers that have ended by themselves do not come from
requests at all (`lively_asked`).
-/
import Fleetkeeper.Proofs.Node.Keeping
import Fleetkeeper.Proofs.Node.Registering

namespace Fleetkeeper

namespace Registration

variable {env : Services} {r s t : Registration} {q : Request} {c : Client}

-- ====================================================== of a registration

/-- The same client and the same poller, at the same phase. -/
structure SameBinding (r s : Registration) : Prop where
  client : s.client = r.client
  poller : s.poller = r.poller

theorem SameBinding.refl (r : Registration) : r.SameBinding r := ⟨rfl, rfl⟩

theorem SameBinding.trans (h : r.SameBinding s) (h' : s.SameBinding t) :
    r.SameBinding t :=
  ⟨h'.client.trans h.client, h'.poller.trans h.poller⟩

/-- Whether a request leaves a client where it is. -/
def Request.Spares (env : Services) (r : Registration) (c : Client) :
    Request → Prop
  | bind address => address = c.address
  | mutate caller edit =>
    r.checkUpdate env caller = .ok () →
      (edit (r.shown env.now)).address = some c.address
  | teardown => False
  | heartbeat _ | snapshot | updateHealth _ _ | breakOff _ _ | setCluster _ =>
    True

/-- Client and poller are as they were; or they were bound to another address
than this one, and there is no poller now or one that was just started. -/
inductive Rewiring (env : Services) (address : Option String)
    (r s : Registration) : Prop where
  | same (hsame : r.SameBinding s)
  | changed (hother : ∀ c, r.client = some c → address ≠ some c.address)
      (hpoller : ∀ p, s.poller = some p →
        ∃ serial address, p = .start serial address env.polling env.timer)

/-- Binding rewires to the address that is asked for, or not at all. -/
theorem rewiring_of_binding {address : String}
    {step : Step (Except Fault Client)} (h : Binding env address r step) :
    Rewiring env (some address) r step.state := by
  have hnamed (hother : ∀ c, r.client = some c → c.address ≠ address) :
      ∀ c, r.client = some c → some address ≠ some c.address :=
    fun c hc hsame => hother c hc (Option.some.inj hsame).symm
  cases h with
  | kept | shut => exact .same ⟨rfl, rfl⟩
  | refused hother | stranded hother => exact .changed (hnamed hother) nofun
  | made hother =>
    refine .changed (hnamed hother) fun p hp => ?_
    cases hp
    exact ⟨_, _, rfl⟩

/-- Rebinding goes by the address of the draft. -/
theorem rewiring_of_rebinding {step : Step (Except Fault Unit)}
    (h : Rebinding env r step) :
    Rewiring env r.draft.address r step.state := by
  cases h with
  | shut => exact .same (.refl r)
  | bound haddress _ hbinding =>
    rw [haddress]
    exact rewiring_of_binding hbinding
  | unbound haddress =>
    rw [haddress]
    exact .changed (fun _ _ => nofun) nofun

/-- An edit that is granted binds to the address that it leaves. -/
theorem rewiring_of_mutate {caller : Caller} (edit : Draft → Draft)
    (hgranted : r.checkUpdate env caller = .ok ()) :
    Rewiring env (edit (r.shown env.now)).address r
      (r.mutate env caller edit).state := by
  have hedited : r.SameBinding (r.edited env.now edit) := ⟨rfl, rfl⟩
  have hstate : ((r.edited env.now edit).rebind env).state.SameBinding
      (r.mutate env caller edit).state := by
    rw [mutate_eq edit hgranted]
    dsimp only
    rw [refresh_state]
    exact ⟨rfl, rfl⟩
  cases rewiring_of_rebinding (rebinding_of_rebind env (r.edited env.now edit))
    with
  | same hsame => exact .same ((hedited.trans hsame).trans hstate)
  | changed hother hpoller =>
    exact .changed hother fun p hp => hpoller p (hstate.poller.symm.trans hp)

/-- A request leaves client and poller as they are, or it does not spare the
client, and there is no poller behind it or one that was just started. -/
theorem perform_binding (env : Services) (q : Request) (r : Registration) :
    r.SameBinding (q.perform env r).state
      ∨ (∀ c, r.client = some c → ¬ q.Spares env r c)
        ∧ ∀ p, (q.perform env r).state.poller = some p →
            ∃ serial address,
              p = .start serial address env.polling env.timer := by
  rcases q.perform_denied_or env r with hdenied | hcheck
  · rw [hdenied]
    exact .inl (.refl r)
  cases q with
  | heartbeat secs =>
    obtain ⟨⟨lease, ttl, hstate⟩, -⟩ := heartbeat_eq env secs.toNat r
    rw [Request.perform, Step.discard_state, hstate]
    exact .inl ⟨rfl, rfl⟩
  | snapshot =>
    left
    show r.SameBinding (r.refresh env.now).1
    rw [refresh_state]
    exact ⟨rfl, rfl⟩
  | updateHealth caller report =>
    left
    show r.SameBinding (r.updateHealth env caller report).state
    unfold updateHealth
    rw [hcheck caller rfl]
    exact ⟨rfl, rfl⟩
  | mutate caller edit =>
    have hgranted := hcheck caller rfl
    cases rewiring_of_mutate edit hgranted with
    | same hsame => exact .inl hsame
    | changed hother hpoller =>
      exact .inr ⟨fun c hc hspares => hother c hc (hspares hgranted), hpoller⟩
  | breakOff caller edit =>
    left
    show r.SameBinding (r.breakOff env caller edit).state
    rw [breakOff_state edit (hcheck caller rfl)]
    exact ⟨rfl, rfl⟩
  | setCluster cluster =>
    left
    show r.SameBinding (r.setCluster env cluster).state
    by_cases hsame : r.draft.cluster = cluster
    · unfold setCluster
      rw [if_pos hsame]
      exact .refl r
    · rw [setCluster_state hsame]
      exact ⟨rfl, rfl⟩
  | bind address =>
    cases rewiring_of_binding (binding_of_bind env address r) with
    | same hsame => exact .inl hsame
    | changed hother hpoller =>
      exact .inr ⟨fun c hc hspares => hother c hc (congrArg some hspares),
        hpoller⟩
  | teardown =>
    refine .inr ⟨fun _ _ => id, fun p hp => ?_⟩
    rw [show (Request.perform env r .teardown).state = r.teardown.state
      from rfl, teardown_eq] at hp
    cases hp

/-- A request that spares the client leaves client and poller. -/
theorem spared_perform (hclient : r.client = some c)
    (hspares : q.Spares env r c) :
    r.SameBinding (q.perform env r).state :=
  (perform_binding env q r).resolve_right fun h => h.1 c hclient hspares

/-- A poller, if there is one, has not ended by itself. -/
def Lively (r : Registration) : Prop := ∀ p, r.poller = some p → p.alive = true

theorem Lively.perform (h : r.Lively) : (q.perform env r).state.Lively := by
  intro p hp
  rcases perform_binding env q r with hsame | ⟨-, hstarted⟩
  · exact h p (hsame.poller.symm.trans hp)
  · obtain ⟨serial, address, rfl⟩ := hstarted p hp
    rfl

end Registration

namespace Storage

variable {st : Storage} {i j : Slot} {r : Registration} {c : Client}

-- =========================================================== of a storage

/-- Whether a request leaves the client of the registration at a place where it
is. -/
def Request.Spares (env : Surroundings) (st : Storage) (i : Slot)
    (c : Client) :
    Request → Prop
  | ask j q => j = i → ∀ r, st.at? i = some r →
      q.Spares (st.services env st.clusterOf) r c
  | remove name => st.slot? name ≠ some i
  | shutdown | moveOn _ _ => False
  | register _ | getOrRegister _ | list => True

/-- The registration at a place is there still, with the same client and the
same poller. -/
def SameAt (i : Slot) (st st' : Storage) : Prop :=
  ∀ r, st.at? i = some r → ∃ r', st'.at? i = some r' ∧ r.SameBinding r'

theorem SameAt.refl (i : Slot) (st : Storage) : SameAt i st st :=
  fun r hat => ⟨r, hat, .refl r⟩

theorem SameAt.trans {st' st'' : Storage} (h : SameAt i st st')
    (h' : SameAt i st' st'') :
    SameAt i st st'' := by
  intro r hat
  obtain ⟨r', hat', hsame⟩ := h r hat
  obtain ⟨r'', hat'', hsame'⟩ := h' r' hat'
  exact ⟨r'', hat'', hsame.trans hsame'⟩

/-- An operation elsewhere, or one that keeps the binding, leaves this one as
it was. -/
theorem sameAt_commit {α : Type} {s : Step α} (hat : st.at? j = some r)
    (hsame : j = i → r.SameBinding s.state) :
    SameAt i st (st.commit j s).1 := by
  intro r' hat'
  rw [at?_commit hat]
  by_cases hji : j = i
  · rw [if_pos hji]
    rw [← hji, hat] at hat'
    cases hat'
    exact ⟨_, rfl, hsame hji⟩
  · rw [if_neg hji]
    exact ⟨r', hat', .refl r'⟩

theorem sameAt_teardownAt (hji : j ≠ i) (st : Storage) :
    SameAt i st (st.teardownAt j).1 := by
  unfold teardownAt
  split
  case h_1 r hat => exact sameAt_commit hat fun h => absurd h hji
  case h_2 => exact .refl i st

/-- Snapshots leave every client and every poller. -/
theorem sameAt_snapshots (env : Surroundings) (places : List Slot)
    (st : Storage) :
    SameAt i st (snapshots env places st).1 := by
  induction places generalizing st with
  | nil => exact .refl i st
  | cons j rest ih =>
    have hfirst : SameAt i st (st.snapshotAt env j).1 := by
      unfold snapshotAt
      split
      case h_1 r hat =>
        refine sameAt_commit hat fun _ => ?_
        show r.SameBinding (r.refresh env.now).1
        rw [Registration.refresh_state]
        exact ⟨rfl, rfl⟩
      case h_2 => exact .refl i st
    exact hfirst.trans (ih _)

/-- Registering changes nothing, or makes one more registration behind all
others. -/
theorem register_joined (env : Surroundings) (info : NodeInfo) (st : Storage) :
    (st.register env info).1 = st
      ∨ ∃ r names more, (st.register env info).1 = st.joined r names more := by
  unfold register
  rcases enrol_cases env info st with ⟨e, henrol⟩ | ⟨-, hfree, henrol⟩
  · rw [henrol]
    exact .inl rfl
  right
  rw [henrol]
  have hat :
      (st.joined (.ofInfo info) (st.names.insert info.name st.slots.length)
        0).at? st.slots.length = some (.ofInfo info) :=
    (at?_joined _).trans (if_pos rfl)
  show ∃ r names more,
    ((st.joined (.ofInfo info)
      (st.names.insert info.name st.slots.length) 0).settle env info
        st.slots.length).1 = _
  unfold settle
  rw [hat]
  cases info.address with
  | none => exact ⟨_, _, _, rfl⟩
  | some address =>
    dsimp only
    rw [commit_joined]
    dsimp only
    split
    case h_1 => exact ⟨_, _, _, rfl⟩
    case h_2 =>
      rw [remove_joined hfree]
      exact ⟨_, _, _, rfl⟩

/-- A registration comes to a place of its own. -/
theorem sameAt_register (env : Surroundings) (info : NodeInfo) (st : Storage) :
    SameAt i st (st.register env info).1 := by
  rcases register_joined env info st with hst | ⟨r, names, more, hst⟩
  · rw [hst]
    exact .refl i st
  · intro r' hat
    have hold : i ≠ st.slots.length :=
      Nat.ne_of_lt (List.getElem?_eq_some_iff.1 hat).1
    rw [hst, at?_joined, if_neg hold]
    exact ⟨r', hat, .refl r'⟩

/-- A request that spares the client at a place leaves it there with its
poller. -/
theorem sameAt_perform {env : Surroundings} {q : Request}
    (hat : st.at? i = some r) (hclient : r.client = some c)
    (hspares : q.Spares env st i c) :
    SameAt i st (q.perform env st).1 := by
  cases q with
  | register info => exact sameAt_register env info st
  | getOrRegister name =>
    show SameAt i st (st.getOrRegister env name).1
    unfold getOrRegister
    split
    case h_1 => exact .refl i st
    case h_2 => exact sameAt_register env _ st
  | remove name =>
    show SameAt i st (st.remove name).1
    unfold remove
    split
    case h_1 => exact .refl i st
    case h_2 j hslot =>
      have hji : j ≠ i := fun h => hspares (h ▸ hslot)
      exact sameAt_teardownAt hji { st with names := st.names.erase name }
  | list => exact sameAt_snapshots env _ st
  | shutdown => cases hspares
  | ask j q =>
    show SameAt i st (st.operate j _).1
    unfold operate
    split
    case h_1 r' hat' =>
      refine sameAt_commit hat' fun hji => ?_
      have hr : r' = r := by
        rw [hji, hat] at hat'
        exact (Option.some.inj hat').symm
      rw [hr]
      exact Registration.spared_perform hclient (hspares hji r hat)
    case h_2 => exact .refl i st
  | moveOn => cases hspares

/-- No poller that has ended by itself comes from what is asked of a
storage. -/
theorem lively_asked {env : Surroundings} {q : Request}
    (hasked : ∀ j phase, q ≠ .moveOn j phase)
    (h : Everywhere Registration.Lively st) :
    Everywhere Registration.Lively (q.perform env st).1 :=
  everywhere_asked (fun _ _ hp => by cases hp)
    (fun _ _ _ => Registration.Lively.perform) env
      (fun j phase hq => absurd hq (hasked j phase)) h

end Storage

end Fleetkeeper
