/-
The registry is in order whatever has been asked of it and of the
registrations that it ever made, through places kept from before as well.

# The invariant

`Orderly` spans three things: the names, all registrations that were ever
made, and the pollers that run, read off what was told. A name leads to a
registration of that name. A registration that no name leads to is closed,
unless it is still `due` to be. And the clients of all registrations are what
the running pollers poll, each of them once.

The serials carry the last part. A poller is stopped by its serial, so
stopping one leaves all others only because no two running pollers have the
same; and none has, because a new serial is larger than any before
(`numbered`, `started`).

# What follows

Of all registrations only those that a name leads to can have a client, so the
pollers that run are one for each registered node that has a client. A closed
registration stays closed and its place stays its own, so one that has lost
its name never has a client or a poller again, whoever keeps its place and
whatever its name leads to by then. And since polls are started by pollers of
registrations (`Polling`), none is started for a node that is not registered.
-/
import Mathlib.Data.List.Nodup
import Fleetkeeper.Proofs.Node.Binding
import Fleetkeeper.Proofs.Node.Polling

namespace Fleetkeeper.Storage

variable {st st' : Storage} {due due' : List Slot} {told more : List Effect}

-- ========================================================= the invariant

/-- The pollers that run are those of some clients, one for each; no two have
the same serial, and none has one that is not given out yet. -/
structure Tallied (clients : List Client) (started : Nat)
    (told : List Effect) :
    Prop where
  runs : (running told).Perm clients
  numbered : ((running told).map Client.serial).Nodup
  given : ∀ c ∈ running told, c.serial < started

/-- A storage that has told so much is in order, but for registrations that
are still to be closed. -/
structure Orderly (due : List Slot) (st : Storage) (told : List Effect) :
    Prop where
  named : ∀ name i, st.slot? name = some i →
    checkName name = true ∧ ∃ r, st.at? i = some r ∧ r.name = name
  wired : ∀ i r, st.at? i = some r → r.Wired
  ended : ∀ i r, st.at? i = some r →
    st.slot? r.name = some i ∨ i ∈ due ∨ r.closed = true
  tallied : Tallied (st.slots.filterMap Registration.client) st.started told

theorem orderly_empty : Orderly [] {} [] where
  named := fun _ _ h => by cases h
  wired := fun _ _ h => by cases h
  ended := fun _ _ h => by cases h
  tallied := ⟨.nil, .nil, fun _ h => by cases h⟩

-- ================================================== clients of a storage

/-- The clients of a storage around those of one registration, which can be
exchanged. -/
theorem clients_around {i : Slot} {r : Registration}
    (hat : st.at? i = some r) :
    ∃ before after, st.slots.filterMap Registration.client
        = before ++ r.client.toList ++ after
      ∧ ∀ s : Registration, (st.slots.set i s).filterMap Registration.client
          = before ++ s.client.toList ++ after := by
  obtain ⟨hlt, hget⟩ := List.getElem?_eq_some_iff.1 hat
  have hset :
      ∀ s : Registration, (st.slots.set i s).filterMap Registration.client
        = (st.slots.take i).filterMap Registration.client ++ s.client.toList
          ++ (st.slots.drop (i + 1)).filterMap Registration.client := by
    intro s
    rw [List.set_eq_take_append_cons_drop, if_pos hlt, List.filterMap_append,
      List.append_assoc]
    cases hclient : s.client with
    | none => rw [List.filterMap_cons_none hclient]; rfl
    | some c => rw [List.filterMap_cons_some hclient]; rfl
  refine ⟨_, _, ?_, hset⟩
  rw [← hset r, ← hget, List.set_getElem_self]

/-- Where all serials differ, the pollers of others are those around. -/
theorem others_around {r : Registration} {before after : List Client}
    (hnumbered :
      ((before ++ r.client.toList ++ after).map Client.serial).Nodup) :
    r.others (before ++ r.client.toList ++ after) = before ++ after := by
  unfold Registration.others
  cases hclient : r.client with
  | none => simp
  | some c =>
    rw [hclient] at hnumbered
    have hother : ∀ d ∈ before ++ after, d.serial ≠ c.serial := by
      have hperm : (before ++ [c] ++ after).Perm (c :: (before ++ after)) := by
        rw [List.append_assoc]
        exact List.perm_middle
      have hnodup := (hperm.map Client.serial).nodup_iff.1 hnumbered
      intro d hd heq
      exact (List.nodup_cons.1 hnodup).1 (heq ▸ List.mem_map_of_mem hd)
    have hkept : (before ++ after).filter
        (fun d => (some c).map Client.serial ≠ some d.serial)
          = before ++ after := by
      refine List.filter_eq_self.2 fun d hd => ?_
      simpa using (hother d hd).symm
    rw [List.filter_append] at hkept ⊢
    rw [← hkept, List.filter_append]
    simp

/-- Notices are not about pollers. -/
theorem Tallied.noted {clients : List Client} {started : Nat}
    {notices : List Effect} (h : Tallied clients started told)
    (hnotices : notices.filter Effect.wires = []) :
    Tallied clients started (told ++ notices) := by
  have hsame : running (told ++ notices) = running told := by
    rw [running_append, ← foldl_wires, hnotices]
    rfl
  exact ⟨hsame ▸ h.runs, hsame ▸ h.numbered, hsame ▸ h.given⟩

/-- An operation on one registration changes its own poller alone. -/
theorem Tallied.operated {before after : List Client} {started : Nat}
    {env : Services} {r s : Registration}
    (h : Tallied (before ++ r.client.toList ++ after) started told)
    (hr : r.Wired) (hserial : env.serial = started)
    (hwiring : r.Wiring env s more) :
    Tallied (before ++ s.client.toList ++ after) (started + startsIn more)
      (told ++ more) := by
  have hthen := hwiring.running_eq hr (running told)
  rw [← running_append] at hthen
  rcases hthen with ⟨hclient, hthen⟩ | ⟨hnew, hthen⟩
  · rw [hclient]
    refine ⟨hthen ▸ h.runs, hthen ▸ h.numbered, fun c hc => ?_⟩
    rw [hthen] at hc
    exact Nat.lt_add_right _ (h.given c hc)
  -- Stopping its poller, by serial, stops no other.
  have hothers : (r.others (running told)).Perm (before ++ after) := by
    have hnodup := (h.runs.map Client.serial).nodup_iff.1 h.numbered
    rw [← others_around hnodup]
    exact h.runs.filter _
  have hgiven : ∀ c ∈ r.others (running told), c.serial < started :=
    fun c hc => h.given c (List.mem_filter.1 hc).1
  refine ⟨?_, ?_, fun c hc => ?_⟩
  · rw [hthen]
    refine (hothers.append_right _).trans ?_
    rw [List.append_assoc, List.append_assoc]
    exact List.perm_append_comm.append_left before
  · rw [hthen, List.map_append]
    refine List.nodup_append.2 ⟨?_, ?_, ?_⟩
    · exact (List.filter_sublist.map Client.serial).nodup h.numbered
    · cases s.client <;> simp
    · -- The new serial is larger than all that were given out before.
      intro a ha b hb heq
      obtain ⟨c, hc, hca⟩ := List.mem_map.1 ha
      obtain ⟨d, hd, hdb⟩ := List.mem_map.1 hb
      have hless := hgiven c hc
      have hequal := (hnew d (Option.mem_toList.1 hd)).1
      omega
  · rw [hthen] at hc
    rcases List.mem_append.1 hc with hc | hc
    · exact Nat.lt_add_right _ (hgiven c hc)
    · obtain ⟨hequal, hmem⟩ := hnew c (Option.mem_toList.1 hc)
      have hstarts : 0 < startsIn more :=
        List.length_pos_of_mem (List.mem_filter.2 ⟨hmem, rfl⟩)
      omega

-- ============================================================ every move

/-- Where a registration stands once another was made. -/
theorem getElem?_concat (slots : List Registration) (r : Registration)
    (i : Nat) :
    (slots ++ [r])[i]? = if i = slots.length then some r else slots[i]? := by
  rcases Nat.lt_trichotomy i slots.length with hlt | heq | hgt
  · rw [if_neg (Nat.ne_of_lt hlt), List.getElem?_append_left hlt]
  · rw [if_pos heq, heq]
    simp
  · rw [if_neg (Nat.ne_of_gt hgt), List.getElem?_eq_none (Nat.le_of_lt hgt)]
    refine List.getElem?_eq_none ?_
    rw [List.length_append, List.length_singleton]
    exact hgt

/-- A name that is free gets a registration that was only described. -/
theorem orderly_enrolled {info : NodeInfo} (hname : checkName info.name = true)
    (hfree : st.slot? info.name = none) (h : Orderly due st told) :
    Orderly due
      { st with slots := st.slots ++ [Registration.ofInfo info],
                names := st.names.insert info.name st.slots.length } told := by
  have hat : ∀ i, (st.slots ++ [Registration.ofInfo info])[i]?
      = if i = st.slots.length then some (Registration.ofInfo info) else
        st.at? i :=
    getElem?_concat _ _
  have hslot : ∀ name, (st.names.insert info.name st.slots.length).find? name
      = if name = info.name then some st.slots.length else st.slot? name :=
    fun name => Table.find?_insert ..
  have hold : ∀ i r, st.at? i = some r → i ≠ st.slots.length := by
    intro i r hr
    exact Nat.ne_of_lt (List.getElem?_eq_some_iff.1 hr).1
  refine ⟨fun name i hi => ?_, fun i r hr => ?_, fun i r hr => ?_, ?_⟩
  · -- The name that was free leads to the new registration, others as before.
    replace hi := (hslot name).symm.trans hi
    split at hi
    case isTrue heq =>
      cases hi
      refine ⟨heq ▸ hname, Registration.ofInfo info, ?_, heq.symm⟩
      exact (hat _).trans (if_pos rfl)
    case isFalse =>
      obtain ⟨hcheck, r, hr, hrname⟩ := h.named name i hi
      exact ⟨hcheck, r, (hat i).trans ((if_neg (hold i r hr)).trans hr),
        hrname⟩
  · replace hr := (hat i).symm.trans hr
    split at hr
    case isTrue =>
      cases hr
      exact (Registration.bound_ofInfo info).wired
    case isFalse => exact h.wired i r hr
  · replace hr := (hat i).symm.trans hr
    split at hr
    case isTrue heq =>
      cases hr
      exact .inl
        ((hslot info.name).trans ((if_pos rfl).trans (congrArg some heq.symm)))
    case isFalse =>
      -- No earlier registration was called by a name that was free.
      refine (h.ended i r hr).imp_left fun hi => ?_
      have hother : r.name ≠ info.name := by
        intro heq
        rw [heq, hfree] at hi
        cases hi
      exact (hslot r.name).trans ((if_neg hother).trans hi)
  · -- The new registration has no client yet.
    have hclients : (st.slots ++ [Registration.ofInfo info]).filterMap
        Registration.client = st.slots.filterMap Registration.client := by
      rw [List.filterMap_append]
      exact List.append_nil _
    exact hclients ▸ h.tallied

/-- An operation on a registration leaves that one wired, with its name. -/
theorem orderly_operated {α : Type} {i : Slot} {r : Registration}
    {env : Services} {s : Step α} (hat : st.at? i = some r)
    (hserial : env.serial = st.started) (hname : s.state.name = r.name)
    (hwiring : r.Wiring env s.state s.effects) (h : Orderly due st told) :
    Orderly due (st.commit i s).1 (told ++ s.effects) := by
  have hr := h.wired i r hat
  refine ⟨fun name j hj => ?_, fun j r' hr' => ?_, fun j r' hr' => ?_, ?_⟩
  · obtain ⟨hcheck, r', hr', hrname⟩ := h.named name j hj
    refine ⟨hcheck, ?_⟩
    rw [at?_commit hat]
    by_cases hij : i = j
    · rw [if_pos hij]
      have hsame : r = r' := Option.some.inj (hat.symm.trans (hij ▸ hr'))
      exact ⟨s.state, rfl, hname.trans (hsame ▸ hrname)⟩
    · rw [if_neg hij]
      exact ⟨r', hr', hrname⟩
  · rw [at?_commit hat] at hr'
    split at hr'
    · cases hr'
      exact hwiring.wired hr
    · exact h.wired j r' hr'
  · rw [at?_commit hat] at hr'
    split at hr'
    case isTrue hij =>
      cases hr'
      rw [← hij, hname]
      exact (h.ended i r hat).imp_right (Or.imp_right hwiring.closed)
    case isFalse => exact h.ended j r' hr'
  · obtain ⟨before, after, hclients, hexchanged⟩ := clients_around hat
    have htallied := (hclients ▸ h.tallied).operated hr hserial hwiring
    show Tallied ((st.slots.set i s.state).filterMap Registration.client) _ _
    rw [hexchanged]
    exact htallied

/-- Names that go leave registrations that are still to be closed. -/
theorem orderly_forgot {names : Table Slot} (lost : List Slot)
    (hfewer : ∀ name i, names.find? name = some i → st.slot? name = some i)
    (hlost : ∀ name i, st.slot? name = some i →
      names.find? name = some i ∨ i ∈ lost)
    (h : Orderly due st told) :
    Orderly (lost ++ due) { st with names } told := by
  refine ⟨fun name i hi => h.named name i (hfewer name i hi), h.wired,
    fun i r hr => ?_, h.tallied⟩
  rcases h.ended i r hr with hi | hi | hclosed
  · exact (hlost r.name i hi).imp_right fun hi =>
      .inl (List.mem_append_left _ hi)
  · exact .inr (.inl (List.mem_append_right _ hi))
  · exact .inr (.inr hclosed)

/-- Every move keeps a storage in order, with those that are still to be closed
as the move leaves them. -/
theorem orderly_move (hmove : Move due st more due' st')
    (h : Orderly due st told) :
    Orderly due' st' (told ++ more) := by
  cases hmove with
  | noted hnotices =>
    exact ⟨h.named, h.wired, h.ended, h.tallied.noted hnotices⟩
  | enrolled hname hfree =>
    rw [List.append_nil]
    exact orderly_enrolled hname hfree h
  | operated hat hserial hname hwiring =>
    exact orderly_operated hat hserial hname hwiring h
  | forgot lost hfewer hlost =>
    rw [List.append_nil]
    exact orderly_forgot lost hfewer hlost h
  | @closed _ _ i hclosed =>
    rw [List.append_nil]
    refine ⟨h.named, h.wired, fun j r hr => ?_, h.tallied⟩
    rcases h.ended j r hr with hj | hj | hj
    · exact .inl hj
    · rcases List.mem_cons.1 hj with heq | hj
      · exact .inr (.inr (hclosed r (heq ▸ hr)))
      · exact .inr (.inl hj)
    · exact .inr (.inr hj)

theorem orderly_performAll (run : Run) :
    Orderly [] (performAll run {}).1 (performAll run {}).2 :=
  (moves_of_performAll run {}).keeps orderly_move [] orderly_empty

-- ==================================================== of registered nodes

/-- Every name leads to a registration of that name. -/
def Named (st : Storage) : Prop :=
  ∀ name i, st.slot? name = some i → ∃ r, st.at? i = some r ∧ r.name = name

theorem named_performAll (run : Run) : (performAll run {}).1.Named :=
  fun name i hslot => ((orderly_performAll run).named name i hslot).2

/-- No two registrations have the same client. -/
theorem Orderly.client_unique (h : Orderly due st told) {i j : Slot}
    {r r' : Registration} {c : Client} (hat : st.at? i = some r)
    (hat' : st.at? j = some r') (hc : r.client = some c)
    (hc' : r'.client = some c) :
    i = j := by
  have hnodup : (st.slots.filterMap Registration.client).Nodup :=
    h.tallied.runs.nodup_iff.1 h.tallied.numbered.of_map
  have hpairs := List.pairwise_iff_getElem.1 (List.pairwise_filterMap.1 hnodup)
  obtain ⟨hi, hget⟩ := List.getElem?_eq_some_iff.1 hat
  obtain ⟨hj, hget'⟩ := List.getElem?_eq_some_iff.1 hat'
  rcases Nat.lt_trichotomy i j with hlt | heq | hlt
  · exact absurd rfl (hpairs i j hi hj hlt c (hget ▸ hc) c (hget' ▸ hc'))
  · exact heq
  · exact absurd rfl (hpairs j i hj hi hlt c (hget' ▸ hc') c (hget ▸ hc))

/-- No two names lead to one place. -/
theorem Orderly.values_nodup (h : Orderly due st told) :
    st.names.values.Nodup := by
  refine List.pairwise_map.2
    (st.names.sorted.imp_of_mem fun {a b} ha hb hlt heq => ?_)
  obtain ⟨-, r, hr, hname⟩ := h.named a.1 a.2 ((Table.mem_entries_iff ..).1 ha)
  obtain ⟨-, r', hr', hname'⟩ :=
    h.named b.1 b.2 ((Table.mem_entries_iff ..).1 hb)
  have hsame : r = r' :=
    Option.some.inj (hr.symm.trans ((congrArg st.at? heq).trans hr'))
  rw [← hname, ← hname', hsame] at hlt
  exact String.lt_irrefl _ hlt

/-- A registration that has a client is registered, once nothing is due. -/
theorem Orderly.slot?_of_client (h : Orderly [] st told) {i : Slot}
    {r : Registration} {c : Client} (hat : st.at? i = some r)
    (hc : r.client = some c) : st.slot? r.name = some i := by
  rcases h.ended i r hat with hi | hi | hclosed
  · exact hi
  · cases hi
  · rw [(h.wired i r hat).shut hclosed] at hc
    cases hc

/-- The clients of the registered nodes, by name. -/
def clients (st : Storage) : List Client :=
  st.names.values.filterMap fun i => (st.at? i).bind Registration.client

/-- The pollers that run are one for each registered node with a client. -/
theorem Orderly.running_perm (h : Orderly [] st told) :
    (running told).Perm st.clients := by
  have hrunning : (running told).Nodup := h.tallied.numbered.of_map
  have hclients : st.clients.Nodup := by
    refine List.pairwise_filterMap.2
      (h.values_nodup.imp fun {i j} hij c hc d hd hcd => ?_)
    obtain ⟨r, hr, hc⟩ := Option.bind_eq_some_iff.1 hc
    obtain ⟨r', hr', hd⟩ := Option.bind_eq_some_iff.1 hd
    exact hij (h.client_unique hr hr' hc (hcd ▸ hd))
  refine (List.perm_ext_iff_of_nodup hrunning hclients).2 fun c => ?_
  rw [h.tallied.runs.mem_iff, List.mem_filterMap]
  constructor
  · rintro ⟨r, hmem, hc⟩
    obtain ⟨i, hat⟩ := List.mem_iff_getElem?.1 hmem
    have hslot := h.slot?_of_client hat hc
    refine List.mem_filterMap.2 ⟨i, ?_, Option.bind_eq_some_iff.2 ⟨r, hat, hc⟩⟩
    exact List.mem_map_of_mem ((Table.mem_entries_iff ..).2 hslot)
  · intro hmem
    obtain ⟨i, -, hc⟩ := List.mem_filterMap.1 hmem
    obtain ⟨r, hat, hc⟩ := Option.bind_eq_some_iff.1 hc
    exact ⟨r, List.mem_of_getElem? hat, hc⟩

-- =========================================== registrations that are closed

/-- A closed registration stays closed, at its place. -/
theorem closed_move {i : Slot} (hmove : Move due st more due' st')
    (h : ∃ r, st.at? i = some r ∧ r.closed = true) :
    ∃ r, st'.at? i = some r ∧ r.closed = true := by
  obtain ⟨r, hat, hclosed⟩ := h
  cases hmove with
  | noted | forgot | closed => exact ⟨r, hat, hclosed⟩
  | enrolled =>
    have hlt := (List.getElem?_eq_some_iff.1 hat).1
    exact ⟨r, (List.getElem?_append_left hlt).trans hat, hclosed⟩
  | @operated _ _ _ j r' _ s hat' _ _ hwiring =>
    rw [at?_commit hat']
    by_cases hij : j = i
    · have hsame : r' = r := Option.some.inj (hat'.symm.trans (hij ▸ hat))
      rw [if_pos hij]
      exact ⟨s.state, rfl, hwiring.closed (hsame ▸ hclosed)⟩
    · rw [if_neg hij]
      exact ⟨r, hat, hclosed⟩

/-- A registration without a name has come to its end, and whatever is asked
later leaves it there. -/
theorem Orderly.ended_later (h : Orderly [] st told) {i : Slot}
    {r : Registration} (hat : st.at? i = some r)
    (hgone : ∀ name, st.slot? name ≠ some i) (later : Run) :
    ∃ r', (performAll later st).1.at? i = some r' ∧ r'.Ended := by
  have hmoves := moves_of_performAll later st
  have hclosed : r.closed = true := by
    rcases h.ended i r hat with hi | hi | hclosed
    · exact absurd hi (hgone r.name)
    · cases hi
    · exact hclosed
  obtain ⟨r', hat', hclosed'⟩ := hmoves.keeps
    (P := fun _ st _ => ∃ r, st.at? i = some r ∧ r.closed = true)
    (fun hmove hst => closed_move hmove hst) [] ⟨r, hat, hclosed⟩
  have hwired := (hmoves.keeps orderly_move _ h).wired i r' hat'
  exact ⟨r', hat', hwired.ended hclosed'⟩

-- ============================================================== all of it

/-- Whatever has been asked of a storage and of all registrations that it ever
made: a name is a proper one and leads to a registration of that name; a
registration that no name leads to has come to its end, now and after all
that may be asked later; the pollers that run are one for each registered
node that has a client; and when the timer moves, which is requests again,
every poll that is started is made for a registered node, at the address of
its client. -/
theorem registry_sound (run : Run) :
    let st := (performAll run {}).1
    let told := (performAll run {}).2
    (∀ name i, st.slot? name = some i →
        checkName name = true ∧ ∃ r, st.at? i = some r ∧ r.name = name)
      ∧ (∀ i r, st.at? i = some r → (∀ name, st.slot? name ≠ some i) →
          ∀ later, ∃ r', (performAll later st).1.at? i = some r' ∧ r'.Ended)
      ∧ ((running told).map Client.serial).Nodup
      ∧ (running told).Perm st.clients
      ∧ ∀ (σ : Type) (engines : Engines σ) (f : Fleet) (secs : Nat) (s : σ),
          f.storage = st →
          (∃ later, performAll later st
              = ((f.run engines secs s).1.storage, []))
            ∧ ∀ poll ∈ (f.run engines secs s).2.1, ∃ r c,
                st.find? poll.node = some r ∧ r.client = some c
                  ∧ c.address = poll.address := by
  intro st told
  have h : Orderly [] st told := orderly_performAll run
  refine ⟨h.named, fun i r hat hgone => h.ended_later hat hgone,
    h.tallied.numbered, h.running_perm, fun σ engines f secs s hstorage => ?_⟩
  obtain ⟨hpaced, howed⟩ :=
    Fleet.paced_of_run engines secs f s (hstorage ▸ h.wired)
  refine ⟨hstorage ▸ hpaced.reached, fun poll hpoll => ?_⟩
  obtain ⟨i, r, c, hat, hname, hc, haddress⟩ := howed poll hpoll
  rw [hstorage] at hat
  have hslot := h.slot?_of_client hat hc
  rw [hname] at hslot
  refine ⟨r, c, ?_, hc, haddress⟩
  unfold find?
  rw [hslot]
  exact hat

/-- What a storage finds around it at the beginning. -/
def beginning : Surroundings := { now := ⟨0⟩, later := ⟨0⟩ }

/-- A node that is registered, removed and registered again; then the
registration that it had first is asked to bind. -/
def registeredAgain : Run :=
  let info : NodeInfo :=
    { NodeInfo.bare "n1" with address := some "10.0.0.1:2375" }
  [(beginning, .register info), (beginning, .remove "n1"),
   (beginning, .register info), (beginning, .ask 0 (.bind "10.0.0.2:2375"))]

/-- Engines that have nothing to tell. -/
def silent : Engines Unit where
  makeClient _ _ := .ok ()
  poll _ _ _ s := (⟨[], .ok 0, []⟩, 0, s)

/-- A fleet with the storage that this leads to. -/
def registeredAgainFleet : Fleet where
  clock := ⟨0⟩
  storage := (performAll registeredAgain {}).1
  lifecycle := .ofCapacity 1
  logs := .ofCapacity 1

/-- The first registration has come to its end and the second has the only
poller that runs. When the timer moves, that is the one that polls. -/
theorem registry_of_registeredAgain :
    let st := (performAll registeredAgain {}).1
    (∀ name, st.slot? name ≠ some 0) ∧ (∃ r, st.at? 0 = some r ∧ r.Ended)
      ∧ (running (performAll registeredAgain {}).2).Perm [⟨"10.0.0.1:2375", 1⟩]
      ∧ ∃ poll, (registeredAgainFleet.run silent 5 ()).2.1 = [poll] ∧ ∃ r c,
          st.find? poll.node = some r ∧ r.client = some c
            ∧ c.address = poll.address := by
  intro st
  have hgone : ∀ name, st.slot? name ≠ some 0 := by
    intro name hslot
    have hentries : st.names.entries = [("n1", 1)] := rfl
    have hmem := (Table.mem_entries_iff st.names name 0).2 hslot
    rw [hentries] at hmem
    cases List.mem_singleton.1 hmem
  obtain ⟨-, hended, -, hruns, hpolls⟩ := registry_sound registeredAgain
  have hone : ∃ poll, (registeredAgainFleet.run silent 5 ()).2.1 = [poll] :=
    ⟨_, rfl⟩
  obtain ⟨poll, hone⟩ := hone
  have hpoll := (hpolls Unit silent registeredAgainFleet 5 () rfl).2 poll
    (hone ▸ List.mem_singleton_self poll)
  exact ⟨hgone, hended 0 _ rfl hgone [], hruns, poll, hone, hpoll⟩

end Fleetkeeper.Storage
