/-
Nodes do not meet each other in a storage. What an order does to a node is
what it does to the node's share (`perform_concerned`), or nothing at all
where it concerns other nodes alone (`perform_other`). So of two storages in
which a node has the same share, one can be ordered things for other nodes
that the other one is not, and the node cannot tell them apart.

Three kinds of orders touch more than one registration or touch one more than
once. Registering binds what it has made and may take it back (`Settling`);
`list` and `shutdown` go through all nodes. For those two the node is one of
the places that names lead to, with places of other nodes on either side
(`values_around`), and what is done at those leaves its share alone.

What a node sees of a list are the snapshots that bear its name. That these
are its own is a law about every registration (`Signed`), because a snapshot
at hand may be an old one.
-/
import Fleetkeeper.Proofs.Node.Share

namespace Fleetkeeper

variable {name : String}

namespace Registration

variable {env : Services} {r : Registration}

-- ================================================= snapshots bear the name

/-- The snapshot at hand, if there is one, is of this node. -/
def Signed (r : Registration) : Prop := ∀ c, r.cache = some c → c.name = r.name

theorem Signed.seen (h : r.Signed) (now : Instant) :
    (r.seen now).name = r.name := by
  rcases seen_cases now r with hcache | hbuilt
  · exact h _ hcache
  · rw [hbuilt]
    rfl

/-- Every snapshot that a request makes is of its own node. -/
theorem Telling.signed {s : Registration} {q : Request}
    {events : List LifecycleEvent} {messages : List HealthEvent}
    (h : Telling env r s q events messages) (hname : s.name = r.name)
    (hsigned : r.Signed) : s.Signed := by
  intro c hc
  rw [hname]
  cases h with
  | idle _ _ hcache => exact hsigned c (hcache ▸ hc)
  | looked _ hcache | brokenOff _ _ hcache =>
    rw [hcache] at hc
    cases hc
    exact hsigned.seen env.now
  | reported _ _ hcache =>
    rw [hcache] at hc
    cases hc
  | edited _ _ hcache | moved _ _ hcache =>
    rw [hcache] at hc
    cases hc
    rfl
  | bound _ hcache =>
    rw [hcache] at hc
    split at hc
    · exact hsigned c hc
    · cases hc

theorem signed_perform (env : Services) (q : Request) (r : Registration)
    (h : r.Signed) :
    (q.perform env r).state.Signed :=
  (telling_of_perform env q r).signed (perform_name env q r) h

end Registration

namespace Storage

variable {st st' : Storage} {i : Slot} {k : Nat} {r : Registration}
  {access : AccessControl}

theorem signed_performAll (run : Run) :
    Everywhere Registration.Signed (performAll run {}).1 :=
  everywhere_performAll (fun _ _ h => by cases h) Registration.signed_perform
    (fun _ _ h => h) run (fun _ _ h => by cases h)

-- ============================================================ registering

/-- What becomes of a registration that was just made, as it is bound to the
address that it is described with. -/
inductive Settling (env : Surroundings) (info : NodeInfo) (i : Slot)
    (st : Storage) (r : Registration) :
    Storage × Except Fault Slot × List Effect → Prop where
  | bare {told : List Effect} (haddress : info.address = none)
      (hquiet : Registration.Unspoken told) :
      Settling env info i st r (st, .ok i, told)
  | bound {address : String} {s : Step (Except Fault Client)} {c : Client}
      {told : List Effect} (haddress : info.address = some address)
      (hs : r.bind (st.services env st.clusterOf) address = s)
      (hbound : s.result = .ok c) (hquiet : Registration.Unspoken told) :
      Settling env info i st r ((st.commit i s).1, .ok i, told)
  | refused {address : String} {s : Step (Except Fault Client)} {e : Fault}
      {told : List Effect} (haddress : info.address = some address)
      (hs : r.bind (st.services env st.clusterOf) address = s)
      (hrefused : s.result = .error e) (hquiet : Registration.Unspoken told) :
      Settling env info i st r (((st.commit i s).1.remove info.name).1,
        .error e, told)

/-- Settling goes in one of these ways, by cases on the address and on how the
binding ends. -/
theorem settling_of_settle (env : Surroundings) {info : NodeInfo}
    (hat : st.at? i = some r) (hslot : st.slot? info.name = some i) :
    Settling env info i st r (st.settle env info i) := by
  unfold settle
  cases haddress : info.address with
  | none => exact .bare haddress ⟨rfl, rfl⟩
  | some address =>
    rw [hat]
    dsimp only
    generalize hs : r.bind (st.services env st.clusterOf) address = s
    have hquiet : Registration.Unspoken s.effects :=
      hs ▸ Registration.unspoken_of_binding
        (Registration.binding_of_bind _ address r)
    have hremoved : ((st.commit i s).1.remove info.name).2.1 = .ok () := by
      have hslot' : (st.commit i s).1.slot? info.name = some i := hslot
      unfold remove
      rw [hslot']
    split
    case h_1 c hbound =>
      exact .bound haddress hs hbound (hquiet.append ⟨rfl, rfl⟩)
    case h_2 e hrefused =>
      rw [hremoved]
      exact .refused haddress hs hrefused (hquiet.append (unspoken_remove ..))

theorem bind_alone (env : Surroundings) (members : Membership)
    (info : NodeInfo) (address : String) (st : Storage) :
    (Registration.ofInfo info).bind ((st.share env.access name).services env)
        address
      = ((Registration.ofInfo info).bind
          ((st.enrolled info).services env members) address).plain
        (Except.map Client.plain) :=
  Registration.plain_bind ((st.enrolled info).services env members) address
    (.ofInfo info)

theorem set_length_concat {α : Type} (l : List α) (a b : α) :
    (l ++ [a]).set l.length b = l ++ [b] := by
  rw [List.set_append_right _ _ (Nat.le_refl _), Nat.sub_self]
  rfl

/-- The share when the registration that was just made has been bound. -/
theorem share_first {α : Type} {s : Step α} {info : NodeInfo}
    (hkept : s.state.name = info.name) :
    ((st.enrolled info).commit st.slots.length s).1.share access info.name
      = { st.share access info.name with
          made := st.made info.name ++ [s.state.plain],
          current := some (st.made info.name).length } := by
  have hcommit :
      ((st.enrolled info).commit st.slots.length s).1.share access info.name
        = ((st.enrolled info).share access info.name).put
            (st.made info.name).length s.state.plain := by
    rw [← number_enrolled]
    exact share_commit (at?_enrolled info st) hkept rfl
  rw [hcommit, share_enrolled]
  unfold Share.put
  dsimp only
  rw [set_length_concat]

/-- The name still leads to it then. -/
theorem named_first {α : Type} {s : Step α} {info : NodeInfo}
    (hkept : s.state.name = info.name) (j : Slot)
    (hslot : ((st.enrolled info).commit st.slots.length s).1.slot? info.name
      = some j) :
    ∃ r, ((st.enrolled info).commit st.slots.length s).1.at? j = some r
      ∧ r.name = info.name := by
  cases hslot.symm.trans ((slot?_enrolled ..).trans (if_pos rfl))
  rw [at?_commit (at?_enrolled info st), if_pos rfl]
  exact ⟨s.state, rfl, hkept⟩

/-- Settling what was just made, seen from its name. -/
theorem share_settling {env : Surroundings} {info : NodeInfo}
    {x : Storage × Except Fault Slot × List Effect}
    (h : Settling env info st.slots.length (st.enrolled info)
      (.ofInfo info) x) :
    (x.1.share env.access info.name, x.2.1.map (x.1.number info.name))
        = (st.share env.access info.name).enrol env info
      ∧ Registration.Unspoken x.2.2 := by
  have hat := at?_enrolled info st
  unfold Share.enrol
  cases h with
  | bare haddress hquiet =>
    rw [haddress, share_enrolled]
    refine ⟨congrArg (Prod.mk _) ?_, hquiet⟩
    exact congrArg Except.ok (number_enrolled info st)
  | @bound address s c _ haddress hs hbound hquiet =>
    have hkept : s.state.name = info.name :=
      hs ▸ tame_name.bound _ address (.ofInfo info)
    have hnumber :
        ((st.enrolled info).commit st.slots.length s).1.number info.name
          st.slots.length = (st.made info.name).length := by
      rw [number_commit hat hkept, number_enrolled]
    rw [haddress]
    dsimp only
    rw [bind_alone env (st.enrolled info).clusterOf, hs, share_first hkept]
    refine ⟨?_, hquiet⟩
    unfold Step.plain
    dsimp only
    rw [hbound]
    exact congrArg (Prod.mk _) (congrArg Except.ok hnumber)
  | @refused address s e _ haddress hs hrefused hquiet =>
    have hkept : s.state.name = info.name :=
      hs ▸ tame_name.bound _ address (.ofInfo info)
    rw [haddress]
    dsimp only
    rw [bind_alone env (st.enrolled info).clusterOf, hs,
      share_remove (named_first hkept), share_first hkept,
      Share.remove_eq (k := (st.made info.name).length)
        (r := s.state.plain) rfl List.getElem?_concat_length]
    refine ⟨?_, hquiet⟩
    unfold Step.plain Share.put
    dsimp only
    rw [hrefused, set_length_concat]
    rfl

/-- To register a name is, for the share of that name, to register in it; and
nothing is said of the node meanwhile. -/
theorem share_register (env : Surroundings) (info : NodeInfo) (st : Storage) :
    ((st.register env info).1.share env.access info.name,
        (st.register env info).2.1.map
          ((st.register env info).1.number info.name))
        = (st.share env.access info.name).register env info
      ∧ Registration.Unspoken (st.register env info).2.2 := by
  unfold register enrol Share.register
  by_cases hname : (!checkName info.name) = true
  · rw [if_pos hname, if_pos hname]
    exact ⟨rfl, rfl, rfl⟩
  rw [if_neg hname, if_neg hname]
  by_cases hlimit : channelLimit < env.config.nodes.healthCapacity
  · rw [if_pos hlimit, if_pos hlimit]
    exact ⟨rfl, rfl, rfl⟩
  rw [if_neg hlimit, if_neg hlimit]
  cases hslot : st.slot? info.name with
  | some i =>
    have hcurrent : (st.share env.access info.name).current = _ :=
      current_of_slot? hslot
    rw [hcurrent]
    exact ⟨rfl, rfl, rfl⟩
  | none =>
    have hcurrent : (st.share env.access info.name).current = _ :=
      current_of_free hslot
    rw [hcurrent]
    exact share_settling (settling_of_settle env (at?_enrolled info st)
      ((slot?_enrolled ..).trans (if_pos rfl)))

/-- However another node is settled, the share of this name stays. -/
theorem share_settling_other {env : Surroundings} {info : NodeInfo}
    {x : Storage × Except Fault Slot × List Effect} (hother : info.name ≠ name)
    (h : Settling env info st.slots.length (st.enrolled info)
      (.ofInfo info) x) :
    x.1.share access name = st.share access name := by
  have hat := at?_enrolled info st
  cases h with
  | bare => exact share_enrolled_other st hother
  | @bound address s _ _ _ hs =>
    have hkept : s.state.name = info.name :=
      hs ▸ tame_name.bound _ address (.ofInfo info)
    exact (share_commit_other hat hkept hother).trans
      (share_enrolled_other st hother)
  | @refused address s _ _ _ hs =>
    have hkept : s.state.name = info.name :=
      hs ▸ tame_name.bound _ address (.ofInfo info)
    refine (share_remove_other hother (named_first hkept)).trans ?_
    exact (share_commit_other hat hkept hother).trans
      (share_enrolled_other st hother)

/-- To register another name leaves the share of this one alone. -/
theorem share_register_other (env : Surroundings) {info : NodeInfo}
    (st : Storage) (hother : info.name ≠ name) :
    (st.register env info).1.share access name = st.share access name := by
  unfold register
  rcases enrol_cases env info st with ⟨e, henrol⟩ | ⟨-, -, henrol⟩
  · rw [henrol]
  · rw [henrol]
    exact share_settling_other hother
      (settling_of_settle env (at?_enrolled info st)
        ((slot?_enrolled ..).trans (if_pos rfl)))

-- ============================================================== all nodes

theorem snapshots_cons (env : Surroundings) (i : Slot) (rest : List Slot)
    (st : Storage) :
    let first := st.snapshotAt env i
    let more := snapshots env rest first.1
    snapshots env (i :: rest) st
      = (more.1, first.2.1.toList ++ more.2.1, first.2.2 ++ more.2.2) :=
  rfl

/-- Snapshots of some places and then of others, told in that order. -/
theorem snapshots_append (env : Surroundings) (places rest : List Slot)
    (st : Storage) :
    let first := snapshots env places st
    let more := snapshots env rest first.1
    snapshots env (places ++ rest) st
      = (more.1, first.2.1 ++ more.2.1, first.2.2 ++ more.2.2) := by
  induction places generalizing st with
  | nil => rfl
  | cons i tail ih =>
    rw [List.cons_append, snapshots_cons, snapshots_cons, ih]
    dsimp only
    rw [List.append_assoc, List.append_assoc]

/-- Some places are closed and then others. -/
theorem teardowns_append (places rest : List Slot) (st : Storage) :
    let first := teardowns places st
    let more := teardowns rest first.1
    teardowns (places ++ rest) st = (more.1, first.2 ++ more.2) := by
  induction places generalizing st with
  | nil => rfl
  | cons i tail ih =>
    show ((teardowns (tail ++ rest) _).1, _ ++ (teardowns (tail ++ rest) _).2)
      = _
    rw [ih, ← List.append_assoc]
    rfl

/-- A free name is none of those that lead anywhere. -/
theorem values_of_free (h : Named st) (hslot : st.slot? name = none) :
    Others name st.names.values st := by
  intro i hi r hat hname
  obtain ⟨⟨other, j⟩, hmem, rfl⟩ := List.mem_map.1 hi
  have hother : st.slot? other = some j := (Table.mem_entries_iff ..).1 hmem
  obtain ⟨r', hat', rfl⟩ := h other j hother
  cases hat.symm.trans hat'
  rw [hname, hslot] at hother
  cases hother

/-- A name that leads to a registration is one of those that do, once. -/
theorem values_around (h : Named st) (hslot : st.slot? name = some i) :
    ∃ before after, st.names.values = before ++ i :: after
      ∧ Others name before st ∧ Others name after st := by
  obtain ⟨before, after, hentries⟩ :=
    List.append_of_mem ((Table.mem_entries_iff st.names name i).2 hslot)
  have hsorted := st.names.sorted
  rw [hentries] at hsorted
  obtain ⟨-, hafter, hbefore⟩ := List.pairwise_append.1 hsorted
  have hothers {l : List (String × Slot)} (hl : ∀ e ∈ l, e ∈ st.names.entries)
      (hdiffer : ∀ e ∈ l, e.1 ≠ name) : Others name (l.map Prod.snd) st := by
    intro j hj r hat hname
    obtain ⟨⟨other, j⟩, hmem, rfl⟩ := List.mem_map.1 hj
    obtain ⟨r', hat', rfl⟩ :=
      h other j ((Table.mem_entries_iff ..).1 (hl _ hmem))
    cases hat.symm.trans hat'
    exact hdiffer _ hmem hname
  refine ⟨before.map Prod.snd, after.map Prod.snd, ?_, hothers ?_ ?_,
    hothers ?_ ?_⟩
  · unfold Table.values
    rw [hentries, List.map_append, List.map_cons]
  · exact fun e he => hentries ▸ List.mem_append_left _ he
  · intro e he heq
    have hlt : e.1 < name := hbefore e he (name, i) List.mem_cons_self
    exact String.lt_irrefl name (heq ▸ hlt)
  · exact fun e he =>
      hentries ▸ List.mem_append_right _ (List.mem_cons_of_mem _ he)
  · intro e he heq
    exact String.lt_irrefl name (heq ▸ (List.pairwise_cons.1 hafter).1 e he)

/-- Where the share has not changed, the registrations of the name have not,
but for serials. -/
theorem at?_of_share (hkeeps : Keeps (fun r s => s.name = r.name) st st')
    (hshare : st'.share access name = st.share access name)
    (hat : st.at? i = some r) (hname : r.name = name) :
    ∃ s, st'.at? i = some s ∧ s.name = name ∧ s.plain = r.plain
      ∧ st'.number name = st.number name := by
  have hplaces : st'.places name = st.places name := places_of_keeps hkeeps
  have hplace : st'.place? name (st.number name i) = some i := by
    unfold place?
    rw [hplaces]
    exact place?_number (mem_places.2 ⟨r, hat, hname⟩)
  have hmade : st'.made name = st.made name := congrArg Share.made hshare
  have hplain := getElem?_made_number hat hname
  rw [← hmade, getElem?_made, hplace] at hplain
  obtain ⟨s, hat', hplain⟩ := Option.map_eq_some_iff.1 hplain
  have hname' : s.plain.name = name := hplain ▸ hname
  refine ⟨s, hat', hname', hplain, ?_⟩
  unfold number
  rw [hplaces]

theorem share_teardowns_others {places : List Slot}
    (h : Others name places st) :
    (teardowns places st).1.share access name = st.share access name := by
  induction places generalizing st with
  | nil => rfl
  | cons i rest ih =>
    have hrest := h.tail.keeps (keeps_teardownAt tame_name i st)
    exact (ih hrest).trans (share_teardownAt_other h.head)

theorem unspoken_teardowns (places : List Slot) (st : Storage) :
    Registration.Unspoken (teardowns places st).2 := by
  induction places generalizing st with
  | nil => exact ⟨rfl, rfl⟩
  | cons i rest ih => exact (unspoken_teardownAt i st).append (ih _)

/-- A shutdown is for every node what its own removal would be: of all the
teardowns one at most is of its registration, and the names of others were
never in its share. -/
theorem share_shutdown (h : Named st) :
    st.shutdown.1.share access name = (st.share access name).remove := by
  have hempty : ({ st with names := ∅ } : Storage).share access name
      = { st.share access name with current := none } := share_forgot st rfl
  unfold shutdown
  cases hslot : st.slot? name with
  | none =>
    have hcurrent : (st.share access name).current = none :=
      current_of_free hslot
    have hothers : Others name st.names.values { st with names := ∅ } :=
      values_of_free h hslot
    rw [share_teardowns_others hothers, hempty, Share.remove_of_none hcurrent]
  | some i =>
    obtain ⟨before, after, hvalues, hbefore, hafter⟩ := values_around h hslot
    obtain ⟨r, hat, hname⟩ := h name i hslot
    rw [hvalues, teardowns_append]
    let bare : Storage := { st with names := ∅ }
    let first := (teardowns before bare).1
    have hfirst : first.share access name = bare.share access name :=
      share_teardowns_others hbefore
    have hkeeps : Keeps (fun r s => s.name = r.name) bare first :=
      keeps_teardowns tame_name before bare
    obtain ⟨s, hat', hname', hplain, hnumber⟩ :=
      at?_of_share hkeeps hfirst hat hname
    have hbare : Others name after bare := hafter
    have hothers : Others name after (first.teardownAt i).1 :=
      hbare.keeps (tame_name.then hkeeps (keeps_teardownAt tame_name i first))
    show (teardowns after (first.teardownAt i).1).1.share access name = _
    rw [share_teardowns_others hothers, share_teardownAt hat' hname', hfirst,
      hempty, hplain, hnumber, Share.remove_eq (current_of_slot? hslot)
        (getElem?_made_number hat hname)]
    rfl

theorem snapshotAt_eq (env : Surroundings) (hat : st.at? i = some r) :
    let s := r.snapshot (st.services env st.clusterOf)
    st.snapshotAt env i = ((st.commit i s).1, some s.result, s.effects) := by
  unfold snapshotAt
  rw [hat]
  rfl

/-- The snapshot of another node has nothing to do with this one. -/
theorem snapshotAt_other (access : AccessControl) (env : Surroundings)
    (h : Others name [i] st) (hsigned : Everywhere Registration.Signed st) :
    let shown := st.snapshotAt env i
    shown.1.share access name = st.share access name
      ∧ shown.2.1.toList.filter (·.name = name) = []
      ∧ said name shown.2.2 = [] := by
  cases hat : st.at? i with
  | none =>
    unfold snapshotAt
    rw [hat]
    exact ⟨rfl, rfl, rfl⟩
  | some r =>
    have hother : r.name ≠ name := h i List.mem_cons_self r hat
    have hinfo : (r.snapshot (st.services env st.clusterOf)).result.name
        ≠ name :=
      ((hsigned i r hat).seen env.now).symm ▸ hother
    rw [snapshotAt_eq env hat]
    exact ⟨share_commit_other hat (tame_name.looked _ r) hother,
      List.filter_cons_of_neg (by simpa using hinfo),
      Registration.said_of_other (.ask .snapshot) hother⟩

/-- Snapshots of nodes of other names leave the share of this one, and are
neither listed nor told under its name. -/
theorem snapshots_others (access : AccessControl) (env : Surroundings)
    {places : List Slot} (h : Others name places st)
    (hsigned : Everywhere Registration.Signed st) :
    let listed := snapshots env places st
    listed.1.share access name = st.share access name
      ∧ listed.2.1.filter (·.name = name) = []
      ∧ said name listed.2.2 = [] := by
  induction places generalizing st with
  | nil => exact ⟨rfl, rfl, rfl⟩
  | cons i rest ih =>
    obtain ⟨hshare, hinfo, htold⟩ := snapshotAt_other access env h.head hsigned
    obtain ⟨hshare', hinfos, htold'⟩ :=
      ih (h.tail.keeps (keeps_snapshotAt tame_name env i st))
        (hsigned.keeps
          (keeps_snapshotAt (tame_of_requests Registration.signed_perform)
            env i st))
    rw [snapshots_cons]
    refine ⟨hshare'.trans hshare, ?_, ?_⟩
    · rw [List.filter_append, hinfo, hinfos]
      rfl
    · rw [said_append, htold, htold']
      rfl

/-- The snapshot of a registration of this name is the one that its share
takes. -/
theorem share_snapshotAt (env : Surroundings) (hat : st.at? i = some r)
    (hname : r.name = name) :
    let s := r.plain.snapshot ((st.share env.access name).services env)
    (st.snapshotAt env i).1.share env.access name
        = (st.share env.access name).put (st.number name i) s.state
      ∧ (st.snapshotAt env i).2.1 = some s.result
      ∧ said name (st.snapshotAt env i).2.2 = said name s.effects := by
  have hplain : r.plain.snapshot ((st.share env.access name).services env)
      = (r.snapshot (st.services env st.clusterOf)).plain id :=
    Registration.plain_snapshot (st.services env st.clusterOf) r
  rw [snapshotAt_eq env hat, hplain]
  exact ⟨share_commit hat (tame_name.looked _ r) hname, rfl,
    (said_plain _).symm⟩

/-- Snapshots of a node and of others on either side: of the share they are the
snapshot of the node. -/
theorem snapshots_around (env : Surroundings) {before after : List Slot}
    (hat : st.at? i = some r) (hname : r.name = name)
    (hbefore : Others name before st) (hafter : Others name after st)
    (hsigned : Everywhere Registration.Signed st) :
    let listed := snapshots env (before ++ i :: after) st
    let s := r.plain.snapshot ((st.share env.access name).services env)
    listed.1.share env.access name
      = (st.share env.access name).put (st.number name i) s.state
      ∧ listed.2.1.filter (·.name = name) = [s.result]
      ∧ said name listed.2.2 = said name s.effects := by
  have hsign := tame_of_requests Registration.signed_perform
  let first := snapshots env before st
  obtain ⟨hfirst, hinfos, htold⟩ :=
    snapshots_others env.access env hbefore hsigned
  have hkeeps : Keeps (fun r s => s.name = r.name) st first.1 :=
    keeps_snapshots tame_name env before st
  have hsigned₁ := hsigned.keeps (keeps_snapshots hsign env before st)
  obtain ⟨s, hat₁, hname₁, hplain, hnumber⟩ :=
    at?_of_share hkeeps hfirst hat hname
  obtain ⟨hsecond, hinfo, htold₁⟩ := share_snapshotAt env hat₁ hname₁
  rw [hfirst, hplain] at hsecond hinfo htold₁
  obtain ⟨hthird, hinfos₂, htold₂⟩ := snapshots_others env.access env
    (hafter.keeps
      (tame_name.then hkeeps (keeps_snapshotAt tame_name env i first.1)))
    (hsigned₁.keeps (keeps_snapshotAt hsign env i first.1))
  -- Of the three parts it is the middle one that bears the name.
  have hown :
      (r.plain.snapshot ((st.share env.access name).services env)).result.name
          = name :=
    (Registration.Signed.seen (r := r.plain) (hsigned i r hat) env.now).trans
      hname
  rw [snapshots_append, snapshots_cons]
  dsimp only
  refine ⟨?_, ?_, ?_⟩
  · rw [hthird, hsecond, hnumber]
  · rw [List.filter_append, List.filter_append, hinfos, hinfos₂, hinfo,
      List.append_nil, List.nil_append]
    simp [hown]
  · rw [said_append, said_append, htold, htold₁, htold₂]
    exact List.append_nil _

/-- Of a list one node sees its own snapshot. -/
theorem share_list (env : Surroundings) (h : Named st)
    (hsigned : Everywhere Registration.Signed st) :
    ((st.list env).1.share env.access name,
        Answer.infos ((st.list env).2.1.filter (·.name = name)),
        said name (st.list env).2.2)
      = (st.share env.access name).perform env .list := by
  unfold list
  cases hslot : st.slot? name with
  | none =>
    obtain ⟨hshare, hinfos, htold⟩ := snapshots_others env.access env
      (values_of_free h hslot) hsigned
    have hcurrent : (st.share env.access name).current = none :=
      current_of_free hslot
    unfold Share.perform
    rw [hshare, hinfos, htold]
    dsimp only
    rw [hcurrent]
    rfl
  | some i =>
    obtain ⟨before, after, hvalues, hbefore, hafter⟩ := values_around h hslot
    obtain ⟨r, hat, hname⟩ := h name i hslot
    have hrname : r.plain.name = name := hname
    obtain ⟨hshare, hinfos, htold⟩ :=
      snapshots_around env hat hname hbefore hafter hsigned
    rw [hvalues, hshare, hinfos, htold,
      Share.perform_list (current_of_slot? hslot)
        (getElem?_made_number hat hname), hrname]

end Storage

-- ================================================================ orders

/-- Whether an order concerns a node: it is about the node, or about all nodes,
or about what callers may do. -/
def Order.concerns (name : String) : Order → Bool
  | grant _ _ | revokeAll _ | list | shutdown => true
  | register info => info.name = name
  | getOrRegister other | get other | remove other | call other _ _ =>
    other = name

/-- What an answer says of a node. Clients are told by their addresses. -/
def Answer.of (name : String) : Answer → Answer
  | number result => .number result
  | done result => .done result
  | infos listed => .infos (listed.filter (·.name = name))
  | called answer => .called answer.plain
  | nobody => .nobody

namespace Guarded

variable {g : Guarded} {env : Surroundings} {o : Order}

def share (name : String) (g : Guarded) : Share :=
  g.storage.share g.access name

/-- Registering a node of this name does to its share what it would do if there
were no other node. -/
theorem register_concerned (env : Surroundings) (info : NodeInfo)
    (g : Guarded) :
    let x := g.storage.register (g.around env) info
    (x.1.share g.access info.name,
      (Answer.number (x.2.1.map (x.1.number info.name))).of name,
        said info.name x.2.2)
      = (((g.share info.name).register env info).1,
          Answer.number ((g.share info.name).register env info).2, []) := by
  obtain ⟨hregister, hquiet⟩ :=
    Storage.share_register (g.around env) info g.storage
  dsimp only
  rw [hquiet.said]
  exact congrArg (fun x => (x.1, Answer.number x.2, ([] : List Effect)))
    hregister

/-- An order that concerns a node does to the share of the node what it does
to a share, and nothing else counts for that. -/
theorem perform_concerned (env : Surroundings) (hreached : g.storage.Reached)
    (hconcerns : o.concerns name = true) :
    ((g.perform env o).1.share name, (g.perform env o).2.1.of name,
        said name (g.perform env o).2.2)
      = (g.share name).perform env o := by
  have hnamed := hreached.named
  cases o with
  | grant | revokeAll => rfl
  | register info =>
    obtain rfl : info.name = name := of_decide_eq_true hconcerns
    exact register_concerned env info g
  | getOrRegister other =>
    obtain rfl : other = name := of_decide_eq_true hconcerns
    unfold perform Share.perform Storage.getOrRegister
    dsimp only
    cases hslot : g.storage.slot? other with
    | some i =>
      have hcurrent : (g.share other).current = _ :=
        Storage.current_of_slot? hslot
      rw [hcurrent]
      rfl
    | none =>
      have hcurrent : (g.share other).current = none :=
        Storage.current_of_free hslot
      rw [hcurrent]
      exact register_concerned env (.bare other) g
  | get other =>
    obtain rfl : other = name := of_decide_eq_true hconcerns
    have hget : (g.share other).get other = _ :=
      Storage.get_share g.access other g.storage
    unfold Share.perform
    dsimp only
    rw [hget]
    rfl
  | remove other =>
    obtain rfl : other = name := of_decide_eq_true hconcerns
    have hshare : (g.storage.remove other).1.share g.access other
        = (g.share other).remove :=
      Storage.share_remove (hnamed other)
    have hget : (g.share other).get other = _ :=
      Storage.get_share g.access other g.storage
    have hresult : (g.storage.remove other).2.1
        = ((g.share other).get other).map fun _ => () := by
      rw [hget, Storage.result_remove]
      cases g.storage.get other <;> rfl
    show ((g.storage.remove other).1.share g.access other,
      Answer.done (g.storage.remove other).2.1,
      said other (g.storage.remove other).2.2) = _
    rw [hshare, hresult, (Storage.unspoken_remove other g.storage).said]
    rfl
  | list =>
    obtain ⟨run, hrun⟩ := hreached
    exact Storage.share_list (g.around env) hnamed
      (hrun ▸ Storage.signed_performAll run)
  | shutdown =>
    have hsaid : said name g.storage.shutdown.2 = [] :=
      (Storage.unspoken_teardowns _ _).said
    show (g.storage.shutdown.1.share g.access name, _,
      said name g.storage.shutdown.2) = _
    rw [Storage.share_shutdown hnamed, hsaid]
    rfl
  | call other k d =>
    obtain rfl : other = name := of_decide_eq_true hconcerns
    have hfound : (g.share other).made[k]? = _ :=
      Storage.getElem?_made_eq other k g.storage
    cases hmade : g.storage.made? other k with
    | none =>
      rw [hmade] at hfound
      rw [perform_nobody hmade, Share.perform_nobody hfound]
      rfl
    | some found =>
      obtain ⟨i, r⟩ := found
      obtain ⟨hplace, hat⟩ := Storage.made?_eq_some.1 hmade
      rw [hmade] at hfound
      have hshare :
          (g.storage.commit i (d.perform (g.services env) r)).1.share
              g.access other
            = (g.share other).put k
                (d.perform (g.services env) r).state.plain := by
        rw [← Storage.number_of_place? hplace]
        exact Storage.share_commit hat (d.perform_name (g.services env) r)
          (Storage.name_of_made? hmade)
      obtain ⟨hstate, hresult, htold⟩ :=
        Registration.plain_deed other (g.services env) d r
      rw [perform_call hmade, Share.perform_call hfound]
      show ((g.storage.commit i (d.perform (g.services env) r)).1.share
        g.access other, _, _) = _
      rw [hshare, ← hstate]
      exact congrArg (Prod.mk _)
        (Prod.ext (congrArg Answer.called hresult.symm) htold.symm)

/-- Any other order leaves the share of the node as it was, and tells nothing
about the node. -/
theorem perform_other (env : Surroundings) (hreached : g.storage.Reached)
    (hother : o.concerns name = false) :
    (g.perform env o).1.share name = g.share name
      ∧ said name (g.perform env o).2.2 = [] := by
  have hnamed := hreached.named
  cases o with
  | grant | revokeAll | list | shutdown => cases hother
  | register info =>
    have hne : info.name ≠ name := of_decide_eq_false hother
    exact ⟨Storage.share_register_other (g.around env) g.storage hne,
      (Storage.share_register (g.around env) info g.storage).2.said⟩
  | getOrRegister other =>
    have hne : other ≠ name := of_decide_eq_false hother
    unfold perform Storage.getOrRegister
    dsimp only
    cases g.storage.slot? other with
    | some i => exact ⟨rfl, rfl⟩
    | none =>
      have hbare : (NodeInfo.bare other).name ≠ name := hne
      exact ⟨Storage.share_register_other (g.around env) g.storage hbare,
        (Storage.share_register (g.around env) (.bare other) g.storage).2.said⟩
  | get other => exact ⟨rfl, rfl⟩
  | remove other =>
    have hne : other ≠ name := of_decide_eq_false hother
    exact ⟨Storage.share_remove_other hne (hnamed other),
      (Storage.unspoken_remove other g.storage).said⟩
  | call other k d =>
    have hne : other ≠ name := of_decide_eq_false hother
    cases hmade : g.storage.made? other k with
    | none =>
      rw [perform_nobody hmade]
      exact ⟨rfl, rfl⟩
    | some found =>
      obtain ⟨i, r⟩ := found
      have hrname : r.name ≠ name := Storage.name_of_made? hmade ▸ hne
      rw [perform_call hmade]
      exact ⟨Storage.share_commit_other (Storage.made?_eq_some.1 hmade).2
          (d.perform_name (g.services env) r) hrname,
        Registration.said_of_other d hrname⟩

-- ================================================================== runs

/-- A run less the orders that concern other nodes alone. -/
def onlyOf (name : String) (run : Run) : Run :=
  run.filter fun x => x.2.concerns name

/-- Two storages of which a node has the same share stay so, while one of them
is ordered things that do not concern the node as well. By induction on the
orders; each of them is one for both, or one for the first alone. -/
theorem isolated_of_share (name : String) (run : Run) {g h : Guarded}
    (hg : g.storage.Reached) (hh : h.storage.Reached)
    (hshare : h.share name = g.share name) :
    (performAll (onlyOf name run) h).1.share name
      = (performAll run g).1.share name
      ∧ (turns (onlyOf name run) h).map (fun t => t.answer.of name)
        = ((turns run g).filter fun t => t.order.concerns name).map
          (fun t => t.answer.of name)
      ∧ said name (performAll (onlyOf name run) h).2
        = said name (performAll run g).2 := by
  induction run generalizing g h with
  | nil => exact ⟨hshare, rfl, rfl⟩
  | cons x rest ih =>
    obtain ⟨env, o⟩ := x
    have hg' := reached_of_perform env o hg
    cases hconcerns : o.concerns name with
    | true =>
      have honly :
          onlyOf name ((env, o) :: rest) = (env, o) :: onlyOf name rest :=
        List.filter_cons_of_pos hconcerns
      have hsame := perform_concerned env hh hconcerns
      rw [hshare, ← perform_concerned env hg hconcerns] at hsame
      obtain ⟨hshare', hsame⟩ := Prod.ext_iff.1 hsame
      obtain ⟨hanswer, hsaid⟩ := Prod.ext_iff.1 hsame
      obtain ⟨hend, hanswers, htold⟩ :=
        ih hg' (reached_of_perform env o hh) hshare'
      have hturns :
          (turns ((env, o) :: rest) g).filter (fun t => t.order.concerns name)
            = ⟨env, o, g⟩ :: (turns rest (g.perform env o).1).filter
                fun t => t.order.concerns name :=
        List.filter_cons_of_pos hconcerns
      rw [honly, performAll_cons, performAll_cons, hturns]
      refine ⟨hend, ?_, ?_⟩
      · exact congrArg₂ List.cons hanswer hanswers
      · rw [said_append, said_append, htold]
        exact congrArg (· ++ _) hsaid
    | false =>
      have honly : onlyOf name ((env, o) :: rest) = onlyOf name rest :=
        List.filter_cons_of_neg (by simp [hconcerns])
      obtain ⟨hkept, hsilent⟩ := perform_other env hg hconcerns
      obtain ⟨hend, hanswers, htold⟩ := ih hg' hh (hshare.trans hkept.symm)
      have hturns :
          (turns ((env, o) :: rest) g).filter (fun t => t.order.concerns name)
            = (turns rest (g.perform env o).1).filter fun t =>
              t.order.concerns name :=
        List.filter_cons_of_neg (by simp [hconcerns])
      rw [honly, performAll_cons, hturns]
      refine ⟨hend, hanswers, ?_⟩
      rw [said_append, hsilent]
      exact htold

/-- Leaving out of a run all orders that concern other nodes alone makes no
difference to a node: whether its name is registered, and for which of the
registrations that were made under it; what each of those has come to, and so
the current one; what the orders that concern the node give back, of a list
the node's own part; and the lifecycle events and health messages about it, in
order. Serials apart, which tell clients and pollers of the whole run apart. -/
theorem nodes_isolated (run : Run) (access : AccessControl) (name : String) :
    let start : Guarded := ⟨access, {}⟩
    let whole := performAll run start
    let part := performAll (onlyOf name run) start
    part.1.access = whole.1.access
      ∧ part.1.storage.current name = whole.1.storage.current name
      ∧ (∀ k, (part.1.storage.made? name k).map (fun found => found.2.plain)
          = (whole.1.storage.made? name k).map fun found => found.2.plain)
      ∧ (part.1.storage.find? name).map Registration.plain
        = (whole.1.storage.find? name).map Registration.plain
      ∧ (turns (onlyOf name run) start).map (fun t => t.answer.of name)
        = ((turns run start).filter fun t => t.order.concerns name).map
            (fun t => t.answer.of name)
      ∧ said name part.2 = said name whole.2 := by
  intro start whole part
  have hreached : start.storage.Reached := ⟨[], rfl⟩
  obtain ⟨hshare, hanswers, hsaid⟩ :=
    isolated_of_share name run hreached hreached rfl
  have hmade : part.1.storage.made name = whole.1.storage.made name :=
    congrArg Share.made hshare
  have hcurrent : part.1.storage.current name = whole.1.storage.current name :=
    congrArg Share.current hshare
  refine ⟨congrArg Share.access hshare, hcurrent, fun k => ?_, ?_,
    hanswers, hsaid⟩
  · rw [← Storage.getElem?_made_eq, ← Storage.getElem?_made_eq, hmade]
  · rw [Storage.find?_eq_current (reached_of_performAll _ hreached).named,
      Storage.find?_eq_current (reached_of_performAll _ hreached).named,
      hmade, hcurrent]

end Guarded

end Fleetkeeper
