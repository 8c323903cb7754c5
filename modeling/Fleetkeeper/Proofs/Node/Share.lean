/-
A storage as one node sees it: the registrations that were made under its
name, which of them the name leads to, and what was told about it. `Share` is
that part, and a machine of its own: it says what each order that concerns the
node does, without anything of other nodes to do it with.

Here are the moves of a storage against the moves of a share. Each of them has
two sides. On a registration of the name, the share of what comes out is the
share moved (`share_commit`, `share_enrolled`, `share_remove`); on one of
another name the share stays as it was (`share_commit_other` and so on).
-/
import Fleetkeeper.Proofs.Node.Keeping
import Fleetkeeper.Proofs.Node.Plain
import Fleetkeeper.Proofs.Node.Telling

namespace Fleetkeeper

-- ======================================================= told about a node

def Effect.about (name : String) : Effect → Bool
  | lifecycle e => e.actor = name
  | health e => e.node = name
  | log _ | journal _ | bindAsked _ _ | pollerStarted _ _ | pollerStopped _ =>
    false

/-- The lifecycle events and the health messages about a node, in order. -/
def said (name : String) (told : List Effect) : List Effect :=
  told.filter (Effect.about name)

variable {name : String}

theorem said_append (told more : List Effect) :
    said name (told ++ more) = said name told ++ said name more :=
  List.filter_append ..

theorem said_plain (told : List Effect) :
    said name (told.map Effect.plain) = said name told := by
  induction told with
  | nil => rfl
  | cons e rest ih =>
    unfold said at ih ⊢
    rw [List.map_cons, List.filter_cons, List.filter_cons, ih]
    cases e <;> rfl

/-- Nothing is said of a node if no event and no message names it. -/
theorem said_of_messages {told : List Effect}
    (hlifecycle : ∀ e ∈ lifecycleOf told, e.actor ≠ name)
    (hhealth : ∀ m ∈ healthOf told, m.node ≠ name) : said name told = [] := by
  refine List.filter_eq_nil_iff.2 fun e he habout => ?_
  cases e with
  | lifecycle e =>
    exact hlifecycle e (List.mem_filterMap.2 ⟨_, he, rfl⟩)
      (of_decide_eq_true habout)
  | health m =>
    exact hhealth m (List.mem_filterMap.2 ⟨_, he, rfl⟩)
      (of_decide_eq_true habout)
  | log | journal | bindAsked | pollerStarted | pollerStopped => cases habout

namespace Registration

variable {env : Services} {r : Registration}

theorem Unspoken.said {told : List Effect} (h : Unspoken told) :
    said name told = [] := by
  refine said_of_messages (fun e he => ?_) (fun m hm => ?_)
  · rw [h.1] at he
    cases he
  · rw [h.2] at hm
    cases hm

/-- A registration speaks of its own node alone. -/
theorem Telling.own {s : Registration} {q : Request}
    {events : List LifecycleEvent} {messages : List HealthEvent}
    (h : Telling env r s q events messages) :
    (∀ e ∈ events, e.actor = r.name) ∧ ∀ m ∈ messages, m.node = r.name := by
  cases h with
  | idle | brokenOff | bound =>
    exact ⟨List.forall_mem_nil _, List.forall_mem_nil _⟩
  | looked =>
    refine ⟨fun e he => ?_, List.forall_mem_nil _⟩
    rw [(mem_turned.1 he).2]
  | reported =>
    refine ⟨List.forall_mem_nil _, fun m hm => ?_⟩
    rw [List.mem_singleton.1 hm]
  | edited =>
    refine ⟨fun e he => ?_, fun m hm => ?_⟩
    · rcases List.mem_append.1 he with he | he
      · rcases List.mem_append.1 he with he | he
        · rw [(mem_turned.1 he).2]
        · rw [(mem_turned.1 he).2]
      · rw [(mem_updated.1 he).2]
    · split at hm
      · rw [List.mem_singleton.1 hm]
      · cases hm
  | moved =>
    refine ⟨fun e he => ?_, List.forall_mem_nil _⟩
    rcases List.mem_append.1 he with he | he
    · rw [(mem_turned.1 he).2]
    · rw [List.mem_singleton.1 he]

theorem unspoken_acceptEvent (env : Services) (e : EngineEvent)
    (r : Registration) :
    Unspoken (r.acceptEvent env e) := by
  unfold acceptEvent
  split
  · split <;> exact ⟨rfl, rfl⟩
  · exact ⟨rfl, rfl⟩

/-- Nothing that is done to one node is told of another. -/
theorem said_of_other (d : Deed) (hother : r.name ≠ name) :
    said name (d.perform env r).effects = [] := by
  cases d with
  | ask q =>
    obtain ⟨hlifecycle, hhealth⟩ := (telling_of_perform env q r).own
    exact said_of_messages (fun e he => hlifecycle e he ▸ hother)
      (fun m hm => hhealth m hm ▸ hother)
  | accept e => exact (unspoken_acceptEvent env e r).said
  | moveOn phase => rfl

/-- What can be done to a registration comes to the same without serials.
Events of its engine are the one thing that looks at other nodes, and it is
told to the log alone. -/
theorem plain_deed (name : String) (env : Services) (d : Deed)
    (r : Registration) :
    (d.perform env.alone r.plain).state = (d.perform env r).state.plain
      ∧ (d.perform env.alone r.plain).result = (d.perform env r).result.plain
      ∧ said name (d.perform env.alone r.plain).effects
        = said name (d.perform env r).effects := by
  cases d with
  | ask q =>
    obtain ⟨hperform, hanswer⟩ := plain_perform env q r
    refine ⟨congrArg Step.state hperform, hanswer, ?_⟩
    show said name (q.perform env.alone r.plain).effects
      = said name (q.perform env r).effects
    rw [hperform]
    exact said_plain _
  | accept e =>
    refine ⟨rfl, rfl, ?_⟩
    show said name (r.plain.acceptEvent env.alone e)
      = said name (r.acceptEvent env e)
    rw [(unspoken_acceptEvent _ e _).said, (unspoken_acceptEvent _ e _).said]
  | moveOn phase =>
    refine ⟨?_, rfl, rfl⟩
    obtain ⟨rname, draft, cache, lease, ttl, client, poller, closed⟩ := r
    cases poller <;> rfl

end Registration

-- ============================================================ the machine

/-- What a node has of a guarded storage. The registrations that were made
under its name are without serials. -/
structure Share where
  access : AccessControl
  made : List Registration := []
  /-- The number of the registration that the name leads to. -/
  current : Option Nat := none

namespace Share

def services (env : Surroundings) (sh : Share) : Services where
  now := env.now
  later := env.later
  access := sh.access
  makeClient := env.makeClient
  hasRuntime := env.hasRuntime
  polling := env.config.polling
  nodes := env.config.nodes
  timer := env.timer

def put (k : Nat) (r : Registration) (sh : Share) : Share :=
  { sh with made := sh.made.set k r }

def get (name : String) (sh : Share) : Except Fault Nat :=
  match sh.current with
  | some k => .ok k
  | none => .error (.nodeNotFound name)

/-- The name goes, and the registration that it led to is closed. -/
def remove (sh : Share) : Share :=
  match sh.current with
  | some k =>
    { sh with made := sh.made.modify k fun r => r.teardown.state,
              current := none }
  | none => sh

theorem remove_of_none {sh : Share} (hcurrent : sh.current = none) :
    sh.remove = { sh with current := none } := by
  obtain ⟨access, made, current⟩ := sh
  cases hcurrent
  rfl

theorem remove_eq {sh : Share} {k : Nat} {r : Registration}
    (hcurrent : sh.current = some k) (hmade : sh.made[k]? = some r) :
    sh.remove = { sh.put k r.teardown.state with current := none } := by
  unfold remove put
  rw [hcurrent]
  dsimp only
  rw [List.modify_eq_set_getElem?, hmade]
  rfl

/-- A free name gets a registration. One that is described with an address is
bound to it; where that fails it is closed, and the name is free again. -/
def enrol (env : Surroundings) (info : NodeInfo) (sh : Share) :
    Share × Except Fault Nat :=
  let k := sh.made.length
  let r := Registration.ofInfo info
  match info.address with
  | none => ({ sh with made := sh.made ++ [r], current := some k }, .ok k)
  | some address =>
    let s := r.bind (sh.services env) address
    match s.result with
    | .ok _ =>
      ({ sh with made := sh.made ++ [s.state], current := some k }, .ok k)
    | .error e =>
      ({ sh with made := sh.made ++ [s.state.teardown.state],
                 current := none }, .error e)

def register (env : Surroundings) (info : NodeInfo) (sh : Share) :
    Share × Except Fault Nat :=
  if !checkName info.name then (sh, .error (.invalidNodeName info.name))
  else if channelLimit < env.config.nodes.healthCapacity then
    (sh, .error .outOfRange)
  else if sh.current.isSome then (sh, .error (.nodeExists info.name))
  else sh.enrol env info

/-- Carry out an order that concerns the node: what it leaves, what it gives
back, what it tells about the node. -/
def perform (env : Surroundings) (sh : Share) :
    Order → Share × Answer × List Effect
  | .grant principal more =>
    ({ sh with access := sh.access.grant principal more }, .done (.ok ()), [])
  | .revokeAll principal =>
    ({ sh with access := sh.access.revokeAll principal }, .done (.ok ()), [])
  | .register info =>
    let (sh, result) := sh.register env info
    (sh, .number result, [])
  | .getOrRegister name =>
    match sh.current with
    | some k => (sh, .number (.ok k), [])
    | none =>
      let (sh, result) := sh.register env (.bare name)
      (sh, .number result, [])
  | .get name => (sh, .number (sh.get name), [])
  | .remove name => (sh.remove, .done ((sh.get name).map fun _ => ()), [])
  | .list =>
    -- One node is listed by taking its snapshot.
    match sh.current.bind fun k => sh.made[k]?.map (k, ·) with
    | some (k, r) =>
      let s := r.snapshot (sh.services env)
      (sh.put k s.state, .infos [s.result], said r.name s.effects)
    | none => (sh, .infos [], [])
  | .shutdown => (sh.remove, .done (.ok ()), [])
  | .call name k d =>
    match sh.made[k]? with
    | some r =>
      let s := d.perform (sh.services env) r
      (sh.put k s.state, .called s.result, said name s.effects)
    | none => (sh, .nobody, [])

/-- A share with a registration in it is listed as its snapshot. -/
theorem perform_list {env : Surroundings} {sh : Share} {k : Nat}
    {r : Registration} (hcurrent : sh.current = some k)
    (hmade : sh.made[k]? = some r) :
    let s := r.snapshot (sh.services env)
    sh.perform env .list
      = (sh.put k s.state, .infos [s.result], said r.name s.effects) := by
  have hfound : (sh.current.bind fun k => sh.made[k]?.map (k, ·))
      = some (k, r) := by
    rw [hcurrent, Option.bind_some, hmade]
    rfl
  unfold perform
  dsimp only
  rw [hfound]

theorem perform_call {env : Surroundings} {sh : Share} {k : Nat}
    {r : Registration} {d : Registration.Deed} (hmade : sh.made[k]? = some r) :
    let s := d.perform (sh.services env) r
    sh.perform env (.call name k d)
      = (sh.put k s.state, .called s.result, said name s.effects) := by
  unfold perform
  dsimp only
  rw [hmade]

theorem perform_nobody {env : Surroundings} {sh : Share} {k : Nat}
    {d : Registration.Deed} (hmade : sh.made[k]? = none) :
    sh.perform env (.call name k d) = (sh, .nobody, []) := by
  unfold perform
  dsimp only
  rw [hmade]

end Share

namespace Storage

variable {st st' : Storage} {i j : Slot} {k : Nat} {r : Registration}

-- ================================================ places behind what was done

/-- Requests keep the name. -/
theorem tame_name : Tame fun r s => s.name = r.name where
  refl _ := rfl
  trans h h' := h'.trans h
  closed r :=
    Registration.perform_name { now := ⟨0⟩, later := ⟨0⟩ } .teardown r
  bound env address r := Registration.perform_name env (.bind address) r
  looked env r := Registration.perform_name env .snapshot r

/-- Places stay where they are while no registration is made. -/
theorem places_of_keeps (h : Keeps (fun r s => s.name = r.name) st st') :
    st'.places name = st.places name := by
  unfold places
  rw [h.length]
  refine List.filter_congr fun i hi => ?_
  obtain ⟨s, hs⟩ : ∃ s, st'.at? i = some s :=
    ⟨_, List.getElem?_eq_getElem (h.length ▸ List.mem_range.1 hi)⟩
  obtain ⟨r, hr, hname⟩ := h.each i s hs
  rw [hs, hr, Option.any_some, Option.any_some, hname]

theorem place?_number (hi : i ∈ st.places name) :
    st.place? name (st.number name i) = some i :=
  List.getElem?_idxOf hi

theorem number_of_place? (h : st.place? name k = some i) :
    st.number name i = k := by
  obtain ⟨hk, hget⟩ := List.getElem?_eq_some_iff.1 h
  unfold number
  rw [← hget]
  exact (nodup_places name st).idxOf_getElem k hk

-- ================================================== the share of one node

/-- The registrations that were made under a name, in order. -/
def made (name : String) (st : Storage) : List Registration :=
  (st.places name).filterMap fun i => (st.at? i).map Registration.plain

/-- The number of the registration that a name leads to. -/
def current (name : String) (st : Storage) : Option Nat :=
  (st.slot? name).map (st.number name)

def share (access : AccessControl) (name : String) (st : Storage) : Share where
  access
  made := st.made name
  current := st.current name

theorem current_of_slot? (hslot : st.slot? name = some i) :
    st.current name = some (st.number name i) := by
  unfold current
  rw [hslot]
  rfl

theorem current_of_free (hslot : st.slot? name = none) :
    st.current name = none := by
  unfold current
  rw [hslot]
  rfl

/-- Every place of a name has a registration. -/
theorem isSome_of_mem_places (hi : i ∈ st.places name) :
    ((st.at? i).map Registration.plain).isSome = true := by
  obtain ⟨r, hat, -⟩ := mem_places.1 hi
  rw [hat]
  rfl

theorem length_made (name : String) (st : Storage) :
    (st.made name).length = (st.places name).length :=
  List.filterMap_length_eq_length.2 fun _ => isSome_of_mem_places

/-- Where nothing is left out, the places stay what they are. -/
theorem getElem?_filterMap_of_isSome {α β : Type} {f : α → Option β}
    {l : List α} (h : ∀ a ∈ l, (f a).isSome = true) (k : Nat) :
    (l.filterMap f)[k]? = l[k]?.bind f := by
  induction l generalizing k with
  | nil => rfl
  | cons a rest ih =>
    obtain ⟨b, hb⟩ := Option.isSome_iff_exists.1 (h a List.mem_cons_self)
    rw [List.filterMap_cons_some hb]
    cases k with
    | zero => exact hb.symm
    | succ k => exact ih (fun a ha => h a (List.mem_cons_of_mem _ ha)) k

theorem getElem?_made (name : String) (k : Nat) (st : Storage) :
    (st.made name)[k]?
      = (st.place? name k).bind fun i => (st.at? i).map Registration.plain :=
  getElem?_filterMap_of_isSome (fun _ => isSome_of_mem_places) k

theorem getElem?_made_eq (name : String) (k : Nat) (st : Storage) :
    (st.made name)[k]? = (st.made? name k).map fun found => found.2.plain := by
  rw [getElem?_made]
  unfold made?
  cases st.place? name k with
  | none => rfl
  | some i =>
    show (st.at? i).map _ = Option.map _ ((st.at? i).bind _)
    cases st.at? i <;> rfl

theorem getElem?_made_number (hat : st.at? i = some r)
    (hname : r.name = name) :
    (st.made name)[st.number name i]? = some r.plain := by
  rw [getElem?_made, place?_number (mem_places.2 ⟨r, hat, hname⟩)]
  show (st.at? i).map _ = _
  rw [hat]
  rfl

/-- A name is looked up in its share as in the storage. -/
theorem get_share (access : AccessControl) (name : String) (st : Storage) :
    (st.share access name).get name = (st.get name).map (st.number name) := by
  unfold get Share.get
  cases hslot : st.slot? name with
  | none =>
    have hcurrent : (st.share access name).current = none :=
      current_of_free hslot
    rw [hcurrent]
    rfl
  | some i =>
    have hcurrent : (st.share access name).current = some (st.number name i) :=
      current_of_slot? hslot
    rw [hcurrent]
    rfl

/-- The registration that a name leads to, seen from its share. -/
theorem find?_eq_current (h : Named st) (name : String) :
    (st.find? name).map Registration.plain
      = (st.current name).bind fun k => (st.made name)[k]? := by
  unfold find?
  cases hslot : st.slot? name with
  | none =>
    rw [current_of_free hslot]
    rfl
  | some i =>
    obtain ⟨r, hat, hname⟩ := h name i hslot
    rw [current_of_slot? hslot, Option.bind_some, Option.bind_some, hat,
      getElem?_made_number hat hname]
    rfl

-- ================================================== one registration moves

section

variable {α : Type} {s : Step α} {access : AccessControl}

/-- Something done to a registration of the name. -/
theorem share_commit (hat : st.at? i = some r) (hkept : s.state.name = r.name)
    (hname : r.name = name) :
    (st.commit i s).1.share access name
      = (st.share access name).put (st.number name i) s.state.plain := by
  have hplaces : (st.commit i s).1.places name = st.places name :=
    places_of_keeps (keeps_commit tame_name hat hkept)
  have hi : i ∈ st.places name := mem_places.2 ⟨r, hat, hname⟩
  have hmade : (st.commit i s).1.made name
      = (st.made name).set (st.number name i) s.state.plain := by
    refine List.ext_getElem? fun k => ?_
    have hplace : (st.commit i s).1.place? name k = st.place? name k := by
      unfold place?
      rw [hplaces]
    rw [List.getElem?_set', getElem?_made, getElem?_made, hplace]
    cases hk : st.place? name k with
    | none => simp
    | some j =>
      show ((st.commit i s).1.at? j).map _ = _
      rw [at?_commit hat]
      by_cases hij : i = j
      · rw [if_pos hij, if_pos (number_of_place? (hij ▸ hk)), ← hij]
        show _ = ((st.at? i).map Registration.plain).map _
        rw [hat]
        rfl
      · -- Different places have different numbers.
        have hnumber : st.number name i ≠ k := by
          rintro rfl
          exact hij (Option.some.inj ((place?_number hi).symm.trans hk))
        rw [if_neg hij, if_neg hnumber]
        rfl
  have hcurrent : (st.commit i s).1.current name = st.current name := by
    unfold current number
    rw [hplaces]
    rfl
  show Share.mk access _ _ = Share.mk access _ _
  rw [hmade, hcurrent]
  rfl

theorem number_commit (hat : st.at? i = some r)
    (hkept : s.state.name = r.name) :
    (st.commit i s).1.number name = st.number name := by
  unfold number
  rw [places_of_keeps (keeps_commit tame_name hat hkept)]

/-- Something done to a registration of another name. -/
theorem share_commit_other (hat : st.at? i = some r)
    (hkept : s.state.name = r.name) (hother : r.name ≠ name) :
    (st.commit i s).1.share access name = st.share access name := by
  have hplaces : (st.commit i s).1.places name = st.places name :=
    places_of_keeps (keeps_commit tame_name hat hkept)
  have hmade : (st.commit i s).1.made name = st.made name := by
    unfold made
    rw [hplaces]
    refine List.filterMap_congr fun j hj => ?_
    have hij : i ≠ j := by
      rintro rfl
      obtain ⟨r', hat', hname⟩ := mem_places.1 hj
      cases hat.symm.trans hat'
      exact hother hname
    rw [at?_commit hat, if_neg hij]
  have hcurrent : (st.commit i s).1.current name = st.current name := by
    unfold current number
    rw [hplaces]
    rfl
  show Share.mk access _ _ = Share.mk access _ _
  rw [hmade, hcurrent]

-- ===================================================== names come and go

/-- A storage in which a name leads to a registration that is described. -/
def enrolled (info : NodeInfo) (st : Storage) : Storage :=
  { st with slots := st.slots ++ [Registration.ofInfo info],
            names := st.names.insert info.name st.slots.length }

theorem at?_enrolled (info : NodeInfo) (st : Storage) :
    (st.enrolled info).at? st.slots.length = some (Registration.ofInfo info) :=
  List.getElem?_concat_length

theorem slot?_enrolled (info : NodeInfo) (name : String) (st : Storage) :
    (st.enrolled info).slot? name
      = if name = info.name then some st.slots.length else st.slot? name :=
  Table.find?_insert ..

/-- The new place is the last one of its name, and of no other. -/
theorem places_enrolled (info : NodeInfo) (st : Storage) :
    (st.enrolled info).places name
      = st.places name ++ if info.name = name then [st.slots.length]
        else [] := by
  unfold places at? enrolled
  rw [List.length_append, List.length_singleton, List.range_succ,
    List.filter_append]
  congr 1
  · refine List.filter_congr fun i hi => ?_
    rw [List.getElem?_append_left (List.mem_range.1 hi)]
  · rw [List.filter_singleton, List.getElem?_concat_length]
    by_cases hname : info.name = name <;> simp [hname, Registration.ofInfo]

/-- Enrolling a node adds one to those that were made under its name. -/
theorem made_enrolled (info : NodeInfo) (st : Storage) :
    (st.enrolled info).made name
      = st.made name ++ if info.name = name then [Registration.ofInfo info]
        else [] := by
  unfold made
  rw [places_enrolled, List.filterMap_append]
  congr 1
  · refine List.filterMap_congr fun i hi => ?_
    obtain ⟨r, hat, -⟩ := mem_places.1 hi
    have hlt : i < st.slots.length := (List.getElem?_eq_some_iff.1 hat).1
    exact congrArg (Option.map Registration.plain)
      (List.getElem?_append_left hlt)
  · split
    · refine List.filterMap_cons_some (b := Registration.ofInfo info) ?_
      rw [at?_enrolled]
      rfl
    · rfl

/-- It gets the number that comes next under its name. -/
theorem number_enrolled (info : NodeInfo) (st : Storage) :
    (st.enrolled info).number info.name st.slots.length
      = (st.made info.name).length := by
  have hnew : st.slots.length ∉ st.places info.name := by
    intro hmem
    obtain ⟨r, hat, -⟩ := mem_places.1 hmem
    exact Nat.lt_irrefl _ (List.getElem?_eq_some_iff.1 hat).1
  unfold number
  rw [places_enrolled, if_pos rfl, List.idxOf_append_of_notMem hnew,
    List.idxOf_cons_self, length_made]
  rfl

/-- In the share of its name a registration is added, and is the current one.
-/
theorem share_enrolled (info : NodeInfo) (st : Storage) :
    (st.enrolled info).share access info.name
      = { st.share access info.name with
          made := st.made info.name ++ [Registration.ofInfo info],
          current := some (st.made info.name).length } := by
  have hcurrent : (st.enrolled info).current info.name
      = some (st.made info.name).length := by
    rw [current_of_slot? ((slot?_enrolled ..).trans (if_pos rfl)),
      number_enrolled]
  show Share.mk access _ _ = Share.mk access _ _
  rw [made_enrolled, if_pos rfl, hcurrent]

theorem share_enrolled_other {info : NodeInfo} (st : Storage)
    (hother : info.name ≠ name) :
    (st.enrolled info).share access name = st.share access name := by
  show Share.mk access _ _ = Share.mk access _ _
  rw [made_enrolled, if_neg hother, List.append_nil]
  unfold current number
  rw [places_enrolled, if_neg hother, List.append_nil, slot?_enrolled,
    if_neg hother.symm]

/-- The share when names go: what matters is whether this one does. -/
theorem share_forgot {names : Table Slot} (st : Storage)
    (hgone : names.find? name = none) :
    ({ st with names } : Storage).share access name
      = { st.share access name with current := none } := by
  show Share.mk access (st.made name) ((names.find? name).map _)
    = Share.mk access _ _
  rw [hgone]
  rfl

theorem share_forgot_other {names : Table Slot} (st : Storage)
    (hkept : names.find? name = st.slot? name) :
    ({ st with names } : Storage).share access name
      = st.share access name := by
  show Share.mk access (st.made name) ((names.find? name).map _)
    = Share.mk access _ _
  rw [hkept]
  rfl

-- ============================================================== closing

theorem teardownAt_eq (hat : st.at? i = some r) :
    st.teardownAt i = ((st.commit i r.teardown).1, r.teardown.effects) := by
  unfold teardownAt
  rw [hat]
  rfl

/-- Closing says nothing of a node. -/
theorem unspoken_teardownAt (i : Slot) (st : Storage) :
    Registration.Unspoken (st.teardownAt i).2 := by
  cases hat : st.at? i with
  | none =>
    unfold teardownAt
    rw [hat]
    exact ⟨rfl, rfl⟩
  | some r =>
    rw [teardownAt_eq hat, Registration.teardown_eq]
    exact Registration.unspoken_stopped r

theorem share_teardownAt (hat : st.at? i = some r) (hname : r.name = name) :
    (st.teardownAt i).1.share access name
      = (st.share access name).put (st.number name i)
        r.plain.teardown.state := by
  rw [teardownAt_eq hat, share_commit hat (tame_name.closed r) hname,
    Registration.plain_teardown]
  rfl

/-- Places of registrations of other names. -/
def Others (name : String) (places : List Slot) (st : Storage) : Prop :=
  ∀ i ∈ places, ∀ r, st.at? i = some r → r.name ≠ name

theorem Others.keeps {places : List Slot} (h : Others name places st)
    (hkeeps : Keeps (fun r s => s.name = r.name) st st') :
    Others name places st' := by
  intro i hi s hat
  obtain ⟨r, hat', hname⟩ := hkeeps.each i s hat
  rw [hname]
  exact h i hi r hat'

theorem Others.head {places : List Slot} (h : Others name (i :: places) st) :
    Others name [i] st :=
  fun j hj => h j (List.mem_singleton.1 hj ▸ List.mem_cons_self)

theorem Others.tail {places : List Slot} (h : Others name (i :: places) st) :
    Others name places st :=
  fun j hj => h j (List.mem_cons_of_mem _ hj)

/-- To close a registration of another name leaves the share alone. -/
theorem share_teardownAt_other (h : Others name [i] st) :
    (st.teardownAt i).1.share access name = st.share access name := by
  cases hat : st.at? i with
  | none =>
    unfold teardownAt
    rw [hat]
  | some r =>
    rw [teardownAt_eq hat]
    exact share_commit_other hat (tame_name.closed r)
      (h i List.mem_cons_self r hat)

/-- Closing the registration that the name has led to. -/
theorem share_closed {names : Table Slot} (hslot : st.slot? name = some i)
    (hat : st.at? i = some r) (hname : r.name = name)
    (hgone : names.find? name = none) :
    (({ st with names } : Storage).teardownAt i).1.share access name
      = (st.share access name).remove := by
  have hat' : ({ st with names } : Storage).at? i = some r := hat
  rw [share_teardownAt hat' hname, share_forgot st hgone,
    Share.remove_eq (current_of_slot? hslot) (getElem?_made_number hat hname)]
  rfl

-- ============================================================== removing

/-- Removing a name removes it from its share. -/
theorem share_remove
    (h : ∀ i, st.slot? name = some i →
      ∃ r, st.at? i = some r ∧ r.name = name) :
    (st.remove name).1.share access name = (st.share access name).remove := by
  unfold remove
  cases hslot : st.slot? name with
  | none =>
    rw [Share.remove_of_none (current_of_free hslot)]
    exact share_forgot st hslot
  | some i =>
    obtain ⟨r, hat, hname⟩ := h i hslot
    refine share_closed hslot hat hname ?_
    rw [Table.find?_erase, if_pos rfl]

/-- Removing another name leaves the share of this one. -/
theorem share_remove_other {other : String} (hother : other ≠ name)
    (h : ∀ i, st.slot? other = some i →
      ∃ r, st.at? i = some r ∧ r.name = other) :
    (st.remove other).1.share access name = st.share access name := by
  unfold remove
  cases hslot : st.slot? other with
  | none => rfl
  | some i =>
    obtain ⟨r, hat, hname⟩ := h i hslot
    show
      (({ st with names := st.names.erase other } : Storage).teardownAt
        i).1.share _ _ = _
    rw [share_teardownAt_other, share_forgot_other]
    · rw [Table.find?_erase, if_neg hother.symm]
      rfl
    · intro j hj r' hat'
      rw [List.mem_singleton.1 hj] at hat'
      cases hat.symm.trans hat'
      exact hname ▸ hother

theorem result_remove (name : String) (st : Storage) :
    (st.remove name).2.1 = (st.get name).map fun _ => () := by
  unfold remove get
  cases st.slot? name <;> rfl

theorem unspoken_remove (name : String) (st : Storage) :
    Registration.Unspoken (st.remove name).2.2 := by
  unfold remove
  split
  · exact ⟨rfl, rfl⟩
  · exact (unspoken_teardownAt _ _).append ⟨rfl, rfl⟩

end

end Storage

end Fleetkeeper
