/-
Which nodes are in which cluster, asked in two ways. One goes through all
registrations and sorts the names of those that are in the cluster; the other
goes by the name. They agree with each other, and with what was last said of
the registration that the name leads to.

# What was said

A cluster is given to a registration, not to a name: by the description that
it was made of, by a move, and by an edit, which gives the cluster that it
leaves. `givings` reads these off a run, each with the place of the
registration. A registration that has lost its name can be given a cluster
like any other, and then that counts for its place and for nothing else.

# Why it holds

The draft of every registration has the cluster last given to its place
(`Told`). Of all that a storage does only making a registration and requests
to it can give one; binding, snapshots and closing leave the clusters of all
registrations alone (`Keeps`). The rest is that a name leads to a registration
of that name, so that the scan finds the same names as the look-up.
-/
import Fleetkeeper.Proofs.Node.Keeping
import Fleetkeeper.Proofs.Node.Telling

namespace Fleetkeeper

namespace Registration

-- ================================================== clusters that are given

/-- The cluster that a request gives, if it gives one: a move gives the one
it names, an edit the one it leaves, unless it is denied. -/
def Request.given? (env : Services) (r : Registration) :
    Request → Option (Option String)
  | setCluster cluster => some cluster
  | mutate caller edit | breakOff caller edit =>
    if r.checkUpdate env caller = .ok () then
      some (edit (r.shown env.now)).cluster
    else none
  | heartbeat _ | snapshot | updateHealth _ _ | bind _ | teardown => none

/-- A request that gives no cluster leaves the one that is there. -/
theorem perform_cluster (env : Services) (q : Request) (r : Registration) :
    (q.perform env r).state.cluster = (q.given? env r).getD r.cluster := by
  have htelling := telling_of_perform env q r
  generalize (q.perform env r).state = s at htelling
  generalize lifecycleOf _ = events at htelling
  generalize healthOf _ = messages at htelling
  unfold cluster Request.given?
  cases htelling with
  | idle hidle hdraft =>
    rw [hdraft]
    cases q with
    | heartbeat | updateHealth | teardown | snapshot | bind => rfl
    | mutate | breakOff =>
      dsimp only
      rw [if_neg hidle]
      rfl
    | setCluster => exact hidle
  | looked hdraft | reported _ hdraft | bound hdraft =>
    rw [hdraft]
    rfl
  | edited hgranted hdraft | brokenOff hgranted hdraft =>
    dsimp only
    rw [hdraft, if_pos hgranted]
    rfl
  | moved _ hdraft =>
    rw [hdraft]
    rfl

end Registration

namespace Storage

variable {st st' : Storage} {i j : Slot} {r : Registration}

-- ====================================================== what a run has given

/-- A registration that is made is given the cluster of its description. -/
def enrolment (env : Surroundings) (info : NodeInfo) (st : Storage) :
    List (Slot × Option String) :=
  match (st.enrol env info).2 with
  | .ok i => [(i, info.cluster)]
  | .error _ => []

/-- The clusters that a request gives, each with the place of the registration
that it is given to. -/
def Request.givings (env : Surroundings) (st : Storage) :
    Request → List (Slot × Option String)
  | register info => enrolment env info st
  | getOrRegister name =>
    match st.slot? name with
    | some _ => []
    | none => enrolment env (.bare name) st
  | ask i q =>
    match st.at? i with
    | some r => ((q.given? (st.services env st.clusterOf) r).map (i, ·)).toList
    | none => []
  | remove _ | list | shutdown | moveOn _ _ => []

/-- The clusters that a run gives, in order. -/
def givings : Run → Storage → List (Slot × Option String)
  | [], _ => []
  | (env, q) :: rest, st =>
    q.givings env st ++ givings rest (q.perform env st).1

/-- The cluster last given to the registration at a place. -/
def lastGiven (given : List (Slot × Option String)) (i : Slot) :
    Option String :=
  ((given.filter (·.1 = i)).getLast?).bind Prod.snd

theorem lastGiven_concat (given : List (Slot × Option String))
    (cluster : Option String) :
    lastGiven (given ++ [(j, cluster)]) i = if j
      = i then cluster else lastGiven given i := by
  unfold lastGiven
  rw [List.filter_append]
  by_cases hij : j = i <;> simp [hij]

/-- Every registration is in the cluster that was last given to it. -/
def Told (given : List (Slot × Option String)) (st : Storage) : Prop :=
  ∀ i r, st.at? i = some r → r.cluster = lastGiven given i

variable {given : List (Slot × Option String)}

/-- Nothing that a storage does on its own gives a cluster. -/
theorem tame_cluster : Tame fun r s => s.cluster = r.cluster where
  refl _ := rfl
  trans h h' := h'.trans h
  closed r :=
    Registration.perform_cluster { now := ⟨0⟩, later := ⟨0⟩ } .teardown r
  bound env address r := Registration.perform_cluster env (.bind address) r
  looked env r := Registration.perform_cluster env .snapshot r

theorem Told.keeps (h : Told given st)
    (hkeeps : Keeps (fun r s => s.cluster = r.cluster) st st') :
    Told given st' := by
  intro i s hat
  obtain ⟨r, hat', hcluster⟩ := hkeeps.each i s hat
  rw [hcluster]
  exact h i r hat'

-- ============================================================ every request

/-- A registration is given the cluster that it is described with, if it comes
to be registered. -/
theorem told_register (env : Surroundings) (info : NodeInfo)
    (h : Told given st) :
    Told (given ++ enrolment env info st) (st.register env info).1 := by
  unfold register enrolment
  rcases enrol_cases env info st with ⟨e, henrol⟩ | ⟨-, -, henrol⟩
  · rw [henrol]
    exact (List.append_nil given).symm ▸ h
  · rw [henrol]
    dsimp only
    refine Told.keeps (fun i r hat => ?_)
      (keeps_settle tame_cluster env info _ _)
    rw [lastGiven_concat]
    replace hat := (getElem?_concat _ _ _).symm.trans hat
    split at hat
    case isTrue hnew =>
      cases hat
      rw [if_pos hnew.symm]
      rfl
    case isFalse hold =>
      rw [if_neg (Ne.symm hold)]
      exact h i r hat

/-- An operation that gives its registration a cluster, or leaves the one it
has. -/
theorem told_commit {β : Type} {s : Step β} (gives : Option (Option String))
    (hat : st.at? i = some r)
    (hcluster : s.state.cluster = gives.getD r.cluster) (h : Told given st) :
    Told (given ++ (gives.map (i, ·)).toList) (st.commit i s).1 := by
  cases gives with
  | none =>
    exact (List.append_nil given).symm
      ▸ h.keeps (keeps_commit tame_cluster hat hcluster)
  | some cluster =>
    intro j r' hat'
    refine Eq.trans ?_ (lastGiven_concat given cluster).symm
    rw [at?_commit hat] at hat'
    split at hat'
    case isTrue hij =>
      cases hat'
      rw [if_pos hij]
      exact hcluster
    case isFalse hij =>
      rw [if_neg hij]
      exact h j r' hat'

theorem told_ask (env : Surroundings) (q : Registration.Request)
    (h : Told given st) :
    Told (given ++ Request.givings env st (.ask i q))
      (Request.perform env st (.ask i q)).1 := by
  unfold Request.givings Request.perform operate
  dsimp only
  cases hat : st.at? i with
  | none => exact (List.append_nil given).symm ▸ h
  | some r => exact told_commit _ hat (Registration.perform_cluster _ q r) h

/-- Every request leaves every registration in the cluster last given to it. -/
theorem told_perform (env : Surroundings) (q : Request) (h : Told given st) :
    Told (given ++ q.givings env st) (q.perform env st).1 := by
  -- Requests that give nothing are those that leave all clusters alone.
  have hquiet {st' : Storage}
    (hkeeps : Keeps (fun r s => s.cluster = r.cluster) st st') :
      Told (given ++ []) st' := (List.append_nil given).symm ▸ h.keeps hkeeps
  cases q with
  | register info => exact told_register env info h
  | getOrRegister name =>
    show Told (given ++ Request.givings env st (.getOrRegister name))
      (st.getOrRegister env name).1
    unfold Request.givings getOrRegister
    dsimp only
    cases st.slot? name with
    | some i => exact hquiet (tame_cluster.still st)
    | none => exact told_register env (.bare name) h
  | ask i q => exact told_ask env q h
  | remove name => exact hquiet (keeps_remove tame_cluster name st)
  | list => exact hquiet (keeps_snapshots tame_cluster env _ st)
  | shutdown => exact hquiet (keeps_shutdown tame_cluster st)
  | moveOn i phase =>
    refine hquiet ?_
    show Keeps _ st (st.operate i _).1
    unfold operate
    split
    case h_1 r hat => exact keeps_commit tame_cluster hat rfl
    case h_2 => exact tame_cluster.still st

/-- So does every run. By induction on the requests. -/
theorem told_performAll (run : Run) (h : Told given st) :
    Told (given ++ givings run st) (performAll run st).1 := by
  induction run generalizing given st with
  | nil => exact (List.append_nil given).symm ▸ h
  | cons x rest ih =>
    have hrest := ih (told_perform x.1 x.2 h)
    rw [List.append_assoc] at hrest
    exact hrest

-- ============================================================= the two ways

theorem find?_eq_some (name : String) (r : Registration) :
    st.find? name = some r ↔ ∃ i, st.slot? name = some i ∧ st.at? i = some r :=
  Option.bind_eq_some_iff

/-- The scan goes through the registrations that names lead to. -/
theorem mem_registered (h : Named st) :
    r ∈ st.registered ↔ st.find? r.name = some r := by
  unfold registered Table.values
  rw [find?_eq_some, List.mem_filterMap]
  constructor
  · rintro ⟨i, hi, hat⟩
    obtain ⟨⟨name, j⟩, hmem, rfl⟩ := List.mem_map.1 hi
    have hslot := (Table.mem_entries_iff st.names name j).1 hmem
    obtain ⟨r', hat', rfl⟩ := h name j hslot
    cases hat.symm.trans hat'
    exact ⟨j, hslot, hat⟩
  · rintro ⟨i, hslot, hat⟩
    exact ⟨i, List.mem_map_of_mem ((Table.mem_entries_iff ..).2 hslot), hat⟩

/-- The list of a cluster has just the names whose registrations are in it. -/
theorem mem_nodesOfCluster (h : Named st) (name cluster : String) :
    name ∈ st.nodesOfCluster cluster ↔ st.clusterOf name = some cluster := by
  unfold nodesOfCluster clusterOf
  rw [List.mem_mergeSort, List.mem_map, Option.bind_eq_some_iff]
  constructor
  · rintro ⟨r, hmem, rfl⟩
    obtain ⟨hmem, hcluster⟩ := List.mem_filter.1 hmem
    exact ⟨r, (mem_registered h).1 hmem, of_decide_eq_true hcluster⟩
  · rintro ⟨r, hfind, hcluster⟩
    obtain ⟨i, hslot, hat⟩ := (find?_eq_some name r).1 hfind
    obtain ⟨r', hat', rfl⟩ := h name i hslot
    cases hat.symm.trans hat'
    exact ⟨r, List.mem_filter.2
      ⟨(mem_registered h).2 hfind, decide_eq_true hcluster⟩, rfl⟩

/-- No two registrations that names lead to have the same name. -/
theorem names_registered (h : Named st) :
    st.registered.map Registration.name = st.names.keys := by
  unfold registered Table.values Table.keys
  rw [List.filterMap_map, List.map_filterMap, ← List.filterMap_eq_map]
  refine List.filterMap_congr fun e he => ?_
  obtain ⟨r, hat, hname⟩ := h e.1 e.2 ((Table.mem_entries_iff ..).1 he)
  simp [hat, hname]

/-- The scan gives its names in ascending order and none of them twice. -/
theorem nodesOfCluster_ascending (h : Named st) (cluster : String) :
    (st.nodesOfCluster cluster).Pairwise (· < ·) := by
  unfold nodesOfCluster
  dsimp only
  generalize hmembers :
      (st.registered.filter fun r => r.cluster = some cluster) = members
  have hkeys : st.names.keys.Nodup := by
    refine List.pairwise_map.2 (st.names.sorted.imp fun hlt heq => ?_)
    exact String.lt_irrefl _ (heq ▸ hlt)
  have hsub : (members.map Registration.name).Sublist st.names.keys := by
    rw [← names_registered h, ← hmembers]
    exact List.filter_sublist.map _
  have hnodup : ((members.map Registration.name).mergeSort).Nodup :=
    (List.mergeSort_perm _ _).nodup_iff.2 (hkeys.sublist hsub)
  have hsorted : ((members.map Registration.name).mergeSort).Pairwise
      (fun a b => decide (a ≤ b) = true) :=
    List.pairwise_mergeSort (fun a b c => by simpa using String.le_trans)
      (fun a b => by simpa using String.le_total a b) _
  refine (hsorted.and hnodup).imp fun {a b} hab => ?_
  exact String.not_le.1 fun hba =>
    hab.2 (String.le_antisymm (of_decide_eq_true hab.1) hba)

-- ============================================================== all of it

/-- Whatever has been asked of a storage and of all registrations that it ever
made: a name is among the nodes of a cluster just where the look-up of the name
gives that cluster, and just where the name is registered and that cluster was
the last given to its registration; the nodes of a cluster are in ascending
order, none twice; and a registered node that is in a cluster is among the
nodes of one cluster alone. -/
theorem membership_agrees (run : Run) :
    let st := (performAll run {}).1
    let given := givings run {}
    (∀ name cluster,
        name ∈ st.nodesOfCluster cluster ↔ st.clusterOf name = some cluster)
      ∧ (∀ name cluster, st.clusterOf name = some cluster
          ↔ ∃ i, st.slot? name = some i ∧ lastGiven given i = some cluster)
      ∧ (∀ cluster, (st.nodesOfCluster cluster).Pairwise (· < ·))
      ∧ ∀ name i cluster, st.slot? name = some i →
        lastGiven given i = some cluster →
          ∀ other, name ∈ st.nodesOfCluster other ↔ other = cluster := by
  intro st given
  have hnamed : Named st := named_performAll run
  have hnone : Told [] {} := fun _ _ hat => by cases hat
  have htold : Told given st := told_performAll run hnone
  have hlast : ∀ name cluster, st.clusterOf name = some cluster
      ↔ ∃ i, st.slot? name = some i ∧ lastGiven given i = some cluster := by
    intro name cluster
    unfold clusterOf
    rw [Option.bind_eq_some_iff]
    constructor
    · rintro ⟨r, hfind, hcluster⟩
      obtain ⟨i, hslot, hat⟩ := (find?_eq_some name r).1 hfind
      exact ⟨i, hslot, (htold i r hat).symm.trans hcluster⟩
    · rintro ⟨i, hslot, hcluster⟩
      obtain ⟨r, hat, -⟩ := hnamed name i hslot
      exact ⟨r, (find?_eq_some name r).2 ⟨i, hslot, hat⟩,
        (htold i r hat).trans hcluster⟩
  refine ⟨mem_nodesOfCluster hnamed, hlast, nodesOfCluster_ascending hnamed,
    fun name i cluster hslot hcluster other => ?_⟩
  have hof : st.clusterOf name = some cluster :=
    (hlast name cluster).2 ⟨i, hslot, hcluster⟩
  rw [mem_nodesOfCluster hnamed, hof]
  exact ⟨fun h => (Option.some.inj h).symm, fun h => h ▸ rfl⟩

end Storage

end Fleetkeeper
