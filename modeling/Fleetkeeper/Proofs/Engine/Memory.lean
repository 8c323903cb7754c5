/-
An engine in memory that keeps to the law. The theorems about runs assume
`EngineApi.Serves`; here is an engine of which it holds, so what they say is
said of something that runs.

The engine makes up the two things that the law leaves open. The ids of new
containers are counted. And what an image does is a parameter, its `Temper`:
a container may refuse to start, and its health check may report anything.
Where a new id or name is taken already, the creation fails.
-/
import Fleetkeeper.Proofs.Engine.Stock

namespace Fleetkeeper

-- ====================================================== changing a stock

namespace Stock

/-- The stock with a container set to run or not. -/
def setRunning (k : Stock) (id : String) {d : Stored}
    (hd : k.find? id = some d) (running : Bool) : Stock where
  containers := k.containers.insert id { d with running }
  proper := by
    intro id' c hc
    rw [Table.find?_insert] at hc
    split at hc
    · cases hc
      exact k.proper (c := d) hd
    · exact k.proper hc
  distinct := by
    intro id₁ id₂ c₁ c₂ h₁ h₂ hname
    rw [Table.find?_insert] at h₁ h₂
    split at h₁ <;> split at h₂
    · simp_all
    · rename_i heq _
      cases h₁
      rw [heq]
      exact k.distinct hd h₂ hname
    · rename_i heq
      cases h₂
      rw [heq]
      exact k.distinct h₁ hd hname
    · exact k.distinct h₁ h₂ hname

/-- The stock without a container. -/
def erase (k : Stock) (id : String) : Stock where
  containers := k.containers.erase id
  proper := by
    intro id' c hc
    rw [Table.find?_erase] at hc
    split at hc
    · cases hc
    · exact k.proper hc
  distinct := by
    intro id₁ id₂ c₁ c₂ h₁ h₂ hname
    rw [Table.find?_erase] at h₁ h₂
    split at h₁ <;> split at h₂
    · cases h₁
    · cases h₁
    · cases h₂
    · exact k.distinct h₁ h₂ hname

/-- The stock with a container under a name that was not in use. -/
def add (k : Stock) (id : String) (d : Stored) (hproper : ProperName d.name)
    (hunused : k.Unused d.name) : Stock where
  containers := k.containers.insert id d
  proper := by
    intro id' c hc
    rw [Table.find?_insert] at hc
    split at hc
    · cases hc
      exact hproper
    · exact k.proper hc
  distinct := by
    intro id₁ id₂ c₁ c₂ h₁ h₂ hname
    rw [Table.find?_insert] at h₁ h₂
    split at h₁ <;> split at h₂
    · simp_all
    · cases h₁
      exact absurd hname.symm (hunused _ _ h₂)
    · cases h₂
      exact absurd hname (hunused _ _ h₁)
    · exact k.distinct h₁ h₂ hname

/-- A name is unused if no entry has it. -/
theorem unused_iff {k : Stock} {n : String} :
    k.Unused n ↔ ∀ e ∈ k.containers.entries, e.2.name ≠ n := by
  constructor
  · intro h e he
    exact h e.1 e.2 ((Table.mem_entries_iff _ _ _).1 he)
  · intro h id c hc
    exact h (id, c) ((Table.mem_entries_iff _ _ _).2 hc)

instance (k : Stock) (n : String) : Decidable (k.Unused n) :=
  decidable_of_iff _ unused_iff.symm

/-- The stock that has nothing. -/
def empty : Stock where
  containers := ∅
  proper := by
    intro id c hc
    cases hc
  distinct := by
    intro id₁ id₂ c₁ c₂ h₁
    cases h₁

end Stock

-- ============================================================= the engine

/-- What an engine in memory does with the containers of an image. -/
structure Temper where
  /-- Whether they start. -/
  starts : String → Bool := fun _ => true
  /-- What their health check reports; `none` without one. -/
  health : String → Option String := fun _ => none

/-- The state of an engine in memory: its containers, and how many it has
made so far. -/
structure Memory where
  stock : Stock
  made : Nat := 0

namespace Memory

/-- The fault about a container that is not there. -/
def missing (id : String) : Fault :=
  .containerNotFound ("No such container: " ++ id)

/-- The entry of a container in a listing. -/
def summary (id : String) (d : Stored) : ContainerSummary where
  id := id
  names := ["/" ++ d.name]
  image := d.spec.image
  labels := some d.spec.labels
  state := if d.running then "running" else "exited"

/-- What an inspection says about a container. -/
def inspection (t : Temper) (id : String) (d : Stored) : Inspection where
  id := id
  name := "/" ++ d.name
  config := {
    image := d.spec.image
    hostname := d.spec.hostname
    user := d.spec.user
    cmd := d.spec.cmd
    entrypoint := d.spec.entrypoint
    env := d.spec.env
    workingDir := d.spec.workingDir
    labels := some d.spec.labels }
  hostConfig := d.spec.hostConfig
  state := {
    status := if d.running then "running" else "exited"
    running := d.running
    health := t.health d.spec.image }

def list (all : Bool) (m : Memory) :
    Except Fault (List ContainerSummary) × Memory :=
  let shown := m.stock.containers.entries.filter fun x => all || x.2.running
  (.ok (shown.map fun x => summary x.1 x.2), m)

def inspect (t : Temper) (id : String) (m : Memory) :
    Except Fault Inspection × Memory :=
  match m.stock.find? id with
  | none => (.error (missing id), m)
  | some d => (.ok (inspection t id d), m)

def stop (id : String) (_secs : Nat) (m : Memory) :
    Except Fault Unit × Memory :=
  match hd : m.stock.find? id with
  | none => (.error (missing id), m)
  | some _ => (.ok (), { m with stock := m.stock.setRunning id hd false })

def start (t : Temper) (id : String) (m : Memory) :
    Except Fault Unit × Memory :=
  match hd : m.stock.find? id with
  | none => (.error (missing id), m)
  | some d =>
    if t.starts d.spec.image then
      (.ok (), { m with stock := m.stock.setRunning id hd true })
    else (.error (.docker ("Container " ++ id ++ " does not start")), m)

def remove (id : String) (force : Bool) (m : Memory) :
    Except Fault Unit × Memory :=
  match m.stock.find? id with
  | none => (.error (missing id), m)
  | some d =>
    if d.running && !force then
      (.error (.docker ("Container " ++ id ++ " is running")), m)
    else (.ok (), { m with stock := m.stock.erase id })

/-- The name that a new container gets: the one asked for if it is a proper
one, else one that counts with the id. -/
def nameFor (id : String) (name : Option String) : String :=
  match name with
  | some n => if ProperName n then n else "unnamed-" ++ id
  | none => "unnamed-" ++ id

def create (name : Option String) (spec : ContainerSpec) (m : Memory) :
    Except Fault String × Memory :=
  let id := "made-" ++ toString m.made
  let d : Stored := ⟨nameFor id name, spec, false⟩
  if h : m.stock.find? id = none ∧ ProperName d.name
      ∧ m.stock.Unused d.name then
    (.ok id, { stock := m.stock.add id d h.2.1 h.2.2, made := m.made + 1 })
  else (.error (.docker ("Name " ++ d.name ++ " is in use")), m)

/-- The interface of an engine in memory. -/
def api (t : Temper) : EngineApi Memory where
  list := list
  inspect := inspect t
  stop := stop
  remove := remove
  create := create
  start := start t

-- ================================================================ the law

/-- The listing of all containers has every container once. -/
theorem lists_all (k : Stock) :
    k.Lists (k.containers.entries.map fun x => summary x.1 x.2) where
  once := by
    rw [List.map_map]
    refine List.pairwise_map.2 (k.containers.sorted.imp ?_)
    intro x y hlt heq
    have hsame : x.1 = y.1 := heq
    rw [hsame] at hlt
    exact String.lt_irrefl _ hlt
  complete := by
    intro id
    rw [List.map_map, List.mem_map]
    constructor
    · rintro ⟨x, hx, rfl⟩
      exact Option.isSome_iff_exists.2
        ⟨x.2, (Table.mem_entries_iff _ _ _).1 hx⟩
    · intro hsome
      obtain ⟨d, hd⟩ := Option.isSome_iff_exists.1 hsome
      exact ⟨(id, d), (Table.mem_entries_iff _ _ _).2 hd, rfl⟩
  names := by
    intro s hs c hc n hn
    obtain ⟨x, hx, rfl⟩ := List.mem_map.1 hs
    have hxc : c = x.2 := by
      have hfound : k.find? x.1 = some x.2 :=
        (Table.mem_entries_iff _ _ _).1 hx
      exact Option.some.inj (hc.symm.trans hfound)
    cases hn
    rw [hxc]

/-- A name that is asked for is given if it is a proper one. -/
theorem nameFor_of_proper {id m : String} {name : Option String}
    (hname : name = some m) (hm : ProperName m) : nameFor id name = m := by
  subst hname
  exact if_pos hm

/-- The engine in memory keeps to the law, whatever its images do. -/
theorem serves (t : Temper) : (api t).Serves Memory.stock where
  list := by
    intro all m
    refine ⟨rfl, ?_⟩
    rintro rfl
    have hall :
        (m.stock.containers.entries.filter fun x => true || x.2.running)
          = m.stock.containers.entries :=
      List.filter_eq_self.2 fun x _ => Bool.true_or x.2.running
    rw [hall]
    exact lists_all m.stock
  inspect := by
    intro id m
    show m.stock.Allows _ _
    unfold api inspect
    dsimp only
    split
    case h_1 hd => exact ⟨rfl, fun _ => ⟨_, rfl⟩⟩
    case h_2 d hd => exact ⟨rfl, d, hd, rfl, rfl⟩
  stop := by
    intro id secs m
    unfold api stop
    dsimp only
    split
    case h_1 hd => exact ⟨rfl, fun _ => ⟨_, rfl⟩⟩
    case h_2 d hd => exact ⟨d, hd, rfl⟩
  remove := by
    intro id force m
    unfold api remove
    dsimp only
    split
    case h_1 hd => exact ⟨rfl, fun _ => ⟨_, rfl⟩, fun _ => hd⟩
    case h_2 d hd =>
      split
      case isTrue hrun =>
        refine ⟨rfl, ?_, ?_⟩
        · intro hnone
          rw [hnone] at hd
          cases hd
        · rintro rfl
          simp at hrun
      case isFalse hrun =>
        refine ⟨d, hd, ?_, rfl⟩
        rintro rfl
        simpa using hrun
  create := by
    intro name spec m
    unfold api create
    dsimp only
    split
    case isTrue h =>
      exact ⟨h.1, _, h.2.2, fun n hname hn => nameFor_of_proper hname hn, rfl⟩
    case isFalse => exact rfl
  start := by
    intro id m
    unfold api start
    dsimp only
    split
    case h_1 hd => exact ⟨rfl, fun _ => ⟨_, rfl⟩⟩
    case h_2 d hd =>
      split
      case isTrue => exact ⟨d, hd, rfl⟩
      case isFalse =>
        refine ⟨rfl, ?_⟩
        intro hnone
        rw [hnone] at hd
        cases hd

/-- Two web servers and a database. -/
def sample : Memory where
  stock :=
    ((Stock.empty.add "c1" ⟨"web1", .ofImage "web:1", true⟩ (by decide)
      (by decide)).add "c2" ⟨"web2", .ofImage "web:1", true⟩ (by decide)
      (by decide)).add "c3" ⟨"db", .ofImage "db:7", true⟩ (by decide)
        (by decide)

end Memory

end Fleetkeeper
