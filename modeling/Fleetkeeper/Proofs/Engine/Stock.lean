/-
What an engine holds, and what a call may do to it: a finite map from ids to
containers whose names are proper and distinct, changed by calls alone.

# The law of an engine

`Stock.Allows` is a relation and not a function, because an engine has a will
of its own: a call may fail for any reason and then changes nothing, the id
of a new container is any free one, an unnamed container gets any free name,
and an inspection may report any state of health. What it may not do is
written there, one line for each call:

- a listing of all containers has every container once, by its id, and where
  it gives names the first is the name behind a slash;
- an inspection tells the name and the configuration that are kept;
- starting and stopping set whether a container runs, and nothing else;
- a container that runs is only removed by force, and force always removes
  one that is there;
- a new container has a free id, a name that is not in use, the name asked
  for if that is a proper one, and does not run yet;
- a call about a container that is not there says so.

`EngineApi.Serves` says that an interface on a world keeps to the law, seen
through a view of that world. The lemmas below it read the law off one call
at a time; no later proof opens `Allows`.

# Configurations

An engine does not tell an empty host name, user or working directory from
an unset one, and an inspection reports the empty text. `ContainerSpec.settled`
is the configuration with these unset: what inspections say is always settled.
-/
import Fleetkeeper.Proofs.Engine.Calls

namespace Fleetkeeper

-- ======================================================= configurations

namespace ContainerSpec

/-- The configuration with empty texts unset, as an inspection tells it. -/
def settled (s : ContainerSpec) : ContainerSpec :=
  { s with
    hostname := Inspection.nonEmpty s.hostname
    user := Inspection.nonEmpty s.user
    workingDir := Inspection.nonEmpty s.workingDir }

end ContainerSpec

/-- A text that was unset when empty is not empty. -/
@[simp] theorem Inspection.nonEmpty_nonEmpty (s : Option String) :
    Inspection.nonEmpty (Inspection.nonEmpty s) = Inspection.nonEmpty s := by
  unfold Inspection.nonEmpty
  rw [Option.filter_filter]
  simp

/-- A configuration that is settled stays as it is. -/
theorem ContainerSpec.settled_settled (s : ContainerSpec) :
    s.settled.settled = s.settled := by
  simp [ContainerSpec.settled]

-- ================================================================ names

/-- A name that an engine gives to a container: not empty, and without a
slash in front. -/
def ProperName (n : String) : Prop := n ≠ "" ∧ n.toList.head? ≠ some '/'

instance (n : String) : Decidable (ProperName n) :=
  inferInstanceAs (Decidable (_ ∧ _))

/-- A proper name comes out from behind the slash it is listed with. -/
theorem ProperName.dropSlashes_slash {n : String} (h : ProperName n) :
    Text.dropSlashes ("/" ++ n) = n := by
  have hhead : n.toList.dropWhile (· = '/') = n.toList := by
    cases hn : n.toList with
    | nil => rfl
    | cons c cs =>
      have hc : c ≠ '/' := by
        intro heq
        exact h.2 (by rw [hn, heq]; rfl)
      simp [hc]
  unfold Text.dropSlashes
  rw [String.toList_append]
  show String.ofList (n.toList.dropWhile (· = '/')) = n
  rw [hhead, String.ofList_toList]

-- ================================================================ stock

/-- A container as an engine keeps it. -/
structure Stored where
  name : String
  spec : ContainerSpec
  running : Bool
deriving DecidableEq, Repr

/-- The containers of an engine, by id. Names are proper, and no two
containers have the same. -/
structure Stock where
  containers : Table Stored
  proper : ∀ {id : String} {c : Stored},
    containers.find? id = some c → ProperName c.name
  distinct : ∀ {id id' : String} {c c' : Stored},
    containers.find? id = some c → containers.find? id' = some c' →
      c.name = c'.name → id = id'

namespace Stock

/-- The container under an id. -/
def find? (k : Stock) (id : String) : Option Stored := k.containers.find? id

/-- Number of containers. -/
def size (k : Stock) : Nat := k.containers.size

/-- No container has this name. -/
def Unused (k : Stock) (n : String) : Prop :=
  ∀ id c, k.find? id = some c → c.name ≠ n

/-- A stock is its containers. -/
theorem eq_of_containers_eq {k k' : Stock} (h : k.containers = k'.containers) :
    k = k' := by
  cases k
  cases k'
  cases h
  rfl

-- ================================================================ the law

/-- A listing of all containers: each once, and a name that is given is the
container's behind a slash. -/
structure Lists (k : Stock) (summaries : List ContainerSummary) : Prop where
  once : (summaries.map (·.id)).Nodup
  complete : ∀ id, id ∈ summaries.map (·.id) ↔ (k.find? id).isSome
  names : ∀ s ∈ summaries, ∀ c, k.find? s.id = some c →
    ∀ n, s.names.head? = some n → n = "/" ++ c.name

/-- An inspection of a container tells its name and configuration. -/
def Tells (i : Inspection) (c : Stored) : Prop :=
  i.name = "/" ++ c.name ∧ i.toSpec = c.spec.settled

/-- What a call with this answer may make of a stock. -/
def Allows (k : Stock) : ApiCall → Stock → Prop
  | .list all (.ok summaries), k' => k' = k ∧ (all = true → k.Lists summaries)
  | .list _ (.error _), k' => k' = k
  | .inspect id (.ok i), k' => k' = k ∧ ∃ c, k.find? id = some c ∧ Tells i c
  | .inspect id (.error f), k' =>
    k' = k ∧ (k.find? id = none → ∃ d, f = .containerNotFound d)
  | .stop id _ (.ok ()), k' => ∃ c, k.find? id = some c
      ∧ k'.containers = k.containers.insert id { c with running := false }
  | .stop id _ (.error f), k' =>
    k' = k ∧ (k.find? id = none → ∃ d, f = .containerNotFound d)
  | .start id (.ok ()), k' => ∃ c, k.find? id = some c
      ∧ k'.containers = k.containers.insert id { c with running := true }
  | .start id (.error f), k' =>
    k' = k ∧ (k.find? id = none → ∃ d, f = .containerNotFound d)
  | .remove id force (.ok ()), k' => ∃ c, k.find? id = some c
      ∧ (force = false → c.running = false)
      ∧ k'.containers = k.containers.erase id
  | .remove id force (.error f), k' =>
    k' = k ∧ (k.find? id = none → ∃ d, f = .containerNotFound d)
      ∧ (force = true → k.find? id = none)
  | .create name spec (.ok id), k' => k.find? id = none
      ∧ ∃ n, k.Unused n ∧ (∀ m, name = some m → ProperName m → n = m)
        ∧ k'.containers = k.containers.insert id ⟨n, spec, false⟩
  | .create _ _ (.error _), k' => k' = k

end Stock

/-- Seen through `view`, an interface keeps to the law of an engine. -/
structure EngineApi.Serves {σ : Type} (api : EngineApi σ) (view : σ → Stock) :
    Prop where
  list : ∀ all s, (view s).Allows (.list all (api.list all s).1)
    (view (api.list all s).2)
  inspect : ∀ id s, (view s).Allows (.inspect id (api.inspect id s).1)
    (view (api.inspect id s).2)
  stop : ∀ id secs s, (view s).Allows (.stop id secs (api.stop id secs s).1)
    (view (api.stop id secs s).2)
  remove : ∀ id force s,
    (view s).Allows (.remove id force (api.remove id force s).1)
      (view (api.remove id force s).2)
  create : ∀ name spec s,
    (view s).Allows (.create name spec (api.create name spec s).1)
      (view (api.create name spec s).2)
  start : ∀ id s, (view s).Allows (.start id (api.start id s).1)
    (view (api.start id s).2)

namespace EngineApi.Serves

variable {σ : Type} {api : EngineApi σ} {view : σ → Stock}
  {s s' : σ} {f : Fault} {id : String}

-- ====================================================== one call at a time

theorem list_ok {summaries : List ContainerSummary} (h : api.Serves view)
    (hc : api.list true s = (.ok summaries, s')) :
    view s' = view s ∧ (view s).Lists summaries := by
  have hlaw := h.list true s
  rw [hc] at hlaw
  exact ⟨hlaw.1, hlaw.2 rfl⟩

theorem list_error {all : Bool} (h : api.Serves view)
    (hc : api.list all s = (.error f, s')) : view s' = view s := by
  have hlaw := h.list all s
  rw [hc] at hlaw
  exact hlaw

theorem inspect_ok {i : Inspection} (h : api.Serves view)
    (hc : api.inspect id s = (.ok i, s')) :
    view s' = view s ∧ ∃ c, (view s).find? id = some c ∧ Stock.Tells i c := by
  have hlaw := h.inspect id s
  rw [hc] at hlaw
  exact hlaw

theorem inspect_error (h : api.Serves view)
    (hc : api.inspect id s = (.error f, s')) : view s' = view s := by
  have hlaw := h.inspect id s
  rw [hc] at hlaw
  exact hlaw.1

theorem stop_ok {secs : Nat} (h : api.Serves view)
    (hc : api.stop id secs s = (.ok (), s')) :
    ∃ c, (view s).find? id = some c
      ∧ (view s').containers
        = (view s).containers.insert id { c with running := false } := by
  have hlaw := h.stop id secs s
  rw [hc] at hlaw
  exact hlaw

theorem stop_error {secs : Nat} (h : api.Serves view)
    (hc : api.stop id secs s = (.error f, s')) : view s' = view s := by
  have hlaw := h.stop id secs s
  rw [hc] at hlaw
  exact hlaw.1

theorem remove_ok {force : Bool} (h : api.Serves view)
    (hc : api.remove id force s = (.ok (), s')) :
    ∃ c, (view s).find? id = some c
      ∧ (view s').containers = (view s).containers.erase id := by
  have hlaw := h.remove id force s
  rw [hc] at hlaw
  obtain ⟨c, hfind, -, herase⟩ := hlaw
  exact ⟨c, hfind, herase⟩

theorem remove_error {force : Bool} (h : api.Serves view)
    (hc : api.remove id force s = (.error f, s')) : view s' = view s := by
  have hlaw := h.remove id force s
  rw [hc] at hlaw
  exact hlaw.1

/-- Removal by force only fails on a container that is not there. -/
theorem force_error (h : api.Serves view)
    (hc : api.remove id true s = (.error f, s')) :
    (view s).find? id = none := by
  have hlaw := h.remove id true s
  rw [hc] at hlaw
  exact hlaw.2.2 rfl

theorem create_ok {name : Option String} {spec : ContainerSpec}
    (h : api.Serves view) (hc : api.create name spec s = (.ok id, s')) :
    (view s).find? id = none
      ∧ ∃ n, (view s).Unused n ∧ (∀ m, name = some m → ProperName m → n = m)
        ∧ (view s').containers
          = (view s).containers.insert id ⟨n, spec, false⟩ := by
  have hlaw := h.create name spec s
  rw [hc] at hlaw
  exact hlaw

theorem create_error {name : Option String} {spec : ContainerSpec}
    (h : api.Serves view) (hc : api.create name spec s = (.error f, s')) :
    view s' = view s := by
  have hlaw := h.create name spec s
  rw [hc] at hlaw
  exact hlaw

theorem start_ok (h : api.Serves view)
    (hc : api.start id s = (.ok (), s')) :
    ∃ c, (view s).find? id = some c
      ∧ (view s').containers
        = (view s).containers.insert id { c with running := true } := by
  have hlaw := h.start id s
  rw [hc] at hlaw
  exact hlaw

theorem start_error (h : api.Serves view)
    (hc : api.start id s = (.error f, s')) : view s' = view s := by
  have hlaw := h.start id s
  rw [hc] at hlaw
  exact hlaw.1

end EngineApi.Serves

end Fleetkeeper
