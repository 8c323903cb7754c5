/-
A creation is whole or has not happened: either the engine has one container
more, which runs, or it holds what it held before.

# What could be left behind

Creating and starting are two calls, so a container that does not start is
there by the time that this turns out, and has the name that was asked for.
`create` removes it by force. Whatever a start that failed has done to that
container goes with it, which is why `Builds` asks of such a start only that
it leaves the others alone.

# Whose fault

The removal may fail as well. What a creation returns is settled before it is
tried, on any engine whatsoever (`blamed_of_create`): the fault is the answer
of the first call that failed, or says that there is no configuration.
-/
import Fleetkeeper.Proofs.Upgrade.Swap

namespace Fleetkeeper

variable {σ : Type}

-- =============================================================== the law

/-- Seen through a view of its containers, an engine creates and starts them,
and removes them by force. It holds them by id, under names of which none is
given twice. -/
structure EngineApi.Builds (api : EngineApi σ) (view : σ → Table Stored) :
    Prop where
  /-- A new container has a free id and a name that is not in use, the one
  asked for if there is one, and does not run yet. -/
  created : ∀ {name spec s id s'}, api.create name spec s = (.ok id, s') →
    (view s).find? id = none ∧ ∃ n, (∀ m, name = some m → n = m)
      ∧ (∀ id' d, (view s).find? id' = some d → d.name ≠ n)
      ∧ view s' = (view s).insert id ⟨n, spec, false⟩
  refused : ∀ {name spec s f s'}, api.create name spec s = (.error f, s') →
    view s' = view s
  started : ∀ {id s s'}, api.start id s = (.ok (), s') →
    ∃ d, (view s).find? id = some d
      ∧ view s' = (view s).insert id { d with running := true }
  /-- A start that fails leaves all other containers as they are. -/
  unstarted : ∀ {id s f s'}, api.start id s = (.error f, s') →
    (view s').erase id = (view s).erase id
  forced : ∀ {id s s'}, api.remove id true s = (.ok (), s') →
    view s' = (view s).erase id
  /-- Force only fails on a container that is not there. -/
  unforced : ∀ {id s f s'}, api.remove id true s = (.error f, s') →
    (view s).find? id = none ∧ view s' = view s

/-- An engine that keeps to the law, and does not create a container under a
name that is no proper one, is such an engine. -/
theorem EngineApi.Serves.builds {api : EngineApi σ} {view : σ → Stock}
    (h : api.Serves view)
    (hproper : ∀ {m spec s id s'}, api.create (some m) spec s = (.ok id, s') →
      ProperName m) : api.Builds fun s => (view s).containers where
  created := by
    intro name spec s id s' hcreate
    obtain ⟨hfree, n, hunused, hname, hmade⟩ := h.create_ok hcreate
    refine ⟨hfree, n, ?_, hunused, hmade⟩
    rintro m rfl
    exact hname m rfl (hproper hcreate)
  refused hcreate := congrArg Stock.containers (h.create_error hcreate)
  started hstart := h.start_ok hstart
  unstarted hstart := by rw [h.start_error hstart]
  forced hremove := by
    obtain ⟨-, -, herased⟩ := h.remove_ok hremove
    exact herased
  unforced hremove :=
    ⟨h.force_error hremove, congrArg Stock.containers (h.remove_error hremove)⟩

namespace Site

variable {e : Site σ} {c : Container}

-- ============================================================ its two ends

/-- An engine that held `k` holds one container more, `r`: it runs under an id
that was free, with the configuration of `c` and the name of `c` if that has
one, and `r` is `c` but for the id. -/
structure Added (c : Container) (k : Table Stored) (r : Container)
    (k' : Table Stored) : Prop where
  same : r = { c with id := r.id }
  fresh : k.find? r.id = none
  gained : ∃ spec n, c.config = some spec ∧ (∀ m, c.name = some m → n = m)
    ∧ (∀ id d, k.find? id = some d → d.name ≠ n)
    ∧ k' = k.insert r.id ⟨n, spec, true⟩

/-- The fault that a creation in world `s` returns: there is no configuration,
or the engine refuses to create the container, or to start it. -/
inductive Blamed (e : Site σ) (c : Container) (s : σ) : Fault → Prop where
  | unconfigured (hspec : c.config = none) :
      Blamed e c s (.batch ("No configuration to create " ++ c.toText))
  | refused {spec : ContainerSpec} {f : Fault} (hspec : c.config = some spec)
      (hcreate : (e.api.create c.name spec s).1 = .error f) : Blamed e c s f
  | unstarted {spec : ContainerSpec} {id : String} {s₁ : σ} {f : Fault}
      (hspec : c.config = some spec)
      (hcreate : e.api.create c.name spec s = (.ok id, s₁))
      (hstart : (e.api.start id s₁).1 = .error f) : Blamed e c s f

/-- Whatever the engine does, and whatever comes of the removal. -/
theorem blamed_of_create {f : Fault} {s s' : σ}
    (h : e.create c s = (.error f, s')) : Blamed e c s f := by
  cases creation_of_create h with
  | unconfigured hspec => exact .unconfigured hspec
  | refused hcreate hspec => exact .refused hspec (congrArg Prod.fst hcreate)
  | cleaned hcreate hstart _ hspec =>
    exact .unstarted hspec hcreate (congrArg Prod.fst hstart)
  | uncleaned hcreate hstart _ hspec =>
    exact .unstarted hspec hcreate (congrArg Prod.fst hstart)

section Law

variable {view : σ → Table Stored} (hbuilds : e.api.Builds view)
include hbuilds

/-- A container that was created and started is what was asked for. -/
theorem added_of_create {r : Container} {s s' : σ}
    (h : e.create c s = (.ok r, s')) : Added c (view s) r (view s') := by
  cases creation_of_create h with
  | created hspec hcreate hstart =>
    obtain ⟨hfresh, n, hname, hunused, hmade⟩ := hbuilds.created hcreate
    obtain ⟨d, hd, hrun⟩ := hbuilds.started hstart
    rw [hmade, Table.find?_insert, if_pos rfl] at hd
    cases hd
    rw [hmade, Table.insert_insert] at hrun
    exact ⟨rfl, hfresh, _, n, hspec, hname, hunused, hrun⟩

/-- A container that does not start is gone after the removal, which is
refused only if it is gone already. -/
theorem unchanged_of_unstarted {name : Option String} {spec : ContainerSpec}
    {id : String} {f : Fault} {a : Except Fault Unit} {s s₁ s₂ s' : σ}
    (hcreate : e.api.create name spec s = (.ok id, s₁))
    (hstart : e.api.start id s₁ = (.error f, s₂))
    (hremove : e.api.remove id true s₂ = (a, s')) : view s' = view s := by
  obtain ⟨hfresh, n, -, -, hmade⟩ := hbuilds.created hcreate
  have herased : view s' = (view s₂).erase id := by
    cases a with
    | ok => exact hbuilds.forced hremove
    | error =>
      obtain ⟨hgone, hkept⟩ := hbuilds.unforced hremove
      rw [hkept, Table.erase_eq_self hgone]
  rw [herased, hbuilds.unstarted hstart, hmade, Table.erase_insert hfresh]

/-- A creation that fails leaves the containers as they were. -/
theorem unchanged_of_create {f : Fault} {s s' : σ}
    (hlog : ∀ line s, view (e.attendant.log line s) = view s)
    (h : e.create c s = (.error f, s')) : view s' = view s := by
  cases creation_of_create h with
  | unconfigured => rfl
  | refused hcreate => exact hbuilds.refused hcreate
  | cleaned hcreate hstart hremove =>
    exact unchanged_of_unstarted hbuilds hcreate hstart hremove
  | uncleaned hcreate hstart hremove =>
    rw [hlog]
    exact unchanged_of_unstarted hbuilds hcreate hstart hremove

end Law

-- ============================================================== all of it

/-- Creating a container, with or without a configuration, under any name, on
an engine that holds anything: it is added, or the engine is as it was. And on
an engine that may answer anything, a fault is that of the call by which the
creation failed. -/
theorem creation_whole (e : Site σ) (c : Container) (s : σ) :
    let out := e.create c s
    (∀ view, e.api.Builds view →
        (∀ line s, view (e.attendant.log line s) = view s) →
        (∃ r, out.1 = .ok r ∧ Added c (view s) r (view out.2))
          ∨ (∃ f, out.1 = .error f) ∧ view out.2 = view s)
      ∧ ∀ f, out.1 = .error f → Blamed e c s f := by
  intro out
  obtain ⟨a, s', hout⟩ : ∃ a s', out = (a, s') := ⟨_, _, rfl⟩
  rw [hout]
  constructor
  · intro view hbuilds hlog
    cases a with
    | ok r => exact Or.inl ⟨r, rfl, added_of_create hbuilds hout⟩
    | error f => exact Or.inr ⟨⟨f, rfl⟩, unchanged_of_create hbuilds hlog hout⟩
  · intro f hf
    cases hf
    exact blamed_of_create hout

end Site

/-- An engine in memory that refuses a name that is no proper one. -/
def Memory.strict (t : Temper) : EngineApi Memory :=
  { Memory.api t with
    create := fun name spec m =>
      match name with
      | none => Memory.create none spec m
      | some n =>
        if ProperName n then Memory.create (some n) spec m
        else (.error (.docker ("Invalid container name " ++ n)), m) }

/-- It keeps to the law. -/
theorem Memory.strict_builds (t : Temper) :
    (Memory.strict t).Builds fun m => m.stock.containers := by
  have hserve : (Memory.strict t).Serves Memory.stock :=
    { Memory.serves t with
      create := by
        intro name spec m
        cases name with
        | none => exact (Memory.serves t).create none spec m
        | some n =>
          by_cases hn : ProperName n
          · simp only [Memory.strict, if_pos hn]
            exact (Memory.serves t).create (some n) spec m
          · simp only [Memory.strict, if_neg hn]
            exact rfl }
  refine hserve.builds ?_
  intro n spec m id m' hcreate
  by_cases hn : ProperName n
  · exact hn
  · simp only [Memory.strict, if_neg hn] at hcreate
    cases hcreate

namespace Site

/-- A web server that is to be created beside those of `Memory.sample`. -/
def spare : Container where
  id := "c9"
  name := some "web9"
  image := "web:2"
  config := some (.ofImage "web:2")

/-- What comes of creating it. -/
def sparing (t : Temper) : Except Fault Container × Memory :=
  Site.create { Memory.site t with api := Memory.strict t } spare Memory.sample

/-- On an engine on which it does not start it leaves no trace; on another
one it is there. -/
theorem creation_of_spare :
    (∃ f, (sparing { starts := fun image => image ≠ "web:2" }).1 = .error f)
      ∧ (sparing { starts := fun image => image ≠ "web:2" }).2.stock.containers
        = Memory.sample.stock.containers
      ∧ ∃ r, (sparing {}).1 = .ok r
      ∧ Added spare Memory.sample.stock.containers r
          (sparing {}).2.stock.containers := by
  have hwhole (t : Temper) :=
    (creation_whole { Memory.site t with api := Memory.strict t } spare
      Memory.sample).1 (fun m => m.stock.containers) (Memory.strict_builds t)
      (fun _ _ => rfl)
  have hfails : ∃ f, (sparing { starts := fun image => image ≠ "web:2" }).1
      = .error f := ⟨_, rfl⟩
  have hworks : ∃ r, (sparing {}).1 = .ok r := ⟨_, rfl⟩
  obtain ⟨f, hf⟩ := hfails
  obtain ⟨r, hr⟩ := hworks
  refine ⟨⟨f, hf⟩, ?_, ?_⟩
  · rcases hwhole { starts := fun image => image ≠ "web:2" } with
      ⟨r, hr, -⟩ | ⟨-, hsame⟩
    · cases hf.symm.trans hr
    · exact hsame
  · rcases hwhole {} with ⟨r, hr, hadded⟩ | ⟨⟨f, hf⟩, -⟩
    · exact ⟨r, hr, hadded⟩
    · cases hr.symm.trans hf

end Site

end Fleetkeeper
