/-
A rollback of the whole batch restores the engine: when a run ends rolled
back, the containers that it had taken up, the failed one included, are there
again under their names, and nothing else has changed.

# Why it works

Two containers can get into each other's way by name only. The processor may
give a replacement any name, also that of a container upgraded earlier in the
batch, whose name is free by then. So an original cannot in general be
created again while replacements of later containers are around, and the
order of the rollback matters: it undoes the last swap first.

The induction runs along the chain of swaps, from its first one. Behind the
first swap the claim is known for all later containers; they are back under
their names. Undoing the first swap takes its replacement away. No restored
container is hit by that: a replacement cannot have the name of a container
that is upgraded later, because that container was there when the replacement
got its name (`Recovered.discard`). And then the name of the original is free,
because all that is left are containers that were there beside it
(`Recovered.recreate`).

# The relation

`Recovered t ids t'` relates the tables of containers before and after: those
under `ids` are back, under whatever ids, those under other ids are as they
were, and there is nothing else. It is a relation on tables and not on stocks
because between the two halves of an undo step the middle of it is met.
-/
import Fleetkeeper.Proofs.Upgrade.Swap

namespace Fleetkeeper

open Rolling Site

variable {σ : Type} {e : Site σ} {j : Job σ} {process : Processor σ}
  {view : σ → Stock} {P : Container → Container → Prop}

-- ========================================================= the relation

/-- `d'` is `d` brought back: with its name, with its configuration, in which
empty texts may have become unset, and running. -/
structure Revived (d d' : Stored) : Prop where
  name : d'.name = d.name
  spec : d'.spec = d.spec ∨ d'.spec = d.spec.settled
  running : d'.running = true

/-- Of a container that was brought back an inspection tells what it told
before. -/
theorem Revived.settled_eq {d d' : Stored} (h : Revived d d') :
    d'.spec.settled = d.spec.settled := by
  rcases h.spec with heq | heq
  · rw [heq]
  · rw [heq, ContainerSpec.settled_settled]

/-- The containers that `t` has under `ids` are back in `t'`, and nothing else
is different. -/
structure Recovered (t : Table Stored) (ids : List String)
    (t' : Table Stored) :
    Prop where
  others : ∀ id d, t.find? id = some d → id ∉ ids → t'.find? id = some d
  back : ∀ id d, t.find? id = some d → id ∈ ids →
    ∃ id' d', t'.find? id' = some d' ∧ Revived d d'
  nothingElse : ∀ id' d', t'.find? id' = some d' →
    (id' ∉ ids ∧ t.find? id' = some d')
      ∨ ∃ id ∈ ids, ∃ d, t.find? id = some d ∧ Revived d d'
  size_eq : t'.size = t.size

namespace Recovered

theorem refl (t : Table Stored) : Recovered t [] t where
  others _ _ hd _ := hd
  back _ _ _ hid := by cases hid
  nothingElse _ _ hd' := Or.inl ⟨List.not_mem_nil, hd'⟩
  size_eq := rfl

/-- The first half of an undo step: with the replacement of a swap taken away,
the later containers are back beside what was there without the container
that was swapped. -/
theorem discard {k k₁ : Stock} {c : Container} {u : Upgraded}
    {ids : List String} {t : Table Stored} (hswap : Swap P k c u k₁)
    (hids : ∀ id ∈ ids, id ≠ c.id ∧ (k.find? id).isSome)
    (h : Recovered k₁.containers ids t) :
    Recovered (k.containers.erase c.id) ids (t.erase u.replacement.id) := by
  -- the replacement was given a free id, and the later containers had theirs
  have hnotin : u.replacement.id ∉ ids := by
    intro hin
    obtain ⟨hne, hsome⟩ := hids _ hin
    obtain ⟨d, hd⟩ := Option.isSome_iff_exists.1 hsome
    exact hswap.ne_of_find? hne hd rfl
  obtain ⟨n, hn⟩ : ∃ n, k₁.containers.find? u.replacement.id = some n := by
    obtain ⟨-, spec, n, -, -, -, -, hk₁⟩ := hswap.made
    exact ⟨_, by rw [hk₁, Table.find?_insert, if_pos rfl]⟩
  have hthere : t.find? u.replacement.id = some n := h.others _ _ hn hnotin
  refine ⟨?_, ?_, ?_, ?_⟩
  · intro id d hd hid
    rw [Table.find?_erase] at hd
    split at hd
    · cases hd
    · rename_i hne
      rw [Table.find?_erase, if_neg (hswap.ne_of_find? hne hd)]
      exact h.others id d (hswap.find?_of_ne hne hd) hid
  · intro id d hd hid
    rw [Table.find?_erase] at hd
    split at hd
    · cases hd
    · rename_i hne
      have hd₁ := hswap.find?_of_ne hne hd
      obtain ⟨id', d', hd', hrev⟩ := h.back id d hd₁ hid
      refine ⟨id', d', ?_, hrev⟩
      rw [Table.find?_erase, if_neg ?_]
      · exact hd'
      · -- the replacement has not got the name of a container beside it
        intro heq
        rw [heq, hthere] at hd'
        have hname : n.name = d.name := by
          rw [Option.some.inj hd']
          exact hrev.name
        exact hswap.ne_of_find? hne hd (k₁.distinct hd₁ hn hname.symm)
  · intro id' d' hd'
    rw [Table.find?_erase] at hd'
    split at hd'
    · cases hd'
    · rename_i hne'
      rcases h.nothingElse id' d' hd' with ⟨hid, hd₁⟩ | ⟨id, hid, d, hd₁, hrev⟩
      · rcases hswap.eq_or_of_find? hd₁ with heq | ⟨hne, hd⟩
        · exact absurd heq hne'
        · exact Or.inl ⟨hid, by rw [Table.find?_erase, if_neg hne]; exact hd⟩
      · rcases hswap.eq_or_of_find? hd₁ with heq | ⟨hne, hd⟩
        · exact absurd hid (heq ▸ hnotin)
        · exact Or.inr ⟨id, hid, d,
            by rw [Table.find?_erase, if_neg hne]; exact hd, hrev⟩
  · obtain ⟨d, hd, -⟩ := hswap.known
    have ht := Table.size_erase hthere
    have hk := Table.size_erase hd
    have hsize : k₁.containers.size = k.containers.size := hswap.size_eq
    have := h.size_eq
    omega

/-- The second half of an undo step: with the container that was swapped
created again, under whatever free id, it is back too. -/
theorem recreate {t t' : Table Stored} {ids : List String} {id id' : String}
    {d d' : Stored} (hd : t.find? id = some d) (hid : id ∉ ids)
    (hfree : t'.find? id' = none) (hrev : Revived d d')
    (h : Recovered (t.erase id) ids t') :
    Recovered t (id :: ids) (t'.insert id' d') := by
  have herase : ∀ {x : String} {m : Stored}, x ≠ id → t.find? x = some m →
      (t.erase id).find? x = some m := by
    intro x m hne hm
    rw [Table.find?_erase, if_neg hne]
    exact hm
  have hstays : ∀ {x : String} {m : Stored}, t'.find? x = some m →
      (t'.insert id' d').find? x = some m := by
    intro x m hm
    rw [Table.find?_insert, if_neg ?_]
    · exact hm
    · intro heq
      rw [heq, hfree] at hm
      cases hm
  refine ⟨?_, ?_, ?_, ?_⟩
  · intro x m hm hx
    rw [List.mem_cons, not_or] at hx
    exact hstays (h.others x m (herase hx.1 hm) hx.2)
  · intro x m hm hx
    by_cases hxid : x = id
    · subst hxid
      have hmd : m = d := Option.some.inj (hm.symm.trans hd)
      subst hmd
      exact ⟨id', d', by rw [Table.find?_insert, if_pos rfl], hrev⟩
    · have hxs := (List.mem_cons.1 hx).resolve_left hxid
      obtain ⟨y, m', hm', hmrev⟩ := h.back x m (herase hxid hm) hxs
      exact ⟨y, m', hstays hm', hmrev⟩
  · intro x m hm
    rw [Table.find?_insert] at hm
    split at hm
    · cases hm
      exact Or.inr ⟨id, List.mem_cons_self .., d, hd, hrev⟩
    · rcases h.nothingElse x m hm with ⟨hx, hxm⟩ | ⟨y, hy, m₀, hm₀, hmrev⟩
      · rw [Table.find?_erase] at hxm
        split at hxm
        · cases hxm
        · rename_i hne
          exact Or.inl ⟨by simp [hne, hx], hxm⟩
      · rw [Table.find?_erase] at hm₀
        split at hm₀
        · cases hm₀
        · exact Or.inr ⟨y, List.mem_cons_of_mem _ hy, m₀, hm₀, hmrev⟩
  · rw [Table.size_insert hfree, h.size_eq, Table.size_erase hd]

end Recovered

-- ==================================================== the failed container

/-- A container that is known, with what an engine keeps under a name asked
for, is the container that was there. -/
theorem Site.Known.revived {k : Stock} {c former : Container} {d : Stored}
    {spec : ContainerSpec} {n : String} (hd : k.find? c.id = some d)
    (hknown : Known c former d) (hspec : former.config = some spec)
    (hname : ∀ m, former.name = some m → ProperName m → n = m) :
    Revived d ⟨n, spec, true⟩ := by
  obtain ⟨-, hformer, hconfig⟩ := hknown
  rw [hconfig] at hspec
  cases hspec
  exact ⟨hname _ hformer (k.proper hd), Or.inr rfl, rfl⟩

/-- A restoration that succeeds brings the container back that failed,
whatever condition it had been left in. -/
theorem recovered_of_broken (hserve : e.api.Serves view)
    (haside : e.Aside view) {k : Stock} {c : Container} {f : InFlight}
    {removed : Bool} {s s' : σ} (hbroken : Broken P k c f (view s))
    (hremoved : removed = decide (Stage.removed.rank ≤ f.stage.rank))
    (h : e.restore f.former f.replacement removed s = (.ok (), s')) :
    Recovered k.containers [c.id] (view s').containers := by
  cases hbroken with
  | @kept d running hstage hnone hid hd _ hk' =>
    have hfalse : removed = false := by
      rw [hremoved, decide_eq_false_iff_not]
      omega
    rw [hfalse, hnone] at h
    obtain ⟨d', hd', hrun⟩ := restore_kept hserve h
    simp only [leftOf] at hd' hrun
    rw [hk', hid, Table.find?_insert, if_pos rfl] at hd'
    cases hd'
    -- seen from the table without it, the container is there again
    rw [hrun, hk', hid, Table.insert_insert, ← Table.insert_erase]
    refine Recovered.recreate hd List.not_mem_nil ?_ ⟨rfl, Or.inl rfl, rfl⟩
      (Recovered.refl _)
    rw [Table.find?_erase, if_pos rfl]
  | @gone d hstage hnone hd hknown hk' =>
    have htrue : removed = true := by
      rw [hremoved, decide_eq_true_iff]
      exact hstage
    rw [htrue, hnone] at h
    obtain ⟨spec, id, n, hspec, hfree, hname, hmade⟩ :=
      restore_removed hserve haside h
    simp only [leftOf] at hfree hmade
    rw [hk'] at hfree hmade
    rw [hmade]
    exact Recovered.recreate hd List.not_mem_nil hfree
      (hknown.revived hd hspec hname) (Recovered.refl _)
  | @swapped r hstage hsome hswap =>
    have htrue : removed = true := by
      rw [hremoved, decide_eq_true_iff]
      exact hstage
    rw [htrue, hsome] at h
    obtain ⟨spec, id, n, hspec, hfree, hname, hmade⟩ :=
      restore_removed hserve haside h
    obtain ⟨d, hd, hknown⟩ := hswap.known
    rw [hmade]
    refine Recovered.recreate hd List.not_mem_nil hfree
      (hknown.revived hd hspec hname) ?_
    exact Recovered.discard hswap (by simp) (Recovered.refl _)

-- ================================================= the upgraded containers

/-- The attempt that a rollback makes for a container that was upgraded. -/
def undoing (u : Upgraded) : Attempt := ⟨u.former, some u.replacement, true⟩

/-- Where every attempt succeeds, so does the first. -/
theorem restoreAll_cons {a : Attempt} {rest : List Attempt} {s s' : σ}
    (h : e.restoreAll (a :: rest) s = ([], s')) :
    ∃ s₁, e.restore a.former a.replacement a.removed s = (.ok (), s₁)
      ∧ e.restoreAll rest s₁ = ([], s') := by
  unfold restoreAll at h
  split at h
  case h_1 s₁ hrestore => exact ⟨s₁, hrestore, h⟩
  case h_2 => cases h

/-- Where every attempt succeeds, so do those of any part. -/
theorem restoreAll_append {as bs : List Attempt} :
    ∀ {s s' : σ}, e.restoreAll (as ++ bs) s = ([], s') →
      ∃ s₁, e.restoreAll as s = ([], s₁) ∧ e.restoreAll bs s₁ = ([], s') := by
  induction as with
  | nil =>
    intro s s' h
    exact ⟨s, rfl, h⟩
  | cons a as ih =>
    intro s s' h
    obtain ⟨s₁, hrestore, hrest⟩ := restoreAll_cons h
    obtain ⟨s₂, has, hbs⟩ := ih hrest
    refine ⟨s₂, ?_, hbs⟩
    unfold restoreAll
    rw [hrestore]
    exact has

/-- One undo step: from a state in which all later containers are back to one
in which this one is too. -/
theorem Recovered.undo (hserve : e.api.Serves view) (haside : e.Aside view)
    {k k₁ : Stock} {c : Container} {u : Upgraded} {ids : List String}
    {s s' : σ} (hswap : Swap P k c u k₁)
    (hids : ∀ id ∈ ids, id ≠ c.id ∧ (k.find? id).isSome)
    (hback : Recovered k₁.containers ids (view s).containers)
    (h : e.restoreAll [undoing u] s = ([], s')) :
    Recovered k.containers (c.id :: ids) (view s').containers := by
  obtain ⟨s₁, hrestore, hnil⟩ := restoreAll_cons h
  cases hnil
  obtain ⟨spec, id, n, hspec, hfree, hname, hmade⟩ :=
    restore_removed hserve haside hrestore
  obtain ⟨d, hd, hknown⟩ := hswap.known
  rw [hmade]
  have hnotin : c.id ∉ ids := fun hin => (hids _ hin).1 rfl
  exact Recovered.recreate hd hnotin hfree (hknown.revived hd hspec hname)
    (Recovered.discard hswap hids hback)

/-- Undoing a chain of swaps from its last one brings all of its containers
back. The induction is along the chain from its first swap; `ids` are those
that are back before any of these is undone. -/
theorem recovered_of_swaps (hserve : e.api.Serves view) (haside : e.Aside view)
    {k k' : Stock} {cs : List Container} {us : List Upgraded}
    {ids : List String} (hswaps : Swaps P k cs us k') :
    ∀ {s s' : σ}, (cs.map (·.id) ++ ids).Nodup →
      (∀ id ∈ cs.map (·.id) ++ ids, (k.find? id).isSome) →
      Recovered k'.containers ids (view s).containers →
      e.restoreAll (us.reverse.map undoing) s = ([], s') →
      Recovered k.containers (cs.map (·.id) ++ ids) (view s').containers := by
  induction hswaps with
  | nil =>
    intro s s' _ _ hback h
    cases h
    exact hback
  | @cons k k₁ k' c cs u us hswap _ ih =>
    intro s s' hnodup hheld hback h
    rw [List.map_cons, List.cons_append, List.nodup_cons] at hnodup
    have hids :
        ∀ id ∈ cs.map (·.id) ++ ids, id ≠ c.id ∧ (k.find? id).isSome := by
      intro id hid
      refine ⟨?_, hheld id (List.mem_cons_of_mem _ hid)⟩
      intro heq
      exact hnodup.1 (heq ▸ hid)
    rw [List.reverse_cons, List.map_append] at h
    obtain ⟨s₁, hlater, hthis⟩ := restoreAll_append h
    have hlaterBack := ih hnodup.2 ?_ hback hlater
    · exact Recovered.undo hserve haside hswap hids hlaterBack hthis
    · intro id hid
      obtain ⟨hne, hsome⟩ := hids id hid
      obtain ⟨d, hd⟩ := Option.isSome_iff_exists.1 hsome
      exact Option.isSome_iff_exists.2 ⟨d, hswap.find?_of_ne hne hd⟩

-- =============================================================== the run

/-- A rollback that succeeds restores everything that its plan names. -/
theorem restoreAll_of_rollback {p : RollbackPlan} {s s' : σ}
    (h : e.rollback p s = (.ok (), s')) :
    e.restoreAll (attempts p) s = ([], s') := by
  unfold rollback at h
  split at h
  case h_1 s₁ hall =>
    cases h
    exact hall
  case h_2 => cases h

/-- Some containers have been swapped, the next one is broken, and the
rollback of the batch succeeds: all of them are back. -/
theorem recovered_of_rollback (hserve : e.api.Serves view)
    (haside : e.Aside view) {k k₁ : Stock} {before : List Container}
    {c : Container} {us : List Upgraded} {f : InFlight} {s s' : σ}
    (hids : ((before ++ [c]).map (·.id)).Nodup)
    (hheld : ∀ c' ∈ before ++ [c], Held k c')
    (hswaps : Swaps P k before us k₁) (hbroken : Broken P k₁ c f (view s))
    (h : e.rollback (planOf .batch f us) s = (.ok (), s')) :
    Recovered k.containers ((before ++ [c]).map (·.id))
      (view s').containers := by
  obtain ⟨s₁, hfailed, hupgraded⟩ := restoreAll_cons (restoreAll_of_rollback h)
  have hback := recovered_of_broken hserve haside hbroken rfl hfailed
  rw [List.map_append] at hids ⊢
  refine recovered_of_swaps hserve haside hswaps hids ?_ hback hupgraded
  intro id hid
  rw [← List.map_append] at hid
  obtain ⟨c', hc', rfl⟩ := List.mem_map.1 hid
  obtain ⟨d', hd', -⟩ := hheld c' hc'
  exact Option.isSome_iff_exists.2 ⟨d', hd'⟩

/-- A batch that ends rolled back leaves the engine as it was. Of the
containers that the selection takes from the listing, those before the failed
one were upgraded; they and the failed one, all of which the engine held, are
there again and run, each under its name alone and with a configuration of
which an inspection tells the same. All other containers are untouched, there
is nothing else, and there are as many as before.

The engine may fail wherever the law lets it, and the processor may make
anything of a container: change its name, its image or its configuration,
drop the configuration, or fail. -/
theorem rolledBack_restores (hserve : e.api.Serves view)
    (haside : Bystanders e j process view) {select : Selection} {s : σ}
    {plan : RollbackPlan} {cause : Fault}
    (h : (run e.operations j .batch select process s).1
      = .ok (.rolledBack plan cause)) :
    let k' := view (run e.operations j .batch select process s).2
    ∃ summaries before c after,
      (e.api.list true s).1 = .ok summaries
      ∧ e.chosen select summaries = before ++ c :: after
      ∧ plan.upgraded.map (·.former.id) = before.map (·.id)
      ∧ plan.failed.former.id = c.id
      ∧ Recovered (view s).containers ((before ++ [c]).map (·.id))
        k'.containers
      ∧ ∀ x ∈ before ++ [c], ∃ d, (view s).find? x.id = some d
          ∧ ∃ id d', k'.find? id = some d' ∧ Revived d d'
            ∧ d'.spec.settled = d.spec.settled
            ∧ ∀ id' m, k'.find? id' = some m → m.name = d.name → id' = id := by
  intro k'
  have hrun : run e.operations j .batch select process s
      = (.ok (.rolledBack plan cause),
          (run e.operations j .batch select process s).2) := Prod.ext h rfl
  obtain ⟨before, c, after, us, f, s₁, line, s₂, s₃, line', hload,
    hpass, hcourse, rfl, hrollback⟩ := rolledBack_of_run hrun
  obtain ⟨summaries, hlist, hchosen, hstart, hids, hheld⟩ :=
    held_of_load hserve haside hload line
  obtain ⟨hids, hheld⟩ := held_upTo hids hheld
  obtain ⟨hswaps, -, hbroken⟩ := broken_of_passes hserve haside
    (fun _ _ _ _ _ => trivial) hids hheld hpass hcourse
  have hquiet : view (j.log line' (j.report .rollingBack c.toText s₃))
      = view s₃ := by
    rw [haside.note, haside.report]
  rw [← hquiet] at hbroken
  have hback := recovered_of_rollback hserve haside.toAside hids hheld
    hswaps hbroken hrollback
  rw [hstart] at hheld hback
  refine ⟨summaries, before, c, after, hlist, hchosen.symm, hswaps.former_ids,
    hbroken.former_id, hback, ?_⟩
  intro x hx
  obtain ⟨d, hd, -⟩ := hheld x hx
  obtain ⟨id, d', hd', hrev⟩ := hback.back x.id d hd (List.mem_map_of_mem hx)
  refine ⟨d, hd, id, d', hd', hrev, hrev.settled_eq, ?_⟩
  intro id' m hm hname
  exact k'.distinct hm hd' (hname.trans hrev.name.symm)

/-- A processor that hands names on: the first web server gives up its name,
and the second gets it, with an image that is no good. -/
def handOn (c : Container) : Except Fault Container :=
  if c.name = some "web2" then
    .ok { c with name := some "web1", config := some (.ofImage "web:bad") }
  else .ok { c with name := some "web0" }

/-- An engine in memory that finds this image unhealthy. -/
def sickSite : Site Memory := Memory.site
  { health := fun image => if image = "web:bad" then
    some "unhealthy" else none }

/-- The web servers are upgraded with names handed on. -/
def handingOn : Except Fault Outcome × Memory :=
  run sickSite.operations (.silent true) .batch (fun c => c.image == "web:1")
    (.pure handOn) Memory.sample

/-- The replacement of the second web server, which has the name of the
first, is found unhealthy; both servers come back under their own names. -/
theorem handingOn_restores :
    ∃ plan cause summaries before c after,
      handingOn.1 = .ok (.rolledBack plan cause)
      ∧ (sickSite.api.list true Memory.sample).1 = .ok summaries
      ∧ sickSite.chosen (fun c => c.image == "web:1") summaries
        = before ++ c :: after
      ∧ Recovered Memory.sample.stock.containers ((before ++ [c]).map (·.id))
          handingOn.2.stock.containers := by
  have hrolled : ∃ plan cause, handingOn.1 = .ok (.rolledBack plan cause) :=
    ⟨_, _, rfl⟩
  obtain ⟨plan, cause, h⟩ := hrolled
  obtain ⟨summaries, before, c, after, hlist, hchosen, -, -, hback, -⟩ :=
    rolledBack_restores (Memory.serves _) (Memory.bystanders _ true handOn) h
  exact ⟨plan, cause, summaries, before, c, after, h, hlist, hchosen, hback⟩

end Fleetkeeper
