/-
What a change of tag leaves behind when nothing is rolled back: the chain of
swaps of a run, read as a statement about the stock before and after.

# What has to be shown

A chain speaks of every stock in between, the effect only of the first and
the last. Two things carry the step from one to the other. A replacement has
the name of its former container, so names are what the ids may change under.
And a replacement is not swapped again: the containers behind it were held
when it got its id, so its id is none of theirs.

A run that fails with the rollback switched off has made the same chain over
the containers before the failed one; from the stock behind that chain only
the failed container can differ, in the ways of `Halted`.
-/
import Fleetkeeper.Proofs.Upgrade.Swap
import Mathlib.Data.List.Forall2

namespace Fleetkeeper

open Rolling Site

variable {σ : Type} {e : Site σ} {j : Job σ} {view : σ → Stock} {tag : String}

-- ============================================================ the effect

/-- A configuration moved to another tag. -/
def ContainerSpec.retag (tag : String) (s : ContainerSpec) : ContainerSpec :=
  { s with image := Image.withTag s.image tag }

/-- One container is replaced by a running one with its name and its
configuration as an inspection tells it, moved to another tag; nothing else
has that name. -/
structure Successor (tag : String) (k : Stock) (k' : Stock) (c : Container)
    (u : Upgraded) (d : Stored) : Prop where
  held : k.find? c.id = some d
  known : Known c u.former d
  name : u.replacement.name = some d.name
  config : u.replacement.config = some (d.spec.settled.retag tag)
  runs : k'.find? u.replacement.id
    = some ⟨d.name, d.spec.settled.retag tag, true⟩
  alone : ∀ id m, k'.find? id = some m → m.name = d.name →
    id = u.replacement.id

/-- Containers are replaced by themselves at another tag, in the order of the
list, and nothing else is different. -/
structure Retagged (tag : String) (k : Stock) (cs : List Container)
    (us : List Upgraded) (k' : Stock) : Prop where
  each : List.Forall₂ (fun c u => ∃ d, Successor tag k k' c u d) cs us
  others : ∀ id d, k.find? id = some d → id ∉ cs.map (·.id) →
    k'.find? id = some d
  nothingElse : ∀ id m, k'.find? id = some m →
    (id ∉ cs.map (·.id) ∧ k.find? id = some m)
      ∨ ∃ u ∈ us, id = u.replacement.id
  size_eq : k'.size = k.size

/-- The conditions that a failed upgrade leaves its container in: there, at
most stopped; gone, with nothing instead; or replaced all the same. -/
inductive Halted (tag : String) (k : Stock) (c : Container) (k' : Stock) :
    Prop where
  | kept {d : Stored} (running : Bool) (hd : k.find? c.id = some d)
      (hrunning : running = true → d.running = true)
      (hk' : k'.containers = k.containers.insert c.id { d with running })
  | gone {d : Stored} (hd : k.find? c.id = some d)
      (hk' : k'.containers = k.containers.erase c.id)
  | replaced {u : Upgraded} (h : Retagged tag k [c] [u] k')

-- =================================================== from swaps to effects

/-- What a change of tag makes of a container is moved to the tag in its
configuration and unchanged otherwise. -/
theorem config_of_upgradeTag {c desired : Container}
    (h : upgradeTag tag c = .ok desired) :
    ∃ spec, c.config = some spec ∧ desired.name = c.name
      ∧ desired.config = some (spec.retag tag) := by
  unfold upgradeTag at h
  split at h
  case h_1 => cases h
  case h_2 spec hspec =>
    cases h
    exact ⟨spec, hspec, rfl, rfl⟩

/-- A swap at a change of tag puts the successor in place. -/
theorem Swap.successor {k k' : Stock} {c : Container} {u : Upgraded}
    (h : Swap (fun c d => upgradeTag tag c = .ok d) k c u k') :
    ∃ d, Successor tag k k' c u d := by
  obtain ⟨d, hd, hknown⟩ := h.known
  obtain ⟨desired, spec, n, htag, hspec, hreplacement, hname, hk'⟩ := h.made
  obtain ⟨former, hformer, hsame, hconfig⟩ := config_of_upgradeTag htag
  have hcalled := hknown.2.1
  rw [hknown.2.2] at hformer
  cases hformer
  rw [hspec] at hconfig
  cases hconfig
  rw [hcalled] at hsame
  have hn : n = d.name := hname _ hsame (k.proper hd)
  have hruns : k'.find? u.replacement.id
      = some ⟨d.name, d.spec.settled.retag tag, true⟩ := by
    unfold Stock.find?
    rw [hk', Table.find?_insert, if_pos rfl, hn]
  refine ⟨d, hd, hknown, ?_, ?_, hruns, ?_⟩
  · rw [hreplacement]
    exact hsame
  · rw [hreplacement]
    exact hspec
  · intro id m hm hname
    exact k'.distinct hm hruns hname

/-- A successor stays what it is while other containers are swapped. -/
theorem Successor.later {k k₁ k' : Stock} {c : Container} {u : Upgraded}
    {d : Stored} {P : Container → Container → Prop} {cs : List Container}
    {us : List Upgraded} (h : Successor tag k k₁ c u d)
    (hrest : Swaps P k₁ cs us k') (hid : u.replacement.id ∉ cs.map (·.id)) :
    Successor tag k k' c u d := by
  have hruns := hrest.find?_of_notMem hid h.runs
  refine { h with runs := hruns, alone := ?_ }
  intro id m hm hname
  exact k'.distinct hm hruns hname

/-- A successor of a container that was held before another one was swapped
is one of the container as it was then. -/
theorem Successor.earlier {k k₁ k' : Stock} {c c' : Container}
    {u u' : Upgraded} {d : Stored} {P : Container → Container → Prop}
    (hswap : Swap P k c u k₁) (hne : c'.id ≠ c.id) (hheld : Held k c')
    (h : Successor tag k₁ k' c' u' d) :
    Successor tag k k' c' u' d := by
  obtain ⟨d', hd', -⟩ := hheld
  have hdd : d' = d :=
    Option.some.inj ((hswap.find?_of_ne hne hd').symm.trans h.held)
  subst hdd
  exact { h with held := hd' }

/-- A chain of swaps at a change of tag replaces its containers by themselves
at the other tag. The induction is along the chain from its first swap; what
is held behind that swap was held before it, and stays what it was. -/
theorem retagged_of_swaps {k k' : Stock} {cs : List Container}
    {us : List Upgraded}
    (h : Swaps (fun c d => upgradeTag tag c = .ok d) k cs us k') :
    (cs.map (·.id)).Nodup → (∀ c ∈ cs, Held k c) →
      Retagged tag k cs us k' := by
  induction h with
  | nil =>
    intro _ _
    refine ⟨.nil, ?_, ?_, rfl⟩
    · intro id d hd _
      exact hd
    · intro id m hm
      exact Or.inl ⟨List.not_mem_nil, hm⟩
  | @cons k k₁ k' c cs u us hswap hrest ih =>
    intro hnodup hheld
    rw [List.map_cons, List.nodup_cons] at hnodup
    have hapart : ∀ c' ∈ cs, c'.id ≠ c.id := by
      intro c' hc' heq
      exact hnodup.1 (heq ▸ List.mem_map_of_mem hc')
    have hback := ih hnodup.2 fun c' hc' =>
      hswap.held (hapart c' hc') (hheld c' (List.mem_cons_of_mem _ hc'))
    have hnew : u.replacement.id ∉ cs.map (·.id) := by
      intro hin
      obtain ⟨c', hc', heq⟩ := List.mem_map.1 hin
      obtain ⟨d, hd, -⟩ := hheld c' (List.mem_cons_of_mem _ hc')
      exact hswap.ne_of_find? (hapart c' hc') hd heq
    refine ⟨.cons ?_ ?_, ?_, ?_, ?_⟩
    · obtain ⟨d, hd⟩ := hswap.successor
      exact ⟨d, hd.later hrest hnew⟩
    · have hrested := (List.forall₂_and_left cs us).2
        ⟨fun _ (hc' : _ ∈ cs) => hc', hback.each⟩
      refine hrested.imp ?_
      rintro c' u' ⟨hc', d, hd⟩
      exact ⟨d, hd.earlier hswap (hapart c' hc')
        (hheld c' (List.mem_cons_of_mem _ hc'))⟩
    · intro id d hd hid
      rw [List.map_cons, List.mem_cons, not_or] at hid
      exact hback.others id d (hswap.find?_of_ne hid.1 hd) hid.2
    · intro id m hm
      rcases hback.nothingElse id m hm with ⟨hid, hm₁⟩ | ⟨v, hv, hid⟩
      · rcases hswap.eq_or_of_find? hm₁ with heq | ⟨hne, hk⟩
        · exact Or.inr ⟨u, List.mem_cons_self .., heq⟩
        · exact Or.inl ⟨by simp [hne, hid], hk⟩
      · exact Or.inr ⟨v, List.mem_cons_of_mem _ hv, hid⟩
    · rw [hback.size_eq, hswap.size_eq]

/-- What is left of a container whose change of tag failed. -/
theorem halted_of_broken {k k' : Stock} {c : Container} {f : InFlight}
    (h : Broken (fun c d => upgradeTag tag c = .ok d) k c f k')
    (hheld : Held k c) : Halted tag k c k' := by
  cases h with
  | kept running _ _ _ hd hrunning hk' => exact .kept running hd hrunning hk'
  | gone _ _ hd _ hk' => exact .gone hd hk'
  | swapped _ _ hswap =>
    refine .replaced (retagged_of_swaps (.cons hswap .nil) (by simp) ?_)
    intro c' hc'
    rw [List.mem_singleton.1 hc']
    exact hheld

-- =============================================================== the run

/-- The processor of a change of tag is that change. -/
theorem retags (c : Container) (s : σ) (d : Container) (s' : σ)
    (h : Processor.pure (upgradeTag tag) c s = (.ok d, s')) :
    upgradeTag tag c = .ok d :=
  congrArg Prod.fst h

/-- A run that completes at a change of tag has replaced everything that was
selected. -/
theorem retagged_of_completed (hserve : e.api.Serves view)
    (haside : Bystanders e j (.pure (upgradeTag tag)) view)
    {scope : RollbackScope} {select : Selection} {us : List Upgraded}
    {s s' : σ} (h : run e.operations j scope select (.pure (upgradeTag tag)) s
      = (.ok (.completed us), s')) :
    ∃ summaries, (e.api.list true s).1 = .ok summaries
      ∧ Retagged tag (view s) (e.chosen select summaries) us (view s') := by
  obtain ⟨cs, s₁, line, s₂, line', hload, hpass, rfl⟩ := completed_of_run h
  obtain ⟨summaries, hlist, rfl, hstart, hids, hheld⟩ :=
    held_of_load hserve haside hload line
  have hswaps := swaps_of_passes hserve haside retags hpass hids hheld
  have hdone := retagged_of_swaps hswaps hids hheld
  rw [haside.note, ← hstart]
  exact ⟨summaries, hlist, hdone⟩

/-- A run that fails without a rollback at a change of tag has replaced what
was selected before one container, and this one is left halted. -/
theorem halted_of_error (hserve : e.api.Serves view)
    (haside : Bystanders e j (.pure (upgradeTag tag)) view)
    (hoff : ∀ w, j.rollbackEnabled w = false)
    {scope : RollbackScope} {select : Selection} {x : Fault} {s s' : σ}
    (h : run e.operations j scope select (.pure (upgradeTag tag)) s
      = (.error x, s')) :
    ((e.api.list true s).1 = .error x ∧ view s' = view s)
      ∨ ∃ summaries before c after us k,
          (e.api.list true s).1 = .ok summaries
          ∧ e.chosen select summaries = before ++ c :: after
          ∧ Retagged tag (view s) before us k ∧ Halted tag k c (view s') := by
  rcases error_of_run hoff h with hload |
    ⟨before, c, after, us, f, s₁, line, s₂, s₃, line', hload, hpass,
      hcourse, rfl⟩
  · have hlist := load_error hload
    exact Or.inl ⟨by rw [hlist], hserve.list_error hlist⟩
  obtain ⟨summaries, hlist, hchosen, hstart, hids, hheld⟩ :=
    held_of_load hserve haside hload line
  obtain ⟨hids, hheld⟩ := held_upTo hids hheld
  obtain ⟨hswaps, hstill, hbroken⟩ :=
    broken_of_passes hserve haside retags hids hheld hpass hcourse
  rw [List.map_append, List.nodup_append] at hids
  have hfirst := retagged_of_swaps hswaps hids.1
    fun c' hc' => hheld c' (List.mem_append_left _ hc')
  have hhalted := halted_of_broken hbroken hstill
  rw [haside.note, haside.report, ← hstart]
  exact Or.inr ⟨summaries, before, c, after, us, view s₂, hlist, hchosen.symm,
    hfirst, hhalted⟩

/-- The effect of a change of tag that is not rolled back, on an engine that
may fail wherever the law lets it.

A run that completes has replaced the selected containers, in the order of
the listing, by themselves at the other tag, and says so. A run that fails
while the rollback is switched off has listed nothing and changed nothing, or
it has replaced the containers before one that failed, has left this one in
one of the conditions of `Halted`, and has touched no other. -/
theorem upgradeTag_effect (hserve : e.api.Serves view)
    (haside : Bystanders e j (.pure (upgradeTag tag)) view)
    (scope : RollbackScope) (select : Selection) (s : σ) :
    let run := run e.operations j scope select (.pure (upgradeTag tag)) s
    (∀ us, run.1 = .ok (.completed us) →
      ∃ summaries, (e.api.list true s).1 = .ok summaries
        ∧ Retagged tag (view s) (e.chosen select summaries) us (view run.2))
    ∧ ∀ x, run.1 = .error x → (∀ w, j.rollbackEnabled w = false) →
      ((e.api.list true s).1 = .error x ∧ view run.2 = view s)
      ∨ ∃ summaries before c after us k,
          (e.api.list true s).1 = .ok summaries
          ∧ e.chosen select summaries = before ++ c :: after
          ∧ Retagged tag (view s) before us k
          ∧ Halted tag k c (view run.2) := by
  intro run
  constructor
  · intro us h
    exact retagged_of_completed hserve haside (Prod.ext h rfl)
  · intro x h hoff
    exact halted_of_error hserve haside hoff (Prod.ext h rfl)

/-- The web servers of an engine in memory are moved to another tag. -/
def retagging (t : Temper) (rollback : Bool) : Except Fault Outcome × Memory :=
  run (Memory.site t).operations (.silent rollback) .batch
    (fun c => c.image == "web:1") (.pure (upgradeTag "2")) Memory.sample

/-- An engine in memory on which nothing starts at tag 2. -/
def stuck : Temper := { starts := fun image => image ≠ "web:2" }

/-- Both ways to end: at once with both web servers moved, and halted at the
first when containers do not start. -/
theorem retagging_effect :
    (∃ us summaries, (retagging {} true).1 = .ok (.completed us)
      ∧ Retagged "2" Memory.sample.stock
          ((Memory.site {}).chosen (fun c => c.image == "web:1") summaries) us
          (retagging {} true).2.stock)
    ∧ ∃ x before c us k, (retagging stuck false).1 = .error x
      ∧ Retagged "2" Memory.sample.stock before us k
      ∧ Halted "2" k c (retagging stuck false).2.stock := by
  have hcompleted : ∃ us, (retagging {} true).1 = .ok (.completed us) :=
    ⟨_, rfl⟩
  have hfailed : ∃ x, (retagging stuck false).1 = .error x := ⟨_, rfl⟩
  obtain ⟨us, hus⟩ := hcompleted
  obtain ⟨x, hx⟩ := hfailed
  constructor
  · obtain ⟨summaries, -, hmoved⟩ := (upgradeTag_effect (Memory.serves {})
      (Memory.bystanders _ true (upgradeTag "2")) _ _ _).1 us hus
    exact ⟨us, summaries, hus, hmoved⟩
  · obtain ⟨hnone, -⟩ | ⟨-, before, c, -, us, k, -, -, hfirst, hhalted⟩ :=
      (upgradeTag_effect (Memory.serves stuck)
        (Memory.bystanders _ false (upgradeTag "2")) _ _ _).2 x hx fun _ => rfl
    · cases hnone
    · exact ⟨x, before, c, us, k, hx, hfirst, hhalted⟩

end Fleetkeeper
