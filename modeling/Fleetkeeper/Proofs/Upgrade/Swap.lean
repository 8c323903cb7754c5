/-
What the forward part of an upgrade does to the stock of an engine: each
container that passes is swapped for its replacement, one after another, and
the one that fails is left in one of three conditions.

# The shape of a swap

A swap erases the id of the former container and puts the replacement under
an id that is free then. So a container that is held under any other id stays
where it is (`Swap.find?_of_ne`), and what is found afterwards is either the
replacement or was there before (`Swap.eq_or_of_find?`). Everything that is
said about a chain of swaps comes from these two, by induction along the
chain: the containers still to come are held all the time, and their ids are
never given to a replacement.

What the processor makes of a container enters through a relation `P` between
the resolved container and the desired one. A rollback needs nothing of it,
a change of tag has `upgradeTag` there.
-/
import Fleetkeeper.Proofs.Engine.Memory
import Fleetkeeper.Proofs.Upgrade.Course
import Fleetkeeper.Proofs.Upgrade.Effect

namespace Fleetkeeper

open Rolling Site

variable {σ : Type} {e : Site σ} {j : Job σ} {process : Processor σ}
  {view : σ → Stock} {P : Container → Container → Prop}

/-- What stands beside the engine in an upgrade does nothing to its
containers: the job, the processor, waiting and the log. -/
structure Bystanders (e : Site σ) (j : Job σ) (process : Processor σ)
    (view : σ → Stock) : Prop extends e.Aside view where
  report : ∀ p subject s, view (j.report p subject s) = view s
  note : ∀ line s, view (j.log line s) = view s
  process : ∀ c s, view (process c s).2 = view s

/-- An application of the processor leaves the containers as they are. -/
theorem Bystanders.process_view (haside : Bystanders e j process view)
    {c : Container} {s s' : σ} {a : Except Fault Container}
    (h : process c s = (a, s')) : view s' = view s := by
  have hquiet := haside.process c s
  rw [h] at hquiet
  exact hquiet

/-- A job that reports nowhere. -/
def Job.silent {σ : Type} (rollback : Bool) : Job σ where
  rollbackEnabled _ := rollback
  report _ _ s := s
  log _ s := s

/-- An engine in memory as the place of an upgrade, where nobody waits and
nothing is logged. -/
def Memory.site (t : Temper) : Site Memory where
  api := Memory.api t
  attendant := { wait := fun _ s => s, log := fun _ s => s }

/-- Nothing stands beside an engine in memory. -/
theorem Memory.bystanders (t : Temper) (rollback : Bool)
    (f : Container → Except Fault Container) :
    Bystanders (Memory.site t) (.silent rollback) (.pure f) Memory.stock where
  wait _ _ := rfl
  log _ _ := rfl
  report _ _ _ := rfl
  note _ _ := rfl
  process _ _ := rfl

-- ============================================================== one swap

/-- The engine held `c` in `k`, and holds a running replacement instead of it
in `k'`. -/
structure Swap (P : Container → Container → Prop) (k : Stock) (c : Container)
    (u : Upgraded) (k' : Stock) : Prop where
  known : ∃ d, k.find? c.id = some d ∧ Known c u.former d
  fresh : (k.containers.erase c.id).find? u.replacement.id = none
  made : ∃ desired spec n, P u.former desired ∧ desired.config = some spec
    ∧ u.replacement = { desired with id := u.replacement.id }
    ∧ (∀ m, desired.name = some m → ProperName m → n = m)
    ∧ k'.containers
      = (k.containers.erase c.id).insert u.replacement.id ⟨n, spec, true⟩

namespace Swap

variable {k k' : Stock} {c : Container} {u : Upgraded}

/-- A container that is held under another id has not got the id of the
replacement. -/
theorem ne_of_find? (h : Swap P k c u k') {id : String} {d : Stored}
    (hne : id ≠ c.id) (hd : k.find? id = some d) : id ≠ u.replacement.id := by
  intro heq
  have hfresh := h.fresh
  rw [← heq, Table.find?_erase, if_neg hne] at hfresh
  unfold Stock.find? at hd
  rw [hd] at hfresh
  cases hfresh

/-- A container that is held under another id stays. -/
theorem find?_of_ne (h : Swap P k c u k') {id : String} {d : Stored}
    (hne : id ≠ c.id) (hd : k.find? id = some d) : k'.find? id = some d := by
  obtain ⟨-, spec, n, -, -, -, -, hk'⟩ := h.made
  unfold Stock.find?
  rw [hk', Table.find?_insert, if_neg (h.ne_of_find? hne hd),
    Table.find?_erase, if_neg hne]
  exact hd

/-- What is found afterwards is the replacement or was there before. -/
theorem eq_or_of_find? (h : Swap P k c u k') {id : String} {m : Stored}
    (hm : k'.find? id = some m) :
    id = u.replacement.id ∨ (id ≠ c.id ∧ k.find? id = some m) := by
  obtain ⟨-, spec, n, -, -, -, -, hk'⟩ := h.made
  unfold Stock.find? at hm
  rw [hk', Table.find?_insert] at hm
  by_cases hid : id = u.replacement.id
  · exact Or.inl hid
  · rw [if_neg hid, Table.find?_erase] at hm
    by_cases hc : id = c.id
    · rw [if_pos hc] at hm
      cases hm
    · rw [if_neg hc] at hm
      exact Or.inr ⟨hc, hm⟩

/-- A swap leaves as many containers as there were. -/
theorem size_eq (h : Swap P k c u k') : k'.size = k.size := by
  obtain ⟨d, hd, -⟩ := h.known
  obtain ⟨-, spec, n, -, -, -, -, hk'⟩ := h.made
  unfold Stock.size
  rw [hk', Table.size_insert h.fresh, Table.size_erase hd]

/-- Another container that is held stays held. -/
theorem held (h : Swap P k c u k') {c' : Container} (hne : c'.id ≠ c.id)
    (hheld : Held k c') : Held k' c' := by
  obtain ⟨d, hd, hname⟩ := hheld
  exact ⟨d, h.find?_of_ne hne hd, hname⟩

end Swap

-- ======================================================= a chain of swaps

/-- Containers are swapped for their replacements one after another. -/
inductive Swaps (P : Container → Container → Prop) :
    Stock → List Container → List Upgraded → Stock → Prop where
  | nil {k : Stock} : Swaps P k [] [] k
  | cons {k k₁ k' : Stock} {c : Container} {cs : List Container}
      {u : Upgraded} {us : List Upgraded}
      (hswap : Swap P k c u k₁) (hrest : Swaps P k₁ cs us k') :
      Swaps P k (c :: cs) (u :: us) k'

/-- A container that is held and not among those swapped stays. -/
theorem Swaps.find?_of_notMem {k k' : Stock} {cs : List Container}
    {us : List Upgraded} (h : Swaps P k cs us k') {id : String} {d : Stored}
    (hid : id ∉ cs.map (·.id)) (hd : k.find? id = some d) :
    k'.find? id = some d := by
  induction h with
  | nil => exact hd
  | cons hswap _ ih =>
    rw [List.map_cons, List.mem_cons, not_or] at hid
    exact ih hid.2 (hswap.find?_of_ne hid.1 hd)

/-- The containers that were swapped are noted with their ids. -/
theorem Swaps.former_ids {k k' : Stock} {cs : List Container}
    {us : List Upgraded} (h : Swaps P k cs us k') :
    us.map (·.former.id) = cs.map (·.id) := by
  induction h with
  | nil => rfl
  | cons hswap _ ih =>
    obtain ⟨-, -, hid, -⟩ := hswap.known
    rw [List.map_cons, List.map_cons, ih, hid]

-- ================================================ what becomes of a failure

/-- The conditions that a container which fails can be left in: still there,
at most stopped; removed, with nothing instead; or swapped for a replacement
that is not healthy. -/
inductive Broken (P : Container → Container → Prop) (k : Stock) (c : Container)
    (f : InFlight) (k' : Stock) : Prop where
  | kept {d : Stored} (running : Bool)
      (hstage : f.stage.rank < Stage.removed.rank)
      (hnone : f.replacement = none) (hid : f.former.id = c.id)
      (hd : k.find? c.id = some d)
      (hrunning : running = true → d.running = true)
      (hk' : k'.containers = k.containers.insert c.id { d with running })
  | gone {d : Stored}
      (hstage : Stage.removed.rank ≤ f.stage.rank)
      (hnone : f.replacement = none) (hd : k.find? c.id = some d)
      (hknown : Known c f.former d)
      (hk' : k'.containers = k.containers.erase c.id)
  | swapped {r : Container}
      (hstage : Stage.removed.rank ≤ f.stage.rank)
      (hsome : f.replacement = some r) (hswap : Swap P k c ⟨f.former, r⟩ k')

/-- Nothing has happened to a container that is still there as it was. -/
theorem Broken.of_eq {k k' : Stock} {c : Container} {f : InFlight} {d : Stored}
    (hstage : f.stage.rank < Stage.removed.rank) (hnone : f.replacement = none)
    (hid : f.former.id = c.id) (hd : k.find? c.id = some d) (hk' : k' = k) :
    Broken P k c f k' := by
  refine .kept d.running hstage hnone hid hd id ?_
  rw [hk']
  refine Table.ext_find? fun id => ?_
  rw [Table.find?_insert]
  split
  · rename_i heq
    rw [heq]
    exact hd
  · rfl

/-- The container that failed is noted with its id. -/
theorem Broken.former_id {k k' : Stock} {c : Container} {f : InFlight}
    (h : Broken P k c f k') : f.former.id = c.id := by
  cases h with
  | kept _ _ _ hid => exact hid
  | gone _ _ _ hknown => exact hknown.1
  | swapped _ _ hswap =>
    obtain ⟨-, -, hid, -⟩ := hswap.known
    exact hid

-- =========================================================== what is loaded

/-- The containers that are loaded are those chosen from a listing. The
engine holds them, no two are the same, and nothing has happened to it by the
time that the first one is taken up. -/
theorem held_of_load (hserve : e.api.Serves view)
    (haside : Bystanders e j process view) {select : Selection}
    {cs : List Container} {s s₁ : σ} (h : e.load select s = (.ok cs, s₁))
    (line : LogLine) :
    ∃ summaries, (e.api.list true s).1 = .ok summaries
      ∧ cs = e.chosen select summaries ∧ view (j.log line s₁) = view s
      ∧ (cs.map (·.id)).Nodup ∧ ∀ c ∈ cs, Held (view (j.log line s₁)) c := by
  obtain ⟨summaries, s₀, line₀, hlist, rfl, rfl⟩ := load_ok h
  obtain ⟨hview, hlists⟩ := hserve.list_ok hlist
  obtain ⟨hids, hheld⟩ := chosen_held (e := e) hlists select
  have hstart : view (j.log line (e.attendant.log line₀ s₀)) = view s := by
    rw [haside.note, haside.log, hview]
  exact ⟨summaries, by rw [hlist], rfl, hstart, hids,
    by rw [hstart]; exact hheld⟩

/-- What holds of all containers holds of those up to one of them. -/
theorem held_upTo {k : Stock} {before after : List Container} {c : Container}
    (hids : ((before ++ c :: after).map (·.id)).Nodup)
    (hheld : ∀ c' ∈ before ++ c :: after, Held k c') :
    ((before ++ [c]).map (·.id)).Nodup ∧ ∀ c' ∈ before ++ [c], Held k c' := by
  have hsplit : before ++ c :: after = (before ++ [c]) ++ after := by simp
  rw [hsplit] at hids hheld
  rw [List.map_append, List.nodup_append] at hids
  exact ⟨hids.1, fun c' hc' => hheld c' (List.mem_append_left _ hc')⟩

-- ==================================================== from steps to swaps

section Steps

variable (hserve : e.api.Serves view) (haside : Bystanders e j process view)
  (hP : ∀ c s d s', process c s = (.ok d, s') → P c d)
include hserve

/-- The first two steps leave a container at most stopped. -/
theorem stopped_of_steps {c r : Container} {s s₁ s₂ : σ}
    (hheld : Held (view s) c) (hresolve : e.resolve c s = (.ok r, s₁))
    (hstop : e.stop c s₁ = (.ok (), s₂)) :
    ∃ d, (view s).find? c.id = some d ∧ Known c r d
      ∧ (view s₂).containers
        = (view s).containers.insert c.id { d with running := false } := by
  obtain ⟨d, hd, hname⟩ := hheld
  obtain ⟨hview, hknown⟩ := resolve_ok hserve hd hname hresolve
  obtain ⟨d', hd', hstopped⟩ := hserve.stop_ok hstop
  rw [hview] at hd' hstopped
  have hdd : d' = d := Option.some.inj (hd'.symm.trans hd)
  subst hdd
  exact ⟨d', hd, hknown, hstopped⟩

/-- The first three steps leave the stock without the container. -/
theorem removed_of_steps {c r : Container} {s s₁ s₂ s₃ : σ}
    (hheld : Held (view s) c) (hresolve : e.resolve c s = (.ok r, s₁))
    (hstop : e.stop c s₁ = (.ok (), s₂))
    (hremove : e.remove c s₂ = (.ok (), s₃)) :
    ∃ d, (view s).find? c.id = some d ∧ Known c r d
      ∧ (view s₃).containers = (view s).containers.erase c.id := by
  obtain ⟨d, hd, hknown, hstopped⟩ :=
    stopped_of_steps hserve hheld hresolve hstop
  obtain ⟨-, -, herased⟩ := hserve.remove_ok hremove
  rw [hstopped, Table.erase_insert_self] at herased
  exact ⟨d, hd, hknown, herased⟩

include haside hP in
/-- The first five steps swap the container. -/
theorem swap_of_steps {c r desired n : Container} {s s₁ s₂ s₃ s₄ s₅ : σ}
    (hheld : Held (view s) c) (hresolve : e.resolve c s = (.ok r, s₁))
    (hstop : e.stop c s₁ = (.ok (), s₂))
    (hremove : e.remove c s₂ = (.ok (), s₃))
    (hprocess : process r s₃ = (.ok desired, s₄))
    (hcreate : e.create desired s₄ = (.ok n, s₅)) :
    Swap P (view s) c ⟨r, n⟩ (view s₅) := by
  obtain ⟨d, hd, hknown, herased⟩ :=
    removed_of_steps hserve hheld hresolve hstop hremove
  have hview := haside.process_view hprocess
  obtain ⟨spec, m, hspec, hn, hfree, hname, hmade⟩ := create_ok hserve hcreate
  unfold Stock.find? at hfree
  rw [hview, herased] at hfree hmade
  exact {
    known := ⟨d, hd, hknown⟩
    fresh := hfree
    made := ⟨desired, spec, m, hP _ _ _ _ hprocess, hspec, hn, hname, hmade⟩ }

include haside hP in
/-- A container whose upgrade succeeds is swapped for its replacement. -/
theorem swap_of_course {c n : Container} {f : InFlight} {s s' : σ}
    (hheld : Held (view s) c)
    (h : Course e.operations process c s f (.ok n) s') :
    Swap P (view s) c ⟨f.former, n⟩ (view s') := by
  cases h with
  | replaced hresolve hstop hremove hprocess hcreate hcheck =>
    rw [check_view hserve haside.toAside hcheck]
    exact swap_of_steps hserve haside hP hheld hresolve hstop hremove hprocess
      hcreate

include haside hP in
/-- A container whose upgrade fails is left in one of the conditions of
`Broken`: the case is that of the last step that succeeded. -/
theorem broken_of_course {c : Container} {f : InFlight} {x : Fault} {s s' : σ}
    (hheld : Held (view s) c)
    (h : Course e.operations process c s f (.error x) s') :
    Broken P (view s) c f (view s') := by
  obtain ⟨d, hd, hname⟩ := hheld
  cases h with
  | unresolved hresolve =>
    exact .of_eq (by simp [Stage.rank]) rfl rfl hd
      (resolve_error hserve hresolve)
  | unstopped hresolve hstop =>
    obtain ⟨hview, hknown⟩ := resolve_ok hserve hd hname hresolve
    refine .of_eq (by simp [Stage.rank]) rfl hknown.1 hd ?_
    rw [hserve.stop_error hstop, hview]
  | unremoved hresolve hstop hremove =>
    obtain ⟨d, hd, hknown, hstopped⟩ :=
      stopped_of_steps hserve ⟨d, hd, hname⟩ hresolve hstop
    refine .kept false (by simp [Stage.rank]) rfl hknown.1 hd (by simp) ?_
    rw [hserve.remove_error hremove, hstopped]
  | untransformed hresolve hstop hremove hprocess =>
    obtain ⟨d, hd, hknown, herased⟩ :=
      removed_of_steps hserve ⟨d, hd, hname⟩ hresolve hstop hremove
    refine .gone (by simp [Stage.rank]) rfl hd hknown ?_
    rw [haside.process_view hprocess, herased]
  | uncreated hresolve hstop hremove hprocess hcreate =>
    obtain ⟨d, hd, hknown, herased⟩ :=
      removed_of_steps hserve ⟨d, hd, hname⟩ hresolve hstop hremove
    refine .gone (by simp [Stage.rank]) rfl hd hknown ?_
    rw [create_error hserve hcreate, haside.process_view hprocess, herased]
  | unchecked hresolve hstop hremove hprocess hcreate hcheck =>
    refine .swapped (by simp [Stage.rank]) rfl ?_
    rw [check_view hserve haside.toAside hcheck]
    exact swap_of_steps hserve haside hP ⟨d, hd, hname⟩ hresolve hstop hremove
      hprocess hcreate
  | unhealthy hresolve hstop hremove hprocess hcreate hcheck =>
    refine .swapped (by simp [Stage.rank]) rfl ?_
    rw [check_view hserve haside.toAside hcheck]
    exact swap_of_steps hserve haside hP ⟨d, hd, hname⟩ hresolve hstop hremove
      hprocess hcreate

include haside hP in
/-- The containers that pass are swapped, one after another. The induction
carries that all those still to come are held. -/
theorem swaps_of_passes {cs : List Container} {us : List Upgraded} {s s' : σ}
    (h : Passes e.operations j process cs us s s')
    (hids : (cs.map (·.id)).Nodup) (hheld : ∀ c ∈ cs, Held (view s) c) :
    Swaps P (view s) cs us (view s') := by
  induction h with
  | nil => exact .nil
  | @cons c n cs f us s s₁ s' hcourse _ ih =>
    rw [List.map_cons, List.nodup_cons] at hids
    have hc : Held (view (j.report .upgrading c.toText s)) c := by
      rw [haside.report]
      exact hheld c (List.mem_cons_self ..)
    have hswap := swap_of_course hserve haside hP hc hcourse
    rw [haside.report] at hswap
    refine .cons hswap ?_
    have hrest := ih hids.2 ?_
    · rw [haside.report] at hrest
      exact hrest
    · intro c' hc'
      rw [haside.report]
      have hne : c'.id ≠ c.id := by
        intro heq
        exact hids.1 (heq ▸ List.mem_map_of_mem hc')
      exact hswap.held hne (hheld c' (List.mem_cons_of_mem _ hc'))

include haside hP in
/-- Where some containers pass and the next one fails, those are swapped and
this one is left in one of the conditions of `Broken`. -/
theorem broken_of_passes {before : List Container} {c : Container}
    {us : List Upgraded} {f : InFlight} {x : Fault} {s s₁ s₂ : σ}
    (hids : ((before ++ [c]).map (·.id)).Nodup)
    (hheld : ∀ c' ∈ before ++ [c], Held (view s) c')
    (hpass : Passes e.operations j process before us s s₁)
    (hcourse : Course e.operations process c (j.report .upgrading c.toText s₁)
      f (.error x) s₂) :
    Swaps P (view s) before us (view s₁) ∧ Held (view s₁) c
      ∧ Broken P (view s₁) c f (view s₂) := by
  rw [List.map_append, List.nodup_append] at hids
  obtain ⟨hbefore, -, hapart⟩ := hids
  have hswaps := swaps_of_passes hserve haside hP hpass hbefore
    (fun c' hc' => hheld c' (List.mem_append_left _ hc'))
  -- the container that fails has not been touched by the swaps
  have hc : c.id ∉ before.map (·.id) := by
    intro hin
    exact hapart _ hin _ (List.mem_singleton_self _) rfl
  obtain ⟨d, hd, hname⟩ := hheld c (by simp)
  have hstill : Held (view (j.report .upgrading c.toText s₁)) c := by
    rw [haside.report]
    exact ⟨d, hswaps.find?_of_notMem hc hd, hname⟩
  have hbroken := broken_of_course hserve haside hP hstill hcourse
  rw [haside.report] at hstill hbroken
  exact ⟨hswaps, hstill, hbroken⟩

end Steps

end Fleetkeeper
