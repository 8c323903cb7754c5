/-
Only what a run may destroy is destroyed: every call that stops, removes or
starts a container has a ground in what was done before it.

# Deeds

A run is watched at the interface of its engine. Its deeds are the calls in
their order, with their answers, and between them two marks: that a container
is taken up, and that a rollback begins. `Allowed` says for each deed what
must stand before it, and a list of deeds is `Lawful` if each is allowed by
those before it. The engine is free to answer anything, so nothing is known
of an id but which calls have mentioned it.

# The invariant

Grounds never go away: a container that was created stays created. So the
proofs only have to say what each step adds (`Onward`), and what is known of
the ids that a run carries along: the replacements it has noted were created,
and a container that failed was either not removed in its turn, or has a
replacement, if any, that was created (`Fallen`). That is what the rollback
is given, and all that it needs.
-/
import Fleetkeeper.Proofs.Engine.Calls
import Fleetkeeper.Proofs.Upgrade.Course
import Fleetkeeper.Proofs.Upgrade.Projection
import Fleetkeeper.Proofs.Upgrade.Steps

namespace Fleetkeeper

open Rolling Site

variable {σ : Type} {e : Site σ} {select : Selection}

-- ================================================================ deeds

/-- What a run does to its engine, with marks where it takes up a container
and where it begins a rollback. -/
inductive Deed where
  | call (a : ApiCall)
  | turn (c : Container)
  | rollback (p : RollbackPlan)

/-- A container was created under this id. -/
def Created (past : List Deed) (id : String) : Prop :=
  ∃ name spec, .call (.create name spec (.ok id)) ∈ past

/-- A container with this id was listed, and the selection takes it. -/
def Listed (e : Site σ) (select : Selection) (past : List Deed) (id : String) :
    Prop :=
  ∃ summaries m, .call (.list true (.ok summaries)) ∈ past ∧ m ∈ summaries
    ∧ m.id = id ∧ select (Container.ofSummary e.node m) = true

/-- A selected container has just been taken up, inspected and stopped. -/
def Vetted (e : Site σ) (select : Selection) (past : List Deed) (id : String) :
    Prop :=
  ∃ earlier c i secs, Listed e select earlier id ∧ c.id = id
    ∧ past = earlier ++ [.turn c, .call (.inspect id (.ok i)),
        .call (.stop id secs (.ok ()))]

/-- A rollback has just begun because of a container with this id that was
not removed in its turn. -/
def Spared (past : List Deed) (id : String) : Prop :=
  ∃ earlier c steps p, past = earlier ++ .turn c :: (steps ++ [.rollback p])
    ∧ c.id = id ∧ p.failed.former.id = id
    ∧ ∀ x ∈ steps, ∃ a, x = .call a ∧ a ≠ .remove id false (.ok ())

/-- What may be done after what was done: remove a selected container that
was inspected and stopped; remove by force, or stop in a rollback, what was
created; start what was created, or in a rollback the failed container. -/
def Allowed (e : Site σ) (select : Selection) (past : List Deed) : Deed → Prop
  | .call (.remove id false _) => Vetted e select past id
  | .call (.remove id true _) => Created past id
  | .call (.stop id _ _) => (∃ p, .rollback p ∈ past) → Created past id
  | .call (.start id _) => Created past id ∨ Spared past id
  | _ => True

/-- Every deed is allowed by those before it. -/
def Lawful (e : Site σ) (select : Selection) (deeds : List Deed) : Prop :=
  ∀ past d rest, deeds = past ++ d :: rest → Allowed e select past d

theorem lawful_nil : Lawful e select [] := by
  intro past d rest h
  simp at h

/-- A deed that is allowed by those before it may be added. -/
theorem Lawful.snoc {deeds : List Deed} {d : Deed} (h : Lawful e select deeds)
    (hd : Allowed e select deeds d) : Lawful e select (deeds ++ [d]) := by
  intro past x rest heq
  rcases List.eq_nil_or_concat rest with rfl | ⟨rest, y, rfl⟩
  · obtain ⟨rfl, hx⟩ := List.append_inj' heq rfl
    cases hx
    exact hd
  · have hsplit : deeds ++ [d] = (past ++ x :: rest) ++ [y] := by
      simpa using heq
    obtain ⟨hdeeds, -⟩ := List.append_inj' hsplit rfl
    exact h past x rest hdeeds

-- ============================================================= watching

/-- An interface whose calls are watched. -/
def EngineApi.watched (api : EngineApi σ) : EngineApi (σ × List Deed) :=
  api.recorded Deed.call

/-- A site whose engine is watched. -/
def Site.watched (e : Site σ) : Site (σ × List Deed) where
  api := e.api.watched
  attendant := {
    wait := fun secs w => (e.attendant.wait secs w.1, w.2)
    log := fun line w => (e.attendant.log line w.1, w.2) }
  node := e.node
  config := e.config

/-- Add a mark to the deeds. -/
def mark (d : Deed) (w : σ × List Deed) : σ × List Deed := (w.1, w.2 ++ [d])

/-- The steps of an upgrade at a site that is watched, with a mark before the
first step of a container and before a rollback. -/
def Site.watchedOperations (e : Site σ) : Operations (σ × List Deed) :=
  { e.watched.operations with
    resolve := fun c w => e.watched.resolve c (mark (.turn c) w)
    rollback := fun p w => e.watched.rollback p (mark (.rollback p) w) }

/-- A processor beside which deeds are written down. -/
def Processor.watched (process : Processor σ) : Processor (σ × List Deed) :=
  fun c w => ((process c w.1).1, (process c w.1).2, w.2)

/-- A job beside which deeds are written down. -/
def Job.watched (j : Job σ) : Job (σ × List Deed) where
  rollbackEnabled w := j.rollbackEnabled w.1
  report p subject w := (j.report p subject w.1, w.2)
  log line w := (j.log line w.1, w.2)

/-- The run with its deeds. -/
def watchedRun (e : Site σ) (j : Job σ) (scope : RollbackScope)
    (select : Selection) (process : Processor σ) (s : σ) :
    Except Fault Outcome × σ × List Deed :=
  run e.watchedOperations j.watched scope select process.watched (s, [])

/-- A site that is watched is the site. -/
theorem Site.watched_projects (e : Site σ) :
    e.watched.Projects Prod.fst e where
  api := e.api.recorded_projects Deed.call
  wait _ _ := rfl
  log _ _ := rfl
  node := rfl
  config := rfl

/-- The run that is watched is the run. -/
theorem watchedRun_projects (e : Site σ) (j : Job σ) (scope : RollbackScope)
    (select : Selection) (process : Processor σ) (s : σ) :
    run e.operations j scope select process s
      = ((watchedRun e j scope select process s).1,
          (watchedRun e j scope select process s).2.1) := by
  have hsite := e.watched_projects
  have ht : e.watchedOperations.Projects Prod.fst e.operations := {
    hsite.operations with
    resolve := fun c w => hsite.resolve c (mark (.turn c) w)
    rollback := fun p w => hsite.rollback p (mark (.rollback p) w) }
  have hj : j.watched.Projects Prod.fst j := by
    constructor <;> intros <;> rfl
  have hprocess : process.watched.Projects Prod.fst process := by
    intro c w
    rfl
  exact run_projects ht hj hprocess scope select (s, [])

-- ============================================================= one step

/-- From one world to a later one the deeds have grown and stayed lawful, and
no rollback has begun. -/
structure Onward (e : Site σ) (select : Selection) (w w' : σ × List Deed) :
    Prop where
  grows : w.2 <+: w'.2
  lawful : Lawful e select w.2 → Lawful e select w'.2
  forward : ∀ p, .rollback p ∈ w'.2 → .rollback p ∈ w.2

/-- Grounds do not go away. -/
theorem Created.mono {past later : List Deed} {id : String}
    (h : Created past id) (hgrows : past <+: later) : Created later id := by
  obtain ⟨name, spec, hin⟩ := h
  exact ⟨name, spec, hgrows.subset hin⟩

theorem Listed.mono {past later : List Deed} {id : String}
    (h : Listed e select past id) (hgrows : past <+: later) :
    Listed e select later id := by
  obtain ⟨summaries, m, hin, hm⟩ := h
  exact ⟨summaries, m, hgrows.subset hin, hm⟩

namespace Onward

variable {w w₁ w' : σ × List Deed}

/-- Nothing was done. -/
theorem of_eq (h : w'.2 = w.2) : Onward e select w w' where
  grows := h ▸ List.prefix_refl w.2
  lawful hl := h ▸ hl
  forward _ hp := h ▸ hp

/-- One thing was done that was allowed and begins no rollback. -/
theorem of_deed {d : Deed} (h : w'.2 = w.2 ++ [d])
    (hallowed : Allowed e select w.2 d) (hd : ∀ p, d ≠ .rollback p) :
    Onward e select w w' := by
  refine ⟨?_, ?_, ?_⟩
  · exact ⟨[d], h.symm⟩
  · intro hl
    rw [h]
    exact hl.snoc hallowed
  · intro p hp
    rw [h] at hp
    rcases List.mem_append.1 hp with hp | hp
    · exact hp
    · exact absurd (List.mem_singleton.1 hp).symm (hd p)

/-- One call was made that was allowed. -/
theorem of_call {a : ApiCall} (h : w'.2 = w.2 ++ [.call a])
    (hallowed : Allowed e select w.2 (.call a)) : Onward e select w w' :=
  of_deed h hallowed (by simp)

theorem trans (h : Onward e select w w₁) (h' : Onward e select w₁ w') :
    Onward e select w w' where
  grows := h.grows.trans h'.grows
  lawful hl := h'.lawful (h.lawful hl)
  forward p hp := h.forward p (h'.forward p hp)

end Onward

section Calls

variable {w w' : σ × List Deed} {id : String}

/-- A call that is watched is the last deed. -/
theorem deeds_of_record {α : Type} {q : α → Deed} {f : σ → α × σ} {a : α}
    (h : record (fun a _ => q a) f w = (a, w')) : w'.2 = w.2 ++ [q a] :=
  record_eq h

theorem deeds_of_list {all : Bool} {a : Except Fault (List ContainerSummary)}
    (h : e.watched.api.list all w = (a, w')) :
    w'.2 = w.2 ++ [.call (.list all a)] :=
  deeds_of_record (q := fun a => .call (.list all a)) h

theorem deeds_of_inspect {a : Except Fault Inspection}
    (h : e.watched.api.inspect id w = (a, w')) :
    w'.2 = w.2 ++ [.call (.inspect id a)] :=
  deeds_of_record (q := fun a => .call (.inspect id a)) h

theorem deeds_of_stop {secs : Nat} {a : Except Fault Unit}
    (h : e.watched.api.stop id secs w = (a, w')) :
    w'.2 = w.2 ++ [.call (.stop id secs a)] :=
  deeds_of_record (q := fun a => .call (.stop id secs a)) h

theorem deeds_of_remove {force : Bool} {a : Except Fault Unit}
    (h : e.watched.api.remove id force w = (a, w')) :
    w'.2 = w.2 ++ [.call (.remove id force a)] :=
  deeds_of_record (q := fun a => .call (.remove id force a)) h

theorem deeds_of_create {name : Option String} {spec : ContainerSpec}
    {a : Except Fault String}
    (h : e.watched.api.create name spec w = (a, w')) :
    w'.2 = w.2 ++ [.call (.create name spec a)] :=
  deeds_of_record (q := fun a => .call (.create name spec a)) h

theorem deeds_of_start {a : Except Fault Unit}
    (h : e.watched.api.start id w = (a, w')) :
    w'.2 = w.2 ++ [.call (.start id a)] :=
  deeds_of_record (q := fun a => .call (.start id a)) h

/-- A creation is always allowed, and a ground from then on. -/
theorem onward_of_create {name : Option String} {spec : ContainerSpec}
    {a : Except Fault String}
    (h : e.watched.api.create name spec w = (a, w')) :
    Onward e select w w' ∧ ∀ id, a = .ok id → Created w'.2 id := by
  have hdeeds := deeds_of_create h
  refine ⟨.of_call hdeeds trivial, ?_⟩
  rintro id rfl
  exact ⟨name, spec, by rw [hdeeds]; simp⟩

/-- What was created may be started. -/
theorem onward_of_start {a : Except Fault Unit} (hid : Created w.2 id)
    (h : e.watched.api.start id w = (a, w')) : Onward e select w w' :=
  .of_call (deeds_of_start h) (Or.inl hid)

/-- What was created may be stopped, also in a rollback. -/
theorem onward_of_stop {secs : Nat} {a : Except Fault Unit}
    (hid : Created w.2 id) (h : e.watched.api.stop id secs w = (a, w')) :
    Onward e select w w' :=
  .of_call (deeds_of_stop h) fun _ => hid

/-- What was created may be removed by force. -/
theorem onward_of_force {a : Except Fault Unit} (hid : Created w.2 id)
    (h : e.watched.api.remove id true w = (a, w')) : Onward e select w w' :=
  .of_call (deeds_of_remove h) hid

end Calls

-- ========================================================== the other steps

section Steps

variable {w w' : σ × List Deed}

/-- A container that has been created was; one that does not start is
removed by force, for which there is the ground by then. -/
theorem onward_of_creation {c : Container} {a : Except Fault Container}
    (h : e.watched.create c w = (a, w')) :
    Onward e select w w' ∧ ∀ r, a = .ok r → Created w'.2 r.id := by
  cases creation_of_create h with
  | unconfigured => exact ⟨.of_eq rfl, by simp⟩
  | refused hcreate => exact ⟨(onward_of_create hcreate).1, by simp⟩
  | @cleaned _ id _ w₁ w₂ _ hcreate hstart hremove =>
    obtain ⟨h₁, hcreated⟩ : Onward e select w w₁ ∧ _ :=
      onward_of_create hcreate
    have hid := hcreated id rfl
    have h₂ : Onward e select w₁ w₂ := onward_of_start hid hstart
    have h₃ : Onward e select w₂ w' :=
      onward_of_force (hid.mono h₂.grows) hremove
    exact ⟨(h₁.trans h₂).trans h₃, by simp⟩
  | @uncleaned _ id _ _ w₁ w₂ w₃ _ hcreate hstart hremove =>
    obtain ⟨h₁, hcreated⟩ : Onward e select w w₁ ∧ _ :=
      onward_of_create hcreate
    have hid := hcreated id rfl
    have h₂ : Onward e select w₁ w₂ := onward_of_start hid hstart
    have h₃ : Onward e select w₂ w₃ :=
      onward_of_force (hid.mono h₂.grows) hremove
    exact ⟨((h₁.trans h₂).trans h₃).trans (.of_eq rfl), by simp⟩
  | @created _ id w₁ _ _ hcreate hstart =>
    obtain ⟨h₁, hcreated⟩ : Onward e select w w₁ ∧ _ :=
      onward_of_create hcreate
    have hid := hcreated id rfl
    have h₂ : Onward e select w₁ w' := onward_of_start hid hstart
    refine ⟨h₁.trans h₂, ?_⟩
    rintro r hr
    cases hr
    exact hid.mono h₂.grows

/-- Checking only looks. -/
theorem onward_of_check {c : Container} {a : Except Fault Bool}
    (h : e.watched.check c w = (a, w')) : Onward e select w w' :=
  checkFrom_of_steps (R := Onward e select) Onward.trans
    (fun hinspect => .of_call (deeds_of_inspect hinspect) trivial)
    (fun _ _ => .of_eq rfl) (fun _ _ => .of_eq rfl) h

/-- What was created may be expelled. -/
theorem onward_of_expel {c : Container} {a : Except Fault Unit}
    (hid : Created w.2 c.id) (h : e.watched.expel c w = (a, w')) :
    Onward e select w w' := by
  unfold expel at h
  split at h
  case h_1 hremove =>
    cases h
    exact onward_of_force hid hremove
  case h_2 hremove =>
    split at h
    all_goals
      cases h
      exact onward_of_force hid hremove

/-- What was created may be discarded. -/
theorem onward_of_discard {c : Container} {a : Except Fault Unit}
    (hid : Created w.2 c.id) (h : e.watched.discard c w = (a, w')) :
    Onward e select w w' := by
  unfold Site.discard at h
  split at h
  case h_1 w₁ hstop =>
    have h₁ : Onward e select w w₁ := onward_of_stop hid hstop
    exact h₁.trans (onward_of_expel (hid.mono h₁.grows) h)
  case h_2 w₁ hstop =>
    have h₁ : Onward e select w w₁ := onward_of_stop hid hstop
    split at h
    case isTrue => exact h₁.trans (onward_of_expel (hid.mono h₁.grows) h)
    case isFalse =>
      cases h
      exact h₁

/-- Creating a container again starts what was created. -/
theorem onward_of_recreate {former : Container} {a : Except Fault Unit}
    (h : e.watched.recreate former w = (a, w')) : Onward e select w w' := by
  unfold recreate at h
  split at h
  case h_1 =>
    cases h
    exact .of_eq rfl
  case h_2 =>
    split at h
    case h_1 hcreate =>
      cases h
      exact (onward_of_create hcreate).1
    case h_2 id w₁ hcreate =>
      obtain ⟨h₁, hcreated⟩ : Onward e select w w₁ ∧ _ :=
        onward_of_create hcreate
      split at h
      case h_1 hstart =>
        cases h
        exact h₁.trans (onward_of_start (hcreated id rfl) hstart)
      case h_2 w₂ hstart =>
        have h₂ : Onward e select w₁ w₂ :=
          onward_of_start (hcreated id rfl) hstart
        cases h
        exact (h₁.trans h₂).trans (.of_eq rfl)

/-- A container is restored lawfully if its replacement was created, and it
is only started as it is where that is allowed. -/
theorem onward_of_restore {former : Container} {r : Option Container}
    {removed : Bool} {a : Except Fault Unit}
    (hr : ∀ m, r = some m → Created w.2 m.id)
    (hkept : removed = false → r = none ∧ Spared w.2 former.id)
    (h : e.watched.restore former r removed w = (a, w')) :
    Onward e select w w' := by
  unfold restore at h
  split at h
  case h_1 =>
    unfold revive at h
    split at h
    case isTrue => exact onward_of_recreate h
    case isFalse hremoved =>
      obtain ⟨-, hspared⟩ := hkept (by simpa using hremoved)
      exact .of_call (deeds_of_start h) (Or.inr hspared)
  case h_2 m =>
    have hid := hr m rfl
    split at h
    case h_1 hdiscard =>
      cases h
      exact onward_of_discard hid hdiscard
    case h_2 w₁ hdiscard =>
      have h₁ : Onward e select w w₁ := onward_of_discard hid hdiscard
      unfold revive at h
      split at h
      case isTrue => exact h₁.trans (onward_of_recreate h)
      case isFalse hremoved =>
        obtain ⟨hnone, -⟩ := hkept (by simpa using hremoved)
        cases hnone

/-- Where the first attempt is lawful, what remains are the others. -/
theorem onward_of_attempt {a : Attempt} {rest : List Attempt}
    {failed : List Container}
    (ha : ∀ {b : Except Fault Unit} {w₁ : σ × List Deed},
      e.watched.restore a.former a.replacement a.removed w = (b, w₁) →
        Onward e select w w₁)
    (h : e.watched.restoreAll (a :: rest) w = (failed, w')) :
    ∃ w₁ others, Onward e select w w₁
      ∧ e.watched.restoreAll rest w₁ = (others, w') := by
  unfold restoreAll at h
  split at h
  case h_1 w₁ hrestore => exact ⟨w₁, failed, ha hrestore, h⟩
  case h_2 f w₁ hrestore =>
    have h₂ : ∀ line, Onward e select w (e.watched.attendant.log line w₁) :=
      fun line => (ha hrestore).trans (.of_eq rfl)
    cases h
    exact ⟨_, _, h₂ _, rfl⟩

/-- Undoing upgrades is lawful if their replacements were created. -/
theorem onward_of_restoreAll (us : List Upgraded) :
    ∀ {w w' : σ × List Deed} {failed : List Container},
      (∀ u ∈ us, Created w.2 u.replacement.id) →
      e.watched.restoreAll
          (us.map fun u => ⟨u.former, some u.replacement, true⟩) w
        = (failed, w') →
      Onward e select w w' := by
  induction us with
  | nil =>
    intro w w' failed _ h
    cases h
    exact .of_eq rfl
  | cons u us ih =>
    intro w w' failed hus h
    have hcreated : ∀ m, some u.replacement = some m → Created w.2 m.id := by
      rintro m hm
      cases hm
      exact hus u (List.mem_cons_self ..)
    obtain ⟨w₁, others, h₁, hrest⟩ : ∃ w₁ others, Onward e select w w₁
        ∧ e.watched.restoreAll (us.map _) w₁ = (others, w') :=
      onward_of_attempt (onward_of_restore hcreated (by simp)) h
    refine h₁.trans (ih ?_ hrest)
    intro v hv
    exact (hus v (List.mem_cons_of_mem _ hv)).mono h₁.grows

end Steps

-- ========================================================= one container

/-- What a rollback has to know of a container that failed: its replacement,
if it has one, was created; and if it was not removed, it has none, and its
turn is the last thing that was done. -/
structure Fallen (past : List Deed) (f : FailedContainer) : Prop where
  created : ∀ m, f.replacement = some m → Created past m.id
  spared : f.formerRemoved = false → f.replacement = none
    ∧ ∃ earlier c steps, past = earlier ++ .turn c :: steps
    ∧ c.id = f.former.id
      ∧ ∀ x ∈ steps, ∃ a, x = .call a ∧ a ≠ .remove f.former.id false (.ok ())

/-- A container that was removed, and has no replacement or one that was
created. -/
theorem Fallen.of_removed {past : List Deed} {former : Container}
    {stage : Stage} {r : Option Container}
    (hstage : Stage.removed.rank ≤ stage.rank)
    (hr : ∀ m, r = some m → Created past m.id) :
    Fallen past ⟨former, stage, r⟩ where
  created := hr
  spared := by
    intro hremoved
    simp [FailedContainer.formerRemoved] at hremoved
    omega

/-- A container that was not removed in its turn. -/
theorem Fallen.of_kept {past steps : List Deed} {c former : Container}
    {stage : Stage} (hid : former.id = c.id)
    (hsteps : ∀ x ∈ steps, ∃ a,
      x = .call a ∧ a ≠ .remove c.id false (.ok ())) :
    Fallen (past ++ .turn c :: steps) ⟨former, stage, none⟩ where
  created := by
    intro m hm
    cases hm
  spared := by
    intro _
    exact ⟨rfl, past, c, steps, rfl, hid.symm, by rw [hid]; exact hsteps⟩

section Turn

variable {process : Processor σ} {c : Container}
  {w w₁ w₂ w₃ w₄ w₅ w₆ : σ × List Deed}

/-- Resolving takes a container up and inspects it; what comes of it is the
container with what the inspection says. -/
theorem deeds_of_resolve {a : Except Fault Container}
    (h : e.watchedOperations.resolve c w = (a, w₁)) :
    ∃ b, w₁.2 = w.2 ++ [.turn c, .call (.inspect c.id b)]
      ∧ ∀ r, a = .ok r → ∃ i, b = .ok i ∧ r = resolved c i := by
  change e.watched.resolve c (mark (.turn c) w) = (a, w₁) at h
  unfold resolve at h
  split at h
  case h_1 f w₂ hinspect =>
    have hdeeds := deeds_of_inspect hinspect
    cases h
    refine ⟨.error f, ?_, by simp⟩
    rw [hdeeds]
    exact List.append_assoc ..
  case h_2 i w₂ hinspect =>
    have hdeeds := deeds_of_inspect hinspect
    cases h
    refine ⟨.ok i, ?_, ?_⟩
    · rw [hdeeds]
      exact List.append_assoc ..
    · rintro r hr
      cases hr
      exact ⟨i, rfl, rfl⟩

/-- Taking up a container is a mark and an inspection. If it is resolved it
keeps its id, and the inspection has succeeded. -/
theorem onward_of_resolve {a : Except Fault Container}
    (h : e.watchedOperations.resolve c w = (a, w₁)) :
    Onward e select w w₁
      ∧ ∃ b, w₁.2 = w.2 ++ [.turn c, .call (.inspect c.id b)]
        ∧ ∀ r, a = .ok r → r.id = c.id ∧ ∃ i, b = .ok i := by
  obtain ⟨b, hdeeds, hok⟩ := deeds_of_resolve h
  have hmark : Onward e select w (mark (.turn c) w) :=
    .of_deed rfl trivial (by simp)
  have hcall : w₁.2 = (mark (.turn c) w).2 ++ [.call (.inspect c.id b)] := by
    show _ = (w.2 ++ [.turn c]) ++ [_]
    rw [List.append_assoc]
    exact hdeeds
  refine ⟨hmark.trans (.of_call hcall trivial), b, hdeeds, ?_⟩
  intro r hr
  obtain ⟨i, hb, rfl⟩ := hok r hr
  exact ⟨resolved_id c i, i, hb⟩

/-- Before any rollback a container may be stopped. -/
theorem onward_of_stopping {a : Except Fault Unit}
    (hforward : ∀ p, .rollback p ∉ w.2)
    (h : e.watchedOperations.stop c w = (a, w₁)) :
    Onward e select w w₁
      ∧ w₁.2 = w.2 ++ [.call (.stop c.id e.config.stopTimeoutSecs a)] := by
  have hdeeds :
      w₁.2 = w.2 ++ [.call (.stop c.id e.config.stopTimeoutSecs a)] :=
    deeds_of_stop h
  refine ⟨.of_call hdeeds ?_, hdeeds⟩
  rintro ⟨p, hp⟩
  exact absurd hp (hforward p)

/-- A container that was taken up, inspected and stopped is vetted. -/
theorem vetted_of_steps {r : Container} (hlisted : Listed e select w.2 c.id)
    (hforward : ∀ p, .rollback p ∉ w.2)
    (hresolve : e.watchedOperations.resolve c w = (.ok r, w₁))
    (hstop : e.watchedOperations.stop c w₁ = (.ok (), w₂)) :
    Onward e select w w₂ ∧ r.id = c.id ∧ Vetted e select w₂.2 c.id
      ∧ ∃ i, w₂.2 = w.2 ++ .turn c :: [.call (.inspect c.id (.ok i)),
          .call (.stop c.id e.config.stopTimeoutSecs (.ok ()))] := by
  obtain ⟨h₁, b, hdeeds, hok⟩ := onward_of_resolve (e := e) hresolve
  obtain ⟨hid, i, rfl⟩ := hok r rfl
  obtain ⟨h₂, hstopped⟩ :=
    onward_of_stopping (fun p hp => hforward p (h₁.forward p hp)) hstop
  rw [hdeeds, List.append_assoc] at hstopped
  exact ⟨h₁.trans h₂, hid, ⟨w.2, c, i, _, hlisted, rfl, hstopped⟩, i, hstopped⟩

/-- A vetted container may be removed, and the processor adds nothing. -/
theorem onward_of_processing {r : Container} {a : Except Fault Container}
    (hlisted : Listed e select w.2 c.id) (hforward : ∀ p, .rollback p ∉ w.2)
    (hresolve : e.watchedOperations.resolve c w = (.ok r, w₁))
    (hstop : e.watchedOperations.stop c w₁ = (.ok (), w₂))
    (hremove : e.watchedOperations.remove c w₂ = (.ok (), w₃))
    (hprocess : process.watched r w₃ = (a, w₄)) : Onward e select w w₄ := by
  obtain ⟨h₂, -, hvetted, -⟩ := vetted_of_steps hlisted hforward hresolve hstop
  have h₃ : Onward e select w₂ w₃ := .of_call (deeds_of_remove hremove) hvetted
  cases hprocess
  exact (h₂.trans h₃).trans (.of_eq rfl)

/-- What was created for a container is checked, which only looks. -/
theorem onward_of_checking {r d n : Container} {b : Except Fault Bool}
    (hlisted : Listed e select w.2 c.id) (hforward : ∀ p, .rollback p ∉ w.2)
    (hresolve : e.watchedOperations.resolve c w = (.ok r, w₁))
    (hstop : e.watchedOperations.stop c w₁ = (.ok (), w₂))
    (hremove : e.watchedOperations.remove c w₂ = (.ok (), w₃))
    (hprocess : process.watched r w₃ = (.ok d, w₄))
    (hcreate : e.watchedOperations.create d w₄ = (.ok n, w₅))
    (hcheck : e.watchedOperations.check n w₅ = (b, w₆)) :
    Onward e select w w₆ ∧ Created w₆.2 n.id := by
  have h₄ :=
    onward_of_processing hlisted hforward hresolve hstop hremove hprocess
  obtain ⟨h₅, hcreated⟩ := onward_of_creation (e := e) hcreate
  have h₆ : Onward e select w₅ w₆ := onward_of_check hcheck
  exact ⟨(h₄.trans h₅).trans h₆, (hcreated n rfl).mono h₆.grows⟩

/-- The course of a container is lawful. If it ends in a replacement, that was
created; if it fails, the rollback will know what it has to. -/
theorem onward_of_course {f : InFlight} {a : Except Fault Container}
    {w' : σ × List Deed} (hlisted : Listed e select w.2 c.id)
    (hforward : ∀ p, .rollback p ∉ w.2)
    (h : Course e.watchedOperations process.watched c w f a w') :
    Onward e select w w' ∧ (∀ n, a = .ok n → Created w'.2 n.id)
      ∧ ∀ x, a = .error x →
        Fallen w'.2 ⟨f.former, f.stage, f.replacement⟩ := by
  cases h with
  | unresolved hresolve =>
    obtain ⟨h₁, b, hdeeds, -⟩ := onward_of_resolve (e := e) hresolve
    refine ⟨h₁, by simp, ?_⟩
    intro x _
    rw [hdeeds]
    exact .of_kept rfl (by simp)
  | unstopped hresolve hstop =>
    obtain ⟨h₁, b, hdeeds, hok⟩ := onward_of_resolve (e := e) hresolve
    obtain ⟨h₂, hstopped⟩ :=
      onward_of_stopping (fun p hp => hforward p (h₁.forward p hp)) hstop
    refine ⟨h₁.trans h₂, by simp, ?_⟩
    intro x _
    rw [hstopped, hdeeds, List.append_assoc]
    exact .of_kept (hok _ rfl).1 (by simp)
  | unremoved hresolve hstop hremove =>
    obtain ⟨h₂, hid, hvetted, i, hdeeds⟩ :=
      vetted_of_steps hlisted hforward hresolve hstop
    have hremoval := deeds_of_remove hremove
    refine ⟨h₂.trans (.of_call hremoval hvetted), by simp, ?_⟩
    intro x _
    rw [hremoval, hdeeds, List.append_assoc]
    exact .of_kept hid (by simp)
  | untransformed hresolve hstop hremove hprocess =>
    have h₄ :=
      onward_of_processing hlisted hforward hresolve hstop hremove hprocess
    refine ⟨h₄, by simp, ?_⟩
    intro x _
    exact .of_removed (by simp [Stage.rank]) (by simp)
  | uncreated hresolve hstop hremove hprocess hcreate =>
    have h₄ :=
      onward_of_processing hlisted hforward hresolve hstop hremove hprocess
    obtain ⟨h₅, -⟩ := onward_of_creation (e := e) hcreate
    refine ⟨h₄.trans h₅, by simp, ?_⟩
    intro x _
    exact .of_removed (by simp [Stage.rank]) (by simp)
  | @unchecked r d n _ _ _ _ _ _ _ hresolve hstop hremove hprocess
      hcreate hcheck =>
    obtain ⟨h₆, hcreated⟩ := onward_of_checking hlisted hforward hresolve hstop
      hremove hprocess hcreate hcheck
    refine ⟨h₆, by simp, ?_⟩
    intro x _
    refine .of_removed (by simp [Stage.rank]) ?_
    rintro m hm
    cases hm
    exact hcreated
  | @unhealthy r d n _ _ _ _ _ _ hresolve hstop hremove hprocess
      hcreate hcheck =>
    obtain ⟨h₆, hcreated⟩ := onward_of_checking hlisted hforward hresolve hstop
      hremove hprocess hcreate hcheck
    refine ⟨h₆, by simp, ?_⟩
    intro x _
    refine .of_removed (by simp [Stage.rank]) ?_
    rintro m hm
    cases hm
    exact hcreated
  | @replaced r d n _ _ _ _ _ _ hresolve hstop hremove hprocess
      hcreate hcheck =>
    obtain ⟨h₆, hcreated⟩ := onward_of_checking hlisted hforward hresolve hstop
      hremove hprocess hcreate hcheck
    refine ⟨h₆, ?_, by simp⟩
    rintro m hm
    cases hm
    exact hcreated

end Turn

-- =============================================================== the run

/-- The containers that pass do so lawfully, and their replacements were
created. The induction is on the chain. -/
theorem onward_of_passes {j : Job σ} {process : Processor σ}
    {cs : List Container} {us : List Upgraded} {w w' : σ × List Deed}
    (h : Passes e.watchedOperations j.watched process.watched cs us w w')
    (hlisted : ∀ c ∈ cs, Listed e select w.2 c.id)
    (hforward : ∀ p, .rollback p ∉ w.2) :
    Onward e select w w' ∧ ∀ u ∈ us, Created w'.2 u.replacement.id := by
  induction h with
  | nil => exact ⟨.of_eq rfl, by simp⟩
  | @cons c n cs f us w w₁ w' hcourse _ ih =>
    -- the reports around the course add no deeds
    have htaken :
        Listed e select (j.watched.report .upgrading c.toText w).2 c.id :=
      hlisted c (List.mem_cons_self ..)
    obtain ⟨h₁, hcreated, -⟩ := onward_of_course htaken hforward hcourse
    have hw₁ : Onward e select w w₁ := ⟨h₁.grows, h₁.lawful, h₁.forward⟩
    obtain ⟨h₂, hrest⟩ := ih
      (fun c' hc' => (hlisted c' (List.mem_cons_of_mem _ hc')).mono h₁.grows)
      (fun p hp => hforward p (h₁.forward p hp))
    have hw' : Onward e select w₁ w' := ⟨h₂.grows, h₂.lawful, h₂.forward⟩
    refine ⟨hw₁.trans hw', ?_⟩
    intro u hu
    rcases List.mem_cons.1 hu with rfl | hu
    · exact (hcreated n rfl).mono hw'.grows
    · exact hrest u hu

/-- A rollback is lawful if it knows what it has to. -/
theorem lawful_of_rollback {p : RollbackPlan} {a : Except Fault Unit}
    {w w' : σ × List Deed} (hlawful : Lawful e select w.2)
    (hfallen : Fallen w.2 p.failed)
    (hupgraded : ∀ u ∈ p.upgraded, Created w.2 u.replacement.id)
    (h : e.watchedOperations.rollback p w = (a, w')) :
    Lawful e select w'.2 := by
  change e.watched.rollback p (mark (.rollback p) w) = (a, w') at h
  have hmark : Lawful e select (mark (.rollback p) w).2 := hlawful.snoc trivial
  have hgrows : w.2 <+: (mark (.rollback p) w).2 := List.prefix_append ..
  obtain ⟨failed, w₁, hall⟩ : ∃ failed w₁,
      e.watched.restoreAll (attempts p) (mark (.rollback p) w)
        = (failed, w₁) :=
    ⟨_, _, rfl⟩
  have hw' : w' = w₁ := by
    unfold Site.rollback at h
    rw [hall] at h
    cases failed <;> cases h <;> rfl
  subst hw'
  -- the containers that are undone behind the failed one
  obtain ⟨us, hus, hattempts⟩ : ∃ us : List Upgraded,
      (∀ u ∈ us, u ∈ p.upgraded)
      ∧ attempts p
        = ⟨p.failed.former, p.failed.replacement, p.failed.formerRemoved⟩
        :: us.map fun u => ⟨u.former, some u.replacement, true⟩ := by
    unfold attempts
    cases p.scope with
    | failed => exact ⟨[], by simp, rfl⟩
    | batch => exact ⟨p.upgraded.reverse, by simp, rfl⟩
  have hspared : p.failed.formerRemoved = false → p.failed.replacement = none
      ∧ Spared (mark (.rollback p) w).2 p.failed.former.id := by
    intro hkept
    obtain ⟨hnone, earlier, c, steps, hpast, hid, hsteps⟩ :=
      hfallen.spared hkept
    refine ⟨hnone, earlier, c, steps, p, ?_, hid, rfl, hsteps⟩
    show w.2 ++ [.rollback p] = _
    rw [hpast, List.append_assoc, List.cons_append]
  rw [hattempts] at hall
  obtain ⟨w₁, others, h₁, hrest⟩ : ∃ w₁ others,
      Onward e select (mark (.rollback p) w) w₁
        ∧ e.watched.restoreAll (us.map _) w₁ = (others, w') :=
    onward_of_attempt (onward_of_restore
      (fun m hm => (hfallen.created m hm).mono hgrows) hspared) hall
  have h₂ : Onward e select w₁ w' := onward_of_restoreAll us
    (fun u hu => (hupgraded u (hus u hu)).mono (hgrows.trans h₁.grows)) hrest
  exact h₂.lawful (h₁.lawful hmark)

/-- Loading lists the containers that it loads. -/
theorem onward_of_load {a : Except Fault (List Container)}
    {w w' : σ × List Deed} (h : e.watchedOperations.load select w = (a, w')) :
    Onward e select w w'
      ∧ ∀ cs, a = .ok cs → ∀ c ∈ cs, Listed e select w'.2 c.id := by
  change e.watched.load select w = (a, w') at h
  unfold Site.load at h
  split at h
  case h_1 w₁ hlist =>
    have hdeeds := deeds_of_list hlist
    cases h
    exact ⟨.of_call hdeeds trivial, by simp⟩
  case h_2 summaries w₁ hlist =>
    have hdeeds := deeds_of_list hlist
    have h₁ : Onward e select w w₁ := .of_call hdeeds trivial
    cases h
    refine ⟨h₁.trans (.of_eq rfl), ?_⟩
    rintro cs hcs c hc
    cases hcs
    obtain ⟨hc, hselect⟩ := List.mem_filter.1 hc
    obtain ⟨m, hm, rfl⟩ := List.mem_map.1 hc
    refine ⟨summaries, m, ?_, hm, rfl, hselect⟩
    show _ ∈ w₁.2
    rw [hdeeds]
    simp

/-- Containers that pass and the one that fails behind them leave what a
rollback has to know. -/
theorem fallen_of_passes {j : Job σ} {process : Processor σ}
    {before after : List Container} {c : Container} {us : List Upgraded}
    {f : InFlight} {x : Fault} {w w₁ w₂ : σ × List Deed}
    (hforward : ∀ p, .rollback p ∉ w.2)
    (hlisted : ∀ c' ∈ before ++ c :: after, Listed e select w.2 c'.id)
    (hpass : Passes e.watchedOperations j.watched process.watched
      before us w w₁)
    (hcourse : Course e.watchedOperations process.watched c
      (j.watched.report .upgrading c.toText w₁) f (.error x) w₂) :
    Onward e select w w₂ ∧ Fallen w₂.2 ⟨f.former, f.stage, f.replacement⟩
      ∧ ∀ u ∈ us, Created w₂.2 u.replacement.id := by
  obtain ⟨h₁, hupgraded⟩ := onward_of_passes hpass
    (fun c' hc' => hlisted c' (List.mem_append_left _ hc')) hforward
  have htaken :
      Listed e select (j.watched.report .upgrading c.toText w₁).2 c.id :=
    (hlisted c (by simp)).mono h₁.grows
  obtain ⟨h₂, -, hfallen⟩ := onward_of_course htaken
    (fun p hp => hforward p (h₁.forward p hp)) hcourse
  have hw₂ : Onward e select w₁ w₂ := ⟨h₂.grows, h₂.lawful, h₂.forward⟩
  exact ⟨h₁.trans hw₂, hfallen x rfl,
    fun u hu => (hupgraded u hu).mono hw₂.grows⟩

/-- Each ending is lawful: the containers that pass, the one that fails, and
the rollback if there is one. -/
theorem lawful_of_ending {j : Job σ} {process : Processor σ}
    {scope : RollbackScope} {cs : List Container} {w w' : σ × List Deed}
    {r : Except Fault Outcome} (hlawful : Lawful e select w.2)
    (hforward : ∀ p, .rollback p ∉ w.2)
    (hlisted : ∀ c ∈ cs, Listed e select w.2 c.id)
    (h : Ending e.watchedOperations j.watched scope process.watched
      cs w r w') :
    Lawful e select w'.2 := by
  cases h with
  | completed hpass =>
    obtain ⟨h₁, -⟩ := onward_of_passes hpass hlisted hforward
    exact h₁.lawful hlawful
  | abandoned hcs hpass hcourse =>
    rw [hcs] at hlisted
    obtain ⟨h₁, -⟩ := fallen_of_passes hforward hlisted hpass hcourse
    exact h₁.lawful hlawful
  | @rolledBack _ _ c _ _ _ _ w₂ _ line _ hcs hpass hcourse _ hrollback =>
    rw [hcs] at hlisted
    obtain ⟨h₁, hfallen, hupgraded⟩ :=
      fallen_of_passes hforward hlisted hpass hcourse
    have hbegun : Lawful e select (j.watched.log line
        (j.watched.report .rollingBack c.toText w₂)).2 := h₁.lawful hlawful
    refine lawful_of_rollback hbegun ?_ ?_ hrollback
    · exact hfallen
    · exact hupgraded

/-- In every run all deeds are allowed by those before them: only selected
containers are removed, once inspected and stopped; force, and the stops of a
rollback, only hit what the run has created; and only that is started, or in
a rollback the failed container if it was not removed.

The engine may give any answer to any call, the processor may make anything
of a container, also of its id, and the deeds are those of the run itself. -/
theorem deeds_lawful (e : Site σ) (j : Job σ) (scope : RollbackScope)
    (select : Selection) (process : Processor σ) (s : σ) :
    let out := watchedRun e j scope select process s
    run e.operations j scope select process s = (out.1, out.2.1)
      ∧ ∀ past d rest, out.2.2 = past ++ d :: rest →
        Allowed e select past d := by
  intro out
  refine ⟨watchedRun_projects e j scope select process s, ?_⟩
  obtain ⟨r, w', hout⟩ : ∃ r w', out = (r, w') := ⟨_, _, rfl⟩
  rw [hout]
  show Lawful e select w'.2
  have hstart : Lawful e select ((s, []) : σ × List Deed).2 := lawful_nil
  rcases ending_of_run hout with ⟨x, hload, -⟩ | ⟨cs, w₁, line, hload, hend⟩
  · obtain ⟨h₁, -⟩ := onward_of_load hload
    exact h₁.lawful hstart
  · obtain ⟨h₁, hlisted⟩ := onward_of_load hload
    -- the line in the log adds no deed
    have hlawful : Lawful e select (j.watched.log line w₁).2 :=
      h₁.lawful hstart
    refine lawful_of_ending hlawful ?_ (hlisted cs rfl) hend
    intro p hp
    exact absurd (h₁.forward p hp) List.not_mem_nil

end Fleetkeeper
