/-
A rollback never lacks a configuration that it needs: whatever a plan asks to
be created again was inspected before it was stopped, and the plan carries
what the inspection told.

# Turns

The deeds of a run fall into the calls by which it loads, and one turn for
each container that it takes up. A turn that gets as far as removing its
container begins with an inspection and a stop that succeeded, and what it
hands on is the container with what that inspection told (`Turn.Tells`). What
the processor makes of the container afterwards is another value, and goes
into the replacement alone.

# Behind the mark

The plan of a rollback is drawn up from the turns before it
(`backed_of_ending`), so each attempt to create a container again has a
configuration to do it with, and if it fails it does so by an answer of the
engine (`Restores.blames`).
-/
import Fleetkeeper.Proofs.Upgrade.Rollback
import Mathlib.Data.List.Basic
import Mathlib.Data.List.Forall2

namespace Fleetkeeper

open Rolling Site

variable {σ : Type} {e : Site σ} {j : Job σ} {process : Processor σ}
  {select : Selection} {w w₁ w₂ w₃ w' : σ × List Deed}

-- ======================================================== nothing but calls

/-- From `w` to `w'` nothing was done but calls. -/
def OnlyCalls (w w' : σ × List Deed) : Prop := ∃ calls, Made w calls w'

namespace OnlyCalls

theorem of_eq (h : w'.2 = w.2) : OnlyCalls w w' := ⟨[], .nil h⟩

theorem of_call {a : ApiCall} (h : w'.2 = w.2 ++ [.call a]) : OnlyCalls w w' :=
  ⟨[a], .one h⟩

theorem trans (h : OnlyCalls w w₁) (h' : OnlyCalls w₁ w') :
    OnlyCalls w w' := by
  obtain ⟨calls, hmade⟩ := h
  obtain ⟨more, hmore⟩ := h'
  exact ⟨calls ++ more, hmade.trans hmore⟩

end OnlyCalls

/-- Creating a container is nothing but calls. -/
theorem onlyCalls_of_create {c : Container} {a : Except Fault Container}
    (h : e.watched.create c w = (a, w')) : OnlyCalls w w' := by
  cases creation_of_create h with
  | unconfigured => exact .of_eq rfl
  | refused hcreate => exact .of_call (deeds_of_create hcreate)
  | cleaned hcreate hstart hremove =>
    have hstarted := (OnlyCalls.of_call (deeds_of_create hcreate)).trans
      (.of_call (deeds_of_start hstart))
    exact hstarted.trans (.of_call (deeds_of_remove hremove))
  | uncleaned hcreate hstart hremove =>
    have hstarted := (OnlyCalls.of_call (deeds_of_create hcreate)).trans
      (.of_call (deeds_of_start hstart))
    have hremoved := hstarted.trans (.of_call (deeds_of_remove hremove))
    exact hremoved.trans (.of_eq rfl)
  | created _ hcreate hstart =>
    exact (OnlyCalls.of_call (deeds_of_create hcreate)).trans
      (.of_call (deeds_of_start hstart))

/-- So is waiting for health. -/
theorem onlyCalls_of_check {c : Container} {a : Except Fault Bool}
    (h : e.watched.check c w = (a, w')) : OnlyCalls w w' :=
  checkFrom_of_steps (R := OnlyCalls) OnlyCalls.trans
    (fun hinspect => .of_call (deeds_of_inspect hinspect))
    (fun _ _ => .of_eq rfl) (fun _ _ => .of_eq rfl) h

/-- And loading. -/
theorem onlyCalls_of_load {a : Except Fault (List Container)}
    (h : e.watched.load select w = (a, w')) : OnlyCalls w w' := by
  unfold Site.load at h
  split at h
  case h_1 hlist =>
    have hdeeds := deeds_of_list hlist
    cases h
    exact .of_call hdeeds
  case h_2 hlist =>
    have hdeeds := deeds_of_list hlist
    cases h
    exact .of_call hdeeds

-- ================================================================ turns

namespace Site

/-- The turn of a container: as what it was loaded, and what was called until
the next one. -/
structure Turn where
  taken : Container
  calls : List ApiCall

namespace Turn

def deeds (t : Turn) : List Deed := .turn t.taken :: t.calls.map .call

/-- The turn began with an inspection and a stop that succeeded, and `former`
is its container with the configuration that the inspection told. -/
def Tells (t : Turn) (former : Container) : Prop :=
  ∃ i secs more,
    t.calls = .inspect t.taken.id (.ok i) :: .stop t.taken.id secs (.ok ())
      :: more
    ∧ former.id = t.taken.id ∧ former.config = some i.toSpec
    ∧ former.image = i.toSpec.image

end Turn

end Site

variable {c : Container}

/-- What begins with an inspection and goes on with calls is a turn. -/
theorem turn_of_resolve {a : Except Fault Container}
    (hresolve : e.watchedOperations.resolve c w = (a, w₁))
    (hcalls : OnlyCalls w₁ w') : ∃ t : Turn, w'.2 = w.2 ++ t.deeds := by
  obtain ⟨b, hresolved, -⟩ := deeds_of_resolve (e := e) hresolve
  obtain ⟨more, hmore⟩ := hcalls
  have hw' : w'.2 = w₁.2 ++ more.map .call := hmore
  refine ⟨⟨c, .inspect c.id b :: more⟩, ?_⟩
  rw [hw', hresolved, List.append_assoc]
  rfl

/-- If the inspection and a stop behind it succeed, the turn tells what the
container was resolved as, whatever calls follow. -/
theorem turn_of_steps {r : Container}
    (hresolve : e.watchedOperations.resolve c w = (.ok r, w₁))
    (hstop : e.watchedOperations.stop c w₁ = (.ok (), w₂))
    (hcalls : OnlyCalls w₂ w') :
    ∃ t : Turn, w'.2 = w.2 ++ t.deeds ∧ t.Tells r := by
  obtain ⟨b, hresolved, hok⟩ := deeds_of_resolve (e := e) hresolve
  obtain ⟨i, rfl, rfl⟩ := hok r rfl
  have hstopped : w₂.2 = w₁.2
      ++ [.call (.stop c.id e.config.stopTimeoutSecs (.ok ()))] :=
    deeds_of_stop hstop
  obtain ⟨more, hmore⟩ := hcalls
  refine ⟨⟨c, .inspect c.id (.ok i)
    :: .stop c.id e.config.stopTimeoutSecs (.ok ()) :: more⟩, ?_, ?_⟩
  · have hw' : w'.2 = w₂.2 ++ more.map .call := hmore
    rw [hw', hstopped, hresolved]
    simp [Turn.deeds]
  · exact ⟨i, _, more, rfl, resolved_id c i, resolved_config c i,
      resolved_image c i⟩

/-- A container that was removed in its turn was so by nothing but calls, and
the processor adds none. -/
theorem onlyCalls_of_processing {r : Container} {a : Except Fault Container}
    (hremove : e.watchedOperations.remove c w = (.ok (), w₁))
    (hprocess : process.watched r w₁ = (a, w')) : OnlyCalls w w' := by
  have hremoved : w₁.2 = w.2 ++ [.call (.remove c.id false (.ok ()))] :=
    deeds_of_remove hremove
  cases hprocess
  exact .of_call hremoved

/-- Every course is a turn, and one in which the container was removed is
told. -/
theorem deeds_of_course {f : InFlight} {a : Except Fault Container}
    (h : Course e.watchedOperations process.watched c w f a w') :
    ∃ t : Turn, w'.2 = w.2 ++ t.deeds
      ∧ (Stage.removed.rank ≤ f.stage.rank → t.Tells f.former) := by
  cases h with
  | unresolved hresolve =>
    obtain ⟨t, hdeeds⟩ := turn_of_resolve hresolve (.of_eq rfl)
    exact ⟨t, hdeeds, by simp [Stage.rank]⟩
  | unstopped hresolve hstop =>
    obtain ⟨t, hdeeds⟩ :=
      turn_of_resolve hresolve (.of_call (deeds_of_stop hstop))
    exact ⟨t, hdeeds, by simp [Stage.rank]⟩
  | unremoved hresolve hstop hremove =>
    obtain ⟨t, hdeeds⟩ := turn_of_resolve hresolve
      ((OnlyCalls.of_call (deeds_of_stop hstop)).trans
        (.of_call (deeds_of_remove hremove)))
    exact ⟨t, hdeeds, by simp [Stage.rank]⟩
  | untransformed hresolve hstop hremove hprocess =>
    obtain ⟨t, hdeeds, htells⟩ := turn_of_steps hresolve hstop
      (onlyCalls_of_processing hremove hprocess)
    exact ⟨t, hdeeds, fun _ => htells⟩
  | uncreated hresolve hstop hremove hprocess hcreate =>
    obtain ⟨t, hdeeds, htells⟩ := turn_of_steps hresolve hstop
      ((onlyCalls_of_processing hremove hprocess).trans
        (onlyCalls_of_create hcreate))
    exact ⟨t, hdeeds, fun _ => htells⟩
  | unchecked hresolve hstop hremove hprocess hcreate hcheck
  | unhealthy hresolve hstop hremove hprocess hcreate hcheck
  | replaced hresolve hstop hremove hprocess hcreate hcheck =>
    have hcreated := (onlyCalls_of_processing hremove hprocess).trans
      (onlyCalls_of_create hcreate)
    obtain ⟨t, hdeeds, htells⟩ := turn_of_steps hresolve hstop
      (hcreated.trans (onlyCalls_of_check hcheck))
    exact ⟨t, hdeeds, fun _ => htells⟩

/-- Only a container whose course got to the end passes. -/
theorem removed_of_passed {t : Operations σ} {f : InFlight} {n : Container}
    {s s' : σ} (h : Course t process c s f (.ok n) s') :
    Stage.removed.rank ≤ f.stage.rank := by
  cases h with
  | replaced => simp [Stage.rank]

/-- Containers that pass have one turn each, and each turn tells the container
that is noted for it. By induction on the chain; the reports between the
courses add no deeds. -/
theorem deeds_of_passes {cs : List Container} {us : List Upgraded}
    (h : Passes e.watchedOperations j.watched process.watched cs us w w') :
    ∃ turns : List Turn, w'.2 = w.2 ++ turns.flatMap Turn.deeds
      ∧ List.Forall₂ (fun u t => t.Tells u.former) us turns := by
  induction h with
  | nil => exact ⟨[], by simp, .nil⟩
  | @cons c n cs f us w w₁ w' hcourse _ ih =>
    obtain ⟨t, hdeeds, htells⟩ := deeds_of_course hcourse
    obtain ⟨turns, hrest, hforall⟩ := ih
    have hw₁ : w₁.2 = w.2 ++ t.deeds := hdeeds
    have hw' : w'.2 = w₁.2 ++ turns.flatMap Turn.deeds := hrest
    refine ⟨t :: turns, ?_, .cons (htells (removed_of_passed hcourse)) hforall⟩
    rw [hw', hw₁, List.flatMap_cons, List.append_assoc]

-- ================================================================ the run

/-- What was done before a rollback backs its plan: some calls to load, a turn
for each container that was upgraded, which tells it, and a last turn for the
one that failed, which tells it if it was removed. -/
def Backed (past : List Deed) (p : RollbackPlan) : Prop :=
  ∃ (opening : List ApiCall) (turns : List Turn) (last : Turn),
    past = opening.map .call ++ (turns ++ [last]).flatMap Turn.deeds
    ∧ List.Forall₂ (fun u t => t.Tells u.former) p.upgraded turns
    ∧ (p.failed.formerRemoved = true → last.Tells p.failed.former)

namespace Backed

variable {past : List Deed} {p : RollbackPlan}

/-- What is to be created again has a configuration. -/
theorem config_ne_none (h : Backed past p) {a : Attempt} (ha : a ∈ attempts p)
    (hremoved : a.removed = true) : a.former.config ≠ none := by
  obtain ⟨-, turns, last, -, hupgraded, hfailed⟩ := h
  have hconfig : ∀ u (t : Turn), t.Tells u → u.config ≠ none := by
    rintro u t ⟨i, -, -, -, -, hconfig, -⟩
    simp [hconfig]
  have hupgraded : ∀ u ∈ p.upgraded, u.former.config ≠ none :=
    ((List.forall₂_and_left _ _).1
      (hupgraded.imp fun u t ht => ⟨hconfig u.former t ht, ht⟩)).1
  unfold attempts at ha
  rcases List.mem_cons.1 ha with rfl | ha
  · exact hconfig _ last (hfailed hremoved)
  · cases hscope : p.scope with
    | failed => simp [hscope] at ha
    | batch =>
      rw [hscope] at ha
      obtain ⟨u, hu, rfl⟩ := List.mem_map.1 ha
      exact hupgraded u (List.mem_reverse.1 hu)

/-- No rollback has begun before. -/
theorem forward (h : Backed past p) (q : RollbackPlan) :
    .rollback q ∉ past := by
  obtain ⟨opening, turns, last, rfl, -⟩ := h
  simp [Turn.deeds]

end Backed

/-- What a run does is calls and turns, with no rollback among them, or it
ends in one: the deeds before it back its plan, and those behind it are the
trials of that plan. -/
theorem backed_of_ending {scope : RollbackScope} {cs : List Container}
    {opening : List ApiCall} {r : Except Fault Outcome}
    (hopening : w.2 = opening.map .call)
    (h : Ending e.watchedOperations j.watched scope process.watched
      cs w r w') :
    (∀ p, .rollback p ∉ w'.2)
      ∨ ∃ past p trials,
        Backed past p ∧ Tries e (w.1, past ++ [.rollback p]) trials w'
        ∧ trials.map (·.attempt) = attempts p := by
  cases h with
  | @completed us w₁ line hpass =>
    obtain ⟨turns, hdeeds, -⟩ := deeds_of_passes hpass
    refine Or.inl fun p => ?_
    show _ ∉ w₁.2
    rw [hdeeds, hopening]
    simp [Turn.deeds]
  | @abandoned before after c us f x w₁ w₂ line _ hpass hcourse =>
    obtain ⟨turns, hdeeds, -⟩ := deeds_of_passes hpass
    obtain ⟨t, hlast, -⟩ := deeds_of_course hcourse
    refine Or.inl fun p => ?_
    have hw₂ : w₂.2 = w₁.2 ++ t.deeds := hlast
    show _ ∉ w₂.2
    rw [hw₂, hdeeds, hopening]
    simp [Turn.deeds]
  | @rolledBack before after c us f x w₁ w₂ _ line a _ hpass hcourse _
      hrollback =>
    obtain ⟨turns, hdeeds, htold⟩ := deeds_of_passes hpass
    obtain ⟨t, hlast, htells⟩ := deeds_of_course hcourse
    have hw₂ : w₂.2 = w₁.2 ++ t.deeds := hlast
    obtain ⟨trials, htries, hattempts, -⟩ :=
      trials_of_rollback (e := e) hrollback
    refine Or.inr ⟨w₂.2, planOf scope f us, trials,
      ⟨opening, turns, t, ?_, htold, ?_⟩, htries, hattempts⟩
    · rw [hw₂, hdeeds, hopening, List.flatMap_append, List.append_assoc]
      simp
    · intro hremoved
      exact htells (of_decide_eq_true hremoved)

/-- No rollback of a run lacks a configuration that it needs, whatever the
engine answers and whatever the processor makes of a container, also if it
drops the configuration.

When a rollback begins, all that was done before is known to have been some
calls to load, one turn for each container that was upgraded, and the turn of
the one that failed. A container that may have to be created again stands in
the plan with the configuration that was told by the inspection with which its
turn began, before it was stopped, and with the image of that. So every trial
of the rollback that fails does so by an answer of the engine. -/
theorem rollback_configured (e : Site σ) (j : Job σ) (scope : RollbackScope)
    (select : Selection) (process : Processor σ) (s : σ) :
    let out := watchedRun e j scope select process s
    run e.operations j scope select process s = (out.1, out.2.1)
      ∧ ∀ past p rest, out.2.2 = past ++ .rollback p :: rest →
        Backed past p
        ∧ ∃ trials : List Trial, rest = (trials.flatMap (·.calls)).map .call
          ∧ trials.map (·.attempt) = attempts p
          ∧ ∀ t ∈ trials, t.Sound e.config.stopTimeoutSecs
            ∧ ∀ f, t.out = .error f → ∃ x ∈ t.calls, x.fault? = some f := by
  intro out
  refine ⟨watchedRun_projects e j scope select process s, ?_⟩
  obtain ⟨r, w', hout⟩ : ∃ r w', out = (r, w') := ⟨_, _, rfl⟩
  rw [hout]
  intro past p rest hdeeds
  have hmarked : .rollback p ∈ w'.2 := by
    rw [hdeeds]
    simp
  rcases ending_of_run hout with ⟨x, hload, -⟩ | ⟨cs, w₁, line, hload, hend⟩
  · obtain ⟨opening, hopening⟩ := onlyCalls_of_load (e := e) hload
    have hw' : w'.2 = [] ++ opening.map .call := hopening
    rw [hw'] at hmarked
    simp at hmarked
  obtain ⟨opening, hopening⟩ := onlyCalls_of_load (e := e) hload
  have hw₁ : (j.watched.log line w₁).2 = opening.map .call := hopening
  rcases backed_of_ending hw₁ hend with hnone
    | ⟨past', q, trials, hbacked, htries, hattempts⟩
  · exact absurd hmarked (hnone p)
  obtain ⟨hmade, hsound⟩ := htries
  have hw' :
      w'.2 = past' ++ .rollback q :: (trials.flatMap (·.calls)).map .call := by
    rw [hmade, List.append_assoc]
    rfl
  -- there is one mark only, so what stands around it is known
  obtain ⟨rfl, hq, rfl⟩ := (List.append_cons_inj_of_notMem (hbacked.forward p)
    (by simp)).1 (hw'.symm.trans hdeeds)
  cases hq
  refine ⟨hbacked, trials, rfl, hattempts, ?_⟩
  intro t ht
  refine ⟨hsound t ht, ?_⟩
  intro f hf
  have hrestores :
      Restores e.config.stopTimeoutSecs t.attempt t.calls (.error f) :=
    hf ▸ hsound t ht
  refine hrestores.blames (hbacked.config_ne_none ?_)
  rw [← hattempts]
  exact List.mem_map_of_mem ht

end Fleetkeeper
