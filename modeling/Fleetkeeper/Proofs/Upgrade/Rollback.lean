/-
A rollback tries everything and says what failed: every container of its plan
gets its attempt, whatever becomes of the others, and the fault names those
whose attempt failed, in the order in which they were tried.

# Trials

A trial is an attempt as it went: the calls that were made for it, with their
answers, and what came of it. Which trials there can be is written down as a
grammar of calls, from the bottom up: dropping a replacement (`Discards`),
bringing the former container back (`Revives`), and both in this order
(`Restores`). Nothing is assumed of the engine. Each answer is any answer, and
the grammar says how the trial goes on from it.

The grammar has its own words for what the code decides: which answers will do
where a container is to go (`Gone`), and how a message calls a container
(`Container.Called`).

A rollback is watched like a run (`Site.watched`), so the calls of its trials,
one after another, are all that it does (`rollback_tries_all`).
-/
import Fleetkeeper.Proofs.Upgrade.Provenance
import Mathlib.Data.List.Forall2

namespace Fleetkeeper

variable {σ : Type} {e : Site σ} {w w₁ w' : σ × List Deed}

-- ================================================================ calls

/-- From `w` to `w'` these calls were made, and nothing else was done. -/
def Made (w : σ × List Deed) (calls : List ApiCall) (w' : σ × List Deed) :
    Prop :=
  w'.2 = w.2 ++ calls.map .call

namespace Made

theorem nil (h : w'.2 = w.2) : Made w [] w' := by
  simpa [Made] using h

theorem one {a : ApiCall} (h : w'.2 = w.2 ++ [.call a]) : Made w [a] w' := h

theorem trans {calls more : List ApiCall} (h : Made w calls w₁)
    (h' : Made w₁ more w') : Made w (calls ++ more) w' := by
  unfold Made at *
  rw [h', h, List.map_append, List.append_assoc]

end Made

/-- The fault that a call was answered with. -/
def ApiCall.fault? : ApiCall → Option Fault
  | .list _ (.error f) => some f
  | .inspect _ (.error f) => some f
  | .stop _ _ (.error f) => some f
  | .remove _ _ (.error f) => some f
  | .create _ _ (.error f) => some f
  | .start _ (.error f) => some f
  | _ => none

-- =============================================================== messages

namespace Container

/-- A message calls a container by its place and name, by its name where no
place is known, and by its id where it has no name; its image follows. -/
inductive Called (c : Container) : String → Prop where
  | placed {name node : String} (hname : c.name = some name)
      (hnode : c.node = some node) :
      Called c (node ++ "/" ++ name ++ " (" ++ c.image ++ ")")
  | named {name : String} (hname : c.name = some name)
      (hnode : c.node = none) :
      Called c (name ++ " (" ++ c.image ++ ")")
  | unnamed (hname : c.name = none) : Called c (c.id ++ " (" ++ c.image ++ ")")

/-- So each container has one text in messages. -/
theorem called_iff {c : Container} {text : String} :
    c.Called text ↔ text = c.toText := by
  unfold toText
  constructor
  · intro h
    cases h with
    | placed hname hnode | named hname hnode => rw [hname, hnode]
    | unnamed hname => rw [hname]
  · rintro rfl
    cases hname : c.name with
    | none => exact .unnamed hname
    | some name =>
      cases hnode : c.node with
      | none => exact .named hname hnode
      | some node => exact .placed hname hnode

end Container

namespace Site

-- =============================================================== grammar

/-- Only one fault says that a container is gone. -/
theorem isGone_iff {f : Fault} :
    isGone f = true ↔ ∃ id, f = .containerNotFound id := by
  cases f <;> simp [isGone]

/-- An answer that will do where a container is to go: it went, or it is not
there. -/
def Gone (a : Except Fault Unit) : Prop :=
  a = .ok () ∨ ∃ id, a = .error (.containerNotFound id)

/-- The calls by which a container is discarded, and what comes of it. -/
inductive Discards (secs : Nat) (c : Container) :
    List ApiCall → Except Fault Unit → Prop where
  | unstopped {f : Fault} (hf : ∀ id, f ≠ .containerNotFound id) :
      Discards secs c [.stop c.id secs (.error f)] (.error f)
  | unremoved {a : Except Fault Unit} {f : Fault} (ha : Gone a)
      (hf : ∀ id, f ≠ .containerNotFound id) :
      Discards secs c [.stop c.id secs a, .remove c.id true (.error f)]
        (.error f)
  | discarded {a b : Except Fault Unit} (ha : Gone a) (hb : Gone b) :
      Discards secs c [.stop c.id secs a, .remove c.id true b] (.ok ())

/-- The calls by which a former container is brought back, according to
whether it was removed, and what comes of it. -/
inductive Revives (c : Container) :
    Bool → List ApiCall → Except Fault Unit → Prop where
  | kept {a : Except Fault Unit} : Revives c false [.start c.id a] a
  | unconfigured {text : String} (hspec : c.config = none)
      (htext : c.Called text) :
      Revives c true []
        (.error (.batch ("No configuration to restore " ++ text)))
  | refused {spec : ContainerSpec} {f : Fault} (hspec : c.config = some spec) :
      Revives c true [.create c.name spec (.error f)] (.error f)
  | created {spec : ContainerSpec} {id : String} {a : Except Fault Unit}
      (hspec : c.config = some spec) :
      Revives c true [.create c.name spec (.ok id), .start id a] a

/-- The calls of an attempt and what comes of it: a replacement has to be out
of the way before the former container is touched. -/
inductive Restores (secs : Nat) (a : Attempt) :
    List ApiCall → Except Fault Unit → Prop where
  | alone {calls : List ApiCall} {out : Except Fault Unit}
      (hr : a.replacement = none)
      (hrevive : Revives a.former a.removed calls out) :
      Restores secs a calls out
  | stuck {r : Container} {calls : List ApiCall} {f : Fault}
      (hr : a.replacement = some r)
      (hdiscard : Discards secs r calls (.error f)) :
      Restores secs a calls (.error f)
  | cleared {r : Container} {first rest : List ApiCall}
      {out : Except Fault Unit} (hr : a.replacement = some r)
      (hdiscard : Discards secs r first (.ok ()))
      (hrevive : Revives a.former a.removed rest out) :
      Restores secs a (first ++ rest) out

/-- An attempt as it went. -/
structure Trial where
  attempt : Attempt
  calls : List ApiCall
  out : Except Fault Unit

namespace Trial

/-- The trial went as an attempt can go. -/
def Sound (secs : Nat) (t : Trial) : Prop :=
  Restores secs t.attempt t.calls t.out

def failed (t : Trial) : Bool :=
  match t.out with
  | .ok () => false
  | .error _ => true

theorem failed_eq_false_iff {t : Trial} :
    t.failed = false ↔ t.out = .ok () := by
  unfold failed
  split <;> simp_all

end Trial

/-- A container that cannot be brought back has the engine's word for it,
unless it lacks the configuration to create it again. -/
theorem Revives.blames {c : Container} {removed : Bool} {calls : List ApiCall}
    {f : Fault} (h : Revives c removed calls (.error f))
    (hconfig : removed = true → c.config ≠ none) :
    ∃ x ∈ calls, x.fault? = some f := by
  generalize hout : (Except.error f : Except Fault Unit) = out at h
  cases h with
  | kept =>
    subst hout
    exact ⟨_, List.mem_singleton.2 rfl, rfl⟩
  | unconfigured hspec => exact absurd hspec (hconfig rfl)
  | refused =>
    cases hout
    exact ⟨_, List.mem_singleton.2 rfl, rfl⟩
  | @created _ id =>
    subst hout
    exact ⟨.start id (.error f), by simp, rfl⟩

/-- So has every attempt that fails. -/
theorem Restores.blames {secs : Nat} {a : Attempt} {calls : List ApiCall}
    {f : Fault} (h : Restores secs a calls (.error f))
    (hconfig : a.removed = true → a.former.config ≠ none) :
    ∃ x ∈ calls, x.fault? = some f := by
  cases h with
  | alone _ hrevive => exact hrevive.blames hconfig
  | @stuck r _ _ _ hdiscard =>
    cases hdiscard with
    | unstopped => exact ⟨_, List.mem_singleton.2 rfl, rfl⟩
    | unremoved => exact ⟨.remove r.id true (.error f), by simp, rfl⟩
  | cleared _ _ hrevive =>
    obtain ⟨x, hx, hf⟩ := hrevive.blames hconfig
    exact ⟨x, List.mem_append_right _ hx, hf⟩

-- ================================================================ steps

/-- A fault that says that the container is gone will do. -/
theorem gone_of_isGone {f : Fault} (hf : isGone f = true) :
    Gone (.error f) := by
  obtain ⟨id, rfl⟩ := isGone_iff.1 hf
  exact .inr ⟨id, rfl⟩

/-- Any other fault says something else. -/
theorem ne_notFound_of_not_isGone {f : Fault} (hf : ¬ isGone f = true) :
    ∀ id, f ≠ .containerNotFound id :=
  fun id heq => hf (isGone_iff.2 ⟨id, heq⟩)

/-- The removal behind a stop that will do. -/
theorem discards_of_expel {secs : Nat} {c : Container}
    {a out : Except Fault Unit} (ha : Gone a)
    (hstop : Made w [.stop c.id secs a] w₁)
    (h : e.watched.expel c w₁ = (out, w')) :
    ∃ calls, Made w calls w' ∧ Discards secs c calls out := by
  unfold expel at h
  split at h
  case h_1 hremove =>
    cases h
    exact ⟨_, hstop.trans (.one (deeds_of_remove hremove)),
      .discarded ha (.inl rfl)⟩
  case h_2 f _ hremove =>
    have hmade := hstop.trans (.one (deeds_of_remove hremove))
    split at h
    case isTrue hf =>
      cases h
      exact ⟨_, hmade, .discarded ha (gone_of_isGone hf)⟩
    case isFalse hf =>
      cases h
      exact ⟨_, hmade, .unremoved ha (ne_notFound_of_not_isGone hf)⟩

/-- Dropping a replacement makes the calls of the grammar: a stop, and if that
will do a removal. -/
theorem discards_of_discard {c : Container} {out : Except Fault Unit}
    (h : e.watched.discard c w = (out, w')) :
    ∃ calls, Made w calls w'
      ∧ Discards e.config.stopTimeoutSecs c calls out := by
  unfold Site.discard at h
  split at h
  case h_1 hstop =>
    exact discards_of_expel (.inl rfl) (.one (deeds_of_stop hstop)) h
  case h_2 f _ hstop =>
    split at h
    case isTrue hf =>
      exact discards_of_expel (gone_of_isGone hf)
        (.one (deeds_of_stop hstop)) h
    case isFalse hf =>
      cases h
      exact ⟨_, .one (deeds_of_stop hstop),
        .unstopped (ne_notFound_of_not_isGone hf)⟩

/-- Bringing a container back makes the calls of the grammar: a start where it
is still there, else a creation and a start under the id that it gave. -/
theorem revives_of_revive {c : Container} {removed : Bool}
    {out : Except Fault Unit} (h : e.watched.revive c removed w = (out, w')) :
    ∃ calls, Made w calls w' ∧ Revives c removed calls out := by
  cases removed with
  | false => exact ⟨_, .one (deeds_of_start h), .kept⟩
  | true =>
    change e.watched.recreate c w = (out, w') at h
    unfold recreate at h
    split at h
    case h_1 hspec =>
      cases h
      exact ⟨[], .nil rfl, .unconfigured hspec (Container.called_iff.2 rfl)⟩
    case h_2 spec hspec =>
      split at h
      case h_1 hcreate =>
        cases h
        exact ⟨_, .one (deeds_of_create hcreate), .refused hspec⟩
      case h_2 hcreate =>
        have hmade := Made.one (deeds_of_create hcreate)
        split at h
        case h_1 hstart =>
          cases h
          exact ⟨_, hmade.trans (.one (deeds_of_start hstart)), .created hspec⟩
        case h_2 hstart =>
          have hdeeds := deeds_of_start hstart
          cases h
          exact ⟨_, hmade.trans (.one hdeeds), .created hspec⟩

/-- An attempt makes the calls of the grammar, those for the replacement
first. -/
theorem restores_of_restore {a : Attempt} {out : Except Fault Unit}
    (h : e.watched.restore a.former a.replacement a.removed w = (out, w')) :
    ∃ calls, Made w calls w'
      ∧ Restores e.config.stopTimeoutSecs a calls out := by
  unfold restore at h
  split at h
  case h_1 hr =>
    obtain ⟨calls, hmade, hrevive⟩ := revives_of_revive h
    exact ⟨calls, hmade, .alone hr hrevive⟩
  case h_2 r hr =>
    split at h
    case h_1 hdiscard =>
      cases h
      obtain ⟨calls, hmade, hdiscards⟩ := discards_of_discard hdiscard
      exact ⟨calls, hmade, .stuck hr hdiscards⟩
    case h_2 hdiscard =>
      obtain ⟨first, hfirst, hdiscards⟩ := discards_of_discard hdiscard
      obtain ⟨rest, hrest, hrevive⟩ := revives_of_revive h
      exact ⟨first ++ rest, hfirst.trans hrest, .cleared hr hdiscards hrevive⟩

-- ========================================================== all attempts

/-- What was done on the way from `w` to `w'` are these trials, one after
another. -/
def Tries (e : Site σ) (w : σ × List Deed) (trials : List Trial)
    (w' : σ × List Deed) : Prop :=
  Made w (trials.flatMap (·.calls)) w'
    ∧ ∀ t ∈ trials, t.Sound e.config.stopTimeoutSecs

/-- One trial in front of others. What the log gets in between is no deed. -/
theorem Tries.cons {t : Trial} {trials : List Trial} {w₂ : σ × List Deed}
    (ht : t.Sound e.config.stopTimeoutSecs) (hmade : Made w t.calls w₁)
    (hlog : w₂.2 = w₁.2) (h : Tries e w₂ trials w') :
    Tries e w (t :: trials) w' := by
  obtain ⟨hrest, hsound⟩ := h
  refine ⟨?_, List.forall_mem_cons.2 ⟨ht, hsound⟩⟩
  have hlogged : Made w t.calls w₂ := hlog.trans hmade
  exact hlogged.trans hrest

/-- Every attempt is made, whatever came of those before it, and the
containers that are given back are those whose trial failed. By induction on
the attempts. -/
theorem trials_of_restoreAll (attempts : List Attempt) :
    ∀ {w w' : σ × List Deed} {failed : List Container},
      e.watched.restoreAll attempts w = (failed, w') →
      ∃ trials : List Trial, Tries e w trials w'
        ∧ trials.map (·.attempt) = attempts
        ∧ failed = (trials.filter (·.failed)).map (·.attempt.former) := by
  induction attempts with
  | nil =>
    intro w w' failed h
    cases h
    exact ⟨[], ⟨.nil rfl, by simp⟩, rfl, rfl⟩
  | cons a rest ih =>
    intro w w' failed h
    unfold restoreAll at h
    split at h
    case h_1 w₁ hrestore =>
      obtain ⟨calls, hmade, ht⟩ := restores_of_restore hrestore
      obtain ⟨trials, htries, hattempts, hfailed⟩ := ih h
      refine ⟨⟨a, calls, .ok ()⟩ :: trials, htries.cons ht hmade rfl, ?_, ?_⟩
      · rw [List.map_cons, hattempts]
      · rw [List.filter_cons_of_neg (by simp [Trial.failed])]
        exact hfailed
    case h_2 f w₁ hrestore =>
      obtain ⟨calls, hmade, ht⟩ := restores_of_restore hrestore
      dsimp only at h
      generalize hrest : e.watched.restoreAll rest _ = later at h
      obtain ⟨others, w₂⟩ := later
      obtain ⟨trials, htries, hattempts, hfailed⟩ := ih hrest
      cases h
      refine ⟨⟨a, calls, .error f⟩ :: trials, htries.cons ht hmade rfl, ?_, ?_⟩
      · rw [List.map_cons, hattempts]
      · rw [List.filter_cons_of_pos (by simp [Trial.failed]),
          List.map_cons, hfailed]

/-- What a rollback says of its trials: that all have succeeded, or whose
attempt failed, each called by its text, in the order of the trials. -/
structure Reports (trials : List Trial) (out : Except Fault Unit) : Prop where
  ok_iff : out = .ok () ↔ ∀ t ∈ trials, t.out = .ok ()
  names : ∀ f, out = .error f → ∃ texts,
    List.Forall₂ Container.Called
        ((trials.filter (·.failed)).map (·.attempt.former)) texts
      ∧ f = .batch ("Rollback failed for " ++ ", ".intercalate texts)

/-- A rollback is one trial for each of its attempts, and reports these. -/
theorem trials_of_rollback {p : RollbackPlan} {out : Except Fault Unit}
    (h : e.watched.rollback p w = (out, w')) :
    ∃ trials : List Trial, Tries e w trials w'
      ∧ trials.map (·.attempt) = attempts p ∧ Reports trials out := by
  obtain ⟨failed, w₁, hall⟩ : ∃ failed w₁,
      e.watched.restoreAll (attempts p) w = (failed, w₁) := ⟨_, _, rfl⟩
  obtain ⟨trials, htries, hattempts, hfailed⟩ := trials_of_restoreAll _ hall
  have hnone : failed = [] ↔ ∀ t ∈ trials, t.out = .ok () := by
    rw [hfailed, List.map_eq_nil_iff, List.filter_eq_nil_iff]
    refine forall₂_congr fun t _ => ?_
    rw [Bool.not_eq_true, Trial.failed_eq_false_iff]
  have htexts : List.Forall₂ Container.Called failed
      (failed.map Container.toText) := by
    rw [List.forall₂_map_right_iff]
    exact List.forall₂_same.2 fun c _ => Container.called_iff.2 rfl
  refine ⟨trials, ?_⟩
  unfold Site.rollback at h
  rw [hall] at h
  cases failed with
  | nil =>
    cases h
    refine ⟨htries, hattempts, ?_, by simp⟩
    exact iff_of_true rfl (hnone.1 rfl)
  | cons c cs =>
    cases h
    refine ⟨htries, hattempts, ?_, ?_⟩
    · exact iff_of_false (by simp) fun hok => by cases hnone.2 hok
    · rintro f hf
      cases hf
      exact ⟨_, hfailed ▸ htexts, rfl⟩

/-- A rollback does the best it can and reports exactly what it could not
restore, for every plan and whatever the engine answers.

It consists of one trial for each container of the plan: the one that failed,
then, if the whole batch is to be restored, those upgraded, the last one
first. Each trial is made up of its own calls and ends in its own way
(`Restores`), whatever came of the others. All is well exactly if each of them
has succeeded, and otherwise the fault names those that have not. The calls
and what is reported are those of the rollback itself. -/
theorem rollback_tries_all (e : Site σ) (p : RollbackPlan) (s : σ) :
    let out := e.watched.rollback p (s, [])
    e.rollback p s = (out.1, out.2.1)
      ∧ ∃ trials : List Trial,
        out.2.2 = (trials.flatMap (·.calls)).map .call
        ∧ trials.map (·.attempt)
          = ⟨p.failed.former, p.failed.replacement, p.failed.formerRemoved⟩
            :: (if p.scope = .batch then
                p.upgraded.reverse.map fun u =>
                  ⟨u.former, some u.replacement, true⟩
              else [])
        ∧ (∀ t ∈ trials,
            Restores e.config.stopTimeoutSecs t.attempt t.calls t.out)
        ∧ Reports trials out.1 := by
  intro out
  refine ⟨e.watched_projects.rollback p (s, []), ?_⟩
  obtain ⟨a, w', hout⟩ : ∃ a w', out = (a, w') := ⟨_, _, rfl⟩
  rw [hout]
  obtain ⟨trials, ⟨hmade, hsound⟩, hattempts, hreports⟩ :=
    trials_of_rollback hout
  refine ⟨trials, hmade, ?_, hsound, hreports⟩
  rw [hattempts]
  unfold attempts
  cases p.scope with
  | failed => rfl
  | batch => rfl

end Site

end Fleetkeeper
