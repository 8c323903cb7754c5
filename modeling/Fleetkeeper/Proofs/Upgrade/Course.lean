/-
How a rolling upgrade can go: the inversion lemmas of `replace`, `fail`,
`each` and `run`, said once. Every law about a run starts from them, so a
step that moves or a branch that is added is paid for here and in the cases
below it, not in every proof.

# The three layers

- `Course` (one container): one constructor for each step that can end the
  upgrade of a container, carrying the answers of all steps up to that one
  and the worlds they were given in. What `replace` returns is written into
  the index, so a case analysis on a course also says how far the container
  got and what is known of it.
- `Passes` (the containers before the one that fails): a chain of courses
  that all ended in a replacement, with the reports between them.
- `Ending` (the run): nothing was loaded, all passed, or one failed after a
  chain of passes, and then the rollback was skipped or asked for.

The log lines that a run writes carry no decision and are left open here:
an ending says that some line was written, not which.
-/
import Fleetkeeper.Upgrade.Rolling

namespace Fleetkeeper.Rolling

variable {σ : Type} {t : Operations σ} {j : Job σ} {process : Processor σ}

-- ========================================================= one container

/-- The courses that the upgrade of `c` can take from world `s`: how far it
got, what came of it, and the world afterwards. -/
inductive Course (t : Operations σ) (process : Processor σ) (c : Container)
    (s : σ) : InFlight → Except Fault Container → σ → Prop where
  | unresolved {e : Fault} {s' : σ}
      (hresolve : t.resolve c s = (.error e, s')) :
      Course t process c s ⟨c, none, none, .selected⟩ (.error e) s'
  | unstopped {r : Container} {s₁ : σ} {e : Fault} {s' : σ}
      (hresolve : t.resolve c s = (.ok r, s₁))
      (hstop : t.stop c s₁ = (.error e, s')) :
      Course t process c s ⟨c, some r, none, .configResolved⟩ (.error e) s'
  | unremoved {r : Container} {s₁ s₂ : σ} {e : Fault} {s' : σ}
      (hresolve : t.resolve c s = (.ok r, s₁))
      (hstop : t.stop c s₁ = (.ok (), s₂))
      (hremove : t.remove c s₂ = (.error e, s')) :
      Course t process c s ⟨c, some r, none, .stopped⟩ (.error e) s'
  | untransformed {r : Container} {s₁ s₂ s₃ : σ} {e : Fault} {s' : σ}
      (hresolve : t.resolve c s = (.ok r, s₁))
      (hstop : t.stop c s₁ = (.ok (), s₂))
      (hremove : t.remove c s₂ = (.ok (), s₃))
      (hprocess : process r s₃ = (.error e, s')) :
      Course t process c s ⟨c, some r, none, .removed⟩ (.error e) s'
  | uncreated {r d : Container} {s₁ s₂ s₃ s₄ : σ} {e : Fault} {s' : σ}
      (hresolve : t.resolve c s = (.ok r, s₁))
      (hstop : t.stop c s₁ = (.ok (), s₂))
      (hremove : t.remove c s₂ = (.ok (), s₃))
      (hprocess : process r s₃ = (.ok d, s₄))
      (hcreate : t.create d s₄ = (.error e, s')) :
      Course t process c s ⟨c, some r, none, .transformed⟩ (.error e) s'
  | unchecked {r d n : Container} {s₁ s₂ s₃ s₄ s₅ : σ} {e : Fault} {s' : σ}
      (hresolve : t.resolve c s = (.ok r, s₁))
      (hstop : t.stop c s₁ = (.ok (), s₂))
      (hremove : t.remove c s₂ = (.ok (), s₃))
      (hprocess : process r s₃ = (.ok d, s₄))
      (hcreate : t.create d s₄ = (.ok n, s₅))
      (hcheck : t.check n s₅ = (.error e, s')) :
      Course t process c s ⟨c, some r, some n, .created⟩ (.error e) s'
  | unhealthy {r d n : Container} {s₁ s₂ s₃ s₄ s₅ : σ} {s' : σ}
      (hresolve : t.resolve c s = (.ok r, s₁))
      (hstop : t.stop c s₁ = (.ok (), s₂))
      (hremove : t.remove c s₂ = (.ok (), s₃))
      (hprocess : process r s₃ = (.ok d, s₄))
      (hcreate : t.create d s₄ = (.ok n, s₅))
      (hcheck : t.check n s₅ = (.ok false, s')) :
      Course t process c s ⟨c, some r, some n, .healthChecked⟩
        (.error (.healthCheckFailed n.id)) s'
  | replaced {r d n : Container} {s₁ s₂ s₃ s₄ s₅ : σ} {s' : σ}
      (hresolve : t.resolve c s = (.ok r, s₁))
      (hstop : t.stop c s₁ = (.ok (), s₂))
      (hremove : t.remove c s₂ = (.ok (), s₃))
      (hprocess : process r s₃ = (.ok d, s₄))
      (hcreate : t.create d s₄ = (.ok n, s₅))
      (hcheck : t.check n s₅ = (.ok true, s')) :
      Course t process c s ⟨c, some r, some n, .healthChecked⟩ (.ok n) s'

/-- `replace` takes one of the courses. -/
theorem course_of_replace {c : Container} {s s' : σ} {f : InFlight}
    {a : Except Fault Container} (h : replace t process c s = (f, a, s')) :
    Course t process c s f a s' := by
  unfold replace at h
  split at h
  case h_1 hresolve =>
    cases h
    exact .unresolved hresolve
  case h_2 hresolve =>
    split at h
    case h_1 hstop =>
      cases h
      exact .unstopped hresolve hstop
    case h_2 hstop =>
      split at h
      case h_1 hremove =>
        cases h
        exact .unremoved hresolve hstop hremove
      case h_2 hremove =>
        split at h
        case h_1 hprocess =>
          cases h
          exact .untransformed hresolve hstop hremove hprocess
        case h_2 hprocess =>
          split at h
          case h_1 hcreate =>
            cases h
            exact .uncreated hresolve hstop hremove hprocess hcreate
          case h_2 hcreate =>
            split at h
            case h_1 hcheck =>
              cases h
              exact .unchecked hresolve hstop hremove hprocess hcreate hcheck
            case h_2 healthy _ hcheck =>
              cases healthy with
              | true =>
                cases h
                exact .replaced hresolve hstop hremove hprocess hcreate hcheck
              | false =>
                cases h
                exact .unhealthy hresolve hstop hremove hprocess hcreate hcheck

-- ================================================ the containers that pass

/-- All of a list of containers are upgraded, one after another; what became
of each, and the world before the first and after the last. -/
inductive Passes (t : Operations σ) (j : Job σ) (process : Processor σ) :
    List Container → List Upgraded → σ → σ → Prop where
  | nil {s : σ} : Passes t j process [] [] s s
  | cons {c n : Container} {cs : List Container} {f : InFlight}
      {us : List Upgraded} {s s₁ s' : σ}
      (hcourse : Course t process c (j.report .upgrading c.toText s)
        f (.ok n) s₁)
      (hrest : Passes t j process cs us (j.report .upgraded c.toText s₁) s') :
      Passes t j process (c :: cs) (⟨f.former, n⟩ :: us) s s'

/-- Passes follow one another. -/
theorem Passes.append {cs ds : List Container} {us vs : List Upgraded}
    {s s₁ s' : σ} (h : Passes t j process cs us s s₁)
    (hrest : Passes t j process ds vs s₁ s') :
    Passes t j process (cs ++ ds) (us ++ vs) s s' := by
  induction h with
  | nil => exact hrest
  | cons hcourse _ ih => exact .cons hcourse (ih hrest)

-- =============================================================== the run

/-- The plan that a rollback gets for what failed on `f`. -/
def planOf (scope : RollbackScope) (f : InFlight) (us : List Upgraded) :
    RollbackPlan :=
  { scope, failed := ⟨f.former, f.stage, f.replacement⟩, upgraded := us }

/-- The endings of a run over containers `cs` that starts in world `s`. A
container that fails does so after others have passed, and those behind it
appear in no premise: nothing is done to them. -/
inductive Ending (t : Operations σ) (j : Job σ) (scope : RollbackScope)
    (process : Processor σ) (cs : List Container) (s : σ) :
    Except Fault Outcome → σ → Prop where
  | completed {us : List Upgraded} {s₁ : σ} {line : LogLine}
      (hpass : Passes t j process cs us s s₁) :
      Ending t j scope process cs s (.ok (.completed us)) (j.log line s₁)
  | abandoned {before after : List Container} {c : Container}
      {us : List Upgraded} {f : InFlight} {e : Fault} {s₁ s₂ : σ}
      {line : LogLine}
      (hcs : cs = before ++ c :: after)
      (hpass : Passes t j process before us s s₁)
      (hcourse : Course t process c (j.report .upgrading c.toText s₁) f
        (.error e) s₂)
      (hoff : j.rollbackEnabled s₂ = false) :
      Ending t j scope process cs s (.error e)
        (j.log line (j.report .failed c.toText s₂))
  | rolledBack {before after : List Container} {c : Container}
      {us : List Upgraded} {f : InFlight} {e : Fault} {s₁ s₂ s' : σ}
      {line : LogLine} {a : Except Fault Unit}
      (hcs : cs = before ++ c :: after)
      (hpass : Passes t j process before us s s₁)
      (hcourse : Course t process c (j.report .upgrading c.toText s₁) f
        (.error e) s₂)
      (hon : j.rollbackEnabled s₂ = true)
      (hrollback : t.rollback (planOf scope f us)
        (j.log line (j.report .rollingBack c.toText s₂)) = (a, s')) :
      Ending t j scope process cs s
        (a.map fun _ => .rolledBack (planOf scope f us) e) s'

/-- A course keeps the container as it was loaded. -/
theorem Course.loaded_eq {c : Container} {s s' : σ} {f : InFlight}
    {a : Except Fault Container} (h : Course t process c s f a s') :
    f.loaded = c := by
  cases h <;> rfl

/-- A failing container ends the run in one of the two ways of failing. -/
theorem ending_of_fail {scope : RollbackScope}
    {cs before after : List Container} {c : Container} {us : List Upgraded}
    {f : InFlight} {e : Fault} {s s₁ s₂ s' : σ} {r : Except Fault Outcome}
    (hcs : cs = before ++ c :: after)
    (hpass : Passes t j process before us s s₁)
    (hcourse : Course t process c (j.report .upgrading c.toText s₁) f
        (.error e) s₂)
    (h : fail t j scope f us e s₂ = (r, s')) :
    Ending t j scope process cs s r s' := by
  unfold fail at h
  rw [hcourse.loaded_eq] at h
  dsimp only at h
  split at h
  case isTrue hon =>
    split at h
    case h_1 hrollback =>
      cases h
      exact .rolledBack hcs hpass hcourse hon hrollback
    case h_2 hrollback =>
      cases h
      exact .rolledBack hcs hpass hcourse hon hrollback
  case isFalse hoff =>
    cases h
    exact .abandoned hcs hpass hcourse (by simpa using hoff)

/-- The loop, entered behind containers that have passed, ends in one of the
endings. The induction is on the containers still to come; each one that
passes moves over to those that have. -/
theorem ending_of_each {scope : RollbackScope} :
    ∀ {rest cs before : List Container} {us : List Upgraded} {s₀ s s' : σ}
      {r : Except Fault Outcome},
      cs = before ++ rest →
      Passes t j process before us s₀ s →
      each t j scope process rest us s = (r, s') →
      Ending t j scope process cs s₀ r s' := by
  intro rest
  induction rest with
  | nil =>
    intro cs before us s₀ s s' r hcs hpass h
    rw [List.append_nil] at hcs
    subst hcs
    unfold each at h
    cases h
    exact .completed hpass
  | cons c rest ih =>
    intro cs before us s₀ s s' r hcs hpass h
    unfold each at h
    dsimp only at h
    split at h
    case h_1 f n s₁ hreplace =>
      have hcs' : cs = (before ++ [c]) ++ rest := by
        rw [hcs, List.append_assoc]
        rfl
      have hpass' := hpass.append (.cons (course_of_replace hreplace) .nil)
      exact ih hcs' hpass' h
    case h_2 f e s₁ hreplace =>
      exact ending_of_fail hcs hpass (course_of_replace hreplace) h

/-- A run either loads nothing or ends in one of the endings of its loop. -/
theorem ending_of_run {scope : RollbackScope} {select : Selection} {s s' : σ}
    {r : Except Fault Outcome}
    (h : run t j scope select process s = (r, s')) :
    (∃ e, t.load select s = (.error e, s') ∧ r = .error e)
      ∨ ∃ cs s₁ line, t.load select s = (.ok cs, s₁)
          ∧ Ending t j scope process cs (j.log line s₁) r s' := by
  unfold run at h
  split at h
  case h_1 e s₁ hload =>
    cases h
    exact Or.inl ⟨e, hload, rfl⟩
  case h_2 cs s₁ hload =>
    dsimp only at h
    exact Or.inr ⟨cs, s₁, _, hload, ending_of_each rfl .nil h⟩

-- ================================================== the run, by its result

/-- A run that completes: all that was loaded has passed. -/
theorem completed_of_run {scope : RollbackScope} {select : Selection}
    {us : List Upgraded} {s s' : σ}
    (h : run t j scope select process s = (.ok (.completed us), s')) :
    ∃ cs s₁ line s₂ line', t.load select s = (.ok cs, s₁)
      ∧ Passes t j process cs us (j.log line s₁) s₂ ∧ s' = j.log line' s₂ := by
  rcases ending_of_run h with ⟨x, -, hx⟩ | ⟨cs, s₁, line, hload, hend⟩
  · cases hx
  generalize hout : (Except.ok (.completed us) : Except Fault Outcome)
    = r at hend
  cases hend with
  | completed hpass =>
    cases hout
    exact ⟨cs, s₁, line, _, _, hload, hpass, rfl⟩
  | abandoned => cases hout
  | @rolledBack _ _ _ _ _ _ _ _ _ _ a => cases a <;> cases hout

/-- A run that is rolled back: one container has failed behind others that
had passed, and the rollback of the plan that says so has succeeded. -/
theorem rolledBack_of_run {scope : RollbackScope} {select : Selection}
    {plan : RollbackPlan} {cause : Fault} {s s' : σ}
    (h : run t j scope select process s = (.ok (.rolledBack plan cause), s')) :
    ∃ before c after us f s₁ line s₂ s₃ line',
      t.load select s = (.ok (before ++ c :: after), s₁)
      ∧ Passes t j process before us (j.log line s₁) s₂
      ∧ Course t process c (j.report .upgrading c.toText s₂) f (.error cause)
        s₃
      ∧ plan = planOf scope f us
      ∧ t.rollback plan (j.log line' (j.report .rollingBack c.toText s₃))
        = (.ok (), s') := by
  rcases ending_of_run h with ⟨x, -, hx⟩ | ⟨cs, s₁, line, hload, hend⟩
  · cases hx
  generalize hout :
    (Except.ok (.rolledBack plan cause) : Except Fault Outcome) = r at hend
  cases hend with
  | completed => cases hout
  | abandoned => cases hout
  | @rolledBack before after c us f x s₂ s₃ _ line' a hcs hpass hcourse _
      hrollback =>
    cases a with
    | error => cases hout
    | ok u =>
      cases hout
      subst hcs
      exact ⟨before, c, after, us, f, s₁, line, s₂, s₃, line', hload, hpass,
        hcourse, rfl, hrollback⟩

/-- A run that fails while the rollback is switched off: loading has failed,
or one container has behind others that had passed. -/
theorem error_of_run {scope : RollbackScope} {select : Selection} {x : Fault}
    {s s' : σ} (hoff : ∀ w, j.rollbackEnabled w = false)
    (h : run t j scope select process s = (.error x, s')) :
    t.load select s = (.error x, s')
      ∨ ∃ before c after us f s₁ line s₂ s₃ line',
          t.load select s = (.ok (before ++ c :: after), s₁)
          ∧ Passes t j process before us (j.log line s₁) s₂
          ∧ Course t process c (j.report .upgrading c.toText s₂) f
            (.error x) s₃
          ∧ s' = j.log line' (j.report .failed c.toText s₃) := by
  rcases ending_of_run h with ⟨y, hload, hy⟩ | ⟨cs, s₁, line, hload, hend⟩
  · cases hy
    exact Or.inl hload
  refine Or.inr ?_
  generalize hout : (Except.error x : Except Fault Outcome) = r at hend
  cases hend with
  | completed => cases hout
  | @abandoned before after c us f y s₂ s₃ line' hcs hpass hcourse =>
    cases hout
    subst hcs
    exact ⟨before, c, after, us, f, s₁, line, s₂, s₃, line', hload, hpass,
      hcourse, rfl⟩
  | rolledBack _ _ _ hon =>
    rw [hoff] at hon
    cases hon

end Fleetkeeper.Rolling
