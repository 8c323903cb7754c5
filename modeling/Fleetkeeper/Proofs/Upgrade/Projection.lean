/-
A run on a world that knows more is the run on the world that it knows: where
every step commutes with a projection of worlds, so does the whole run. This
is what makes recording harmless. A world with a list beside it, to which
every step adds what it did (`record`), projects to the world, and what is
proved of the recorded run holds of the plain one.

The laws are written from right to left, the plain step on the projected
world equal to the projected step, so that rewriting with them pulls the
projection out of a run step by step.

The same is said twice, for the operations of a run and, below them, for the
interface of an engine and the site of an upgrade on it.
-/
import Fleetkeeper.Proofs.Engine.Calls
import Fleetkeeper.Upgrade.Site

namespace Fleetkeeper

open Rolling

variable {σ τ : Type} {π : τ → σ}

-- =============================================================== the laws

/-- The operations on `τ` are those on `σ`, seen through `π`. -/
structure Operations.Projects (t' : Operations τ) (π : τ → σ)
    (t : Operations σ) : Prop where
  load : ∀ select w,
    t.load select (π w) = ((t'.load select w).1, π (t'.load select w).2)
  resolve :
      ∀ c w, t.resolve c (π w) = ((t'.resolve c w).1, π (t'.resolve c w).2)
  stop : ∀ c w, t.stop c (π w) = ((t'.stop c w).1, π (t'.stop c w).2)
  remove : ∀ c w, t.remove c (π w) = ((t'.remove c w).1, π (t'.remove c w).2)
  create : ∀ c w, t.create c (π w) = ((t'.create c w).1, π (t'.create c w).2)
  check : ∀ c w, t.check c (π w) = ((t'.check c w).1, π (t'.check c w).2)
  rollback : ∀ p w,
    t.rollback p (π w) = ((t'.rollback p w).1, π (t'.rollback p w).2)

/-- The job on `τ` is the one on `σ`, seen through `π`. -/
structure Job.Projects (j' : Job τ) (π : τ → σ) (j : Job σ) : Prop where
  rollbackEnabled : ∀ w, j.rollbackEnabled (π w) = j'.rollbackEnabled w
  report : ∀ p subject w, j.report p subject (π w) = π (j'.report p subject w)
  log : ∀ line w, j.log line (π w) = π (j'.log line w)

/-- The processor on `τ` is the one on `σ`, seen through `π`. -/
def Processor.Projects (process' : Processor τ) (π : τ → σ)
    (process : Processor σ) : Prop :=
  ∀ c w, process c (π w) = ((process' c w).1, π (process' c w).2)

-- ============================================================= recording

/-- A step that is written down; `q` says what is written, from the answer
of the step and the world behind it. -/
def record {ε α : Type} (q : α → σ → ε) (f : σ → α × σ) (w : σ × List ε) :
    α × σ × List ε :=
  ((f w.1).1, (f w.1).2, w.2 ++ [q (f w.1).1 (f w.1).2])

/-- A step is written down behind those before it. -/
theorem record_eq {ε α : Type} {q : α → σ → ε} {f : σ → α × σ}
    {w w' : σ × List ε} {a : α} (h : record q f w = (a, w')) :
    w'.2 = w.2 ++ [q a w'.1] := by
  cases h
  rfl

-- ================================================================ the run

section Run

variable {t' : Operations τ} {t : Operations σ} {j' : Job τ} {j : Job σ}
  {process' : Processor τ} {process : Processor σ}
  (ht : t'.Projects π t) (hj : j'.Projects π j)
  (hprocess : process'.Projects π process)

include ht hprocess in
/-- One container. -/
theorem replace_projects (c : Container) (w : τ) :
    replace t process c (π w)
      = ((replace t' process' c w).1, (replace t' process' c w).2.1,
          π (replace t' process' c w).2.2) := by
  unfold replace
  rw [ht.resolve]
  obtain ⟨_ | resolved, w₁⟩ := t'.resolve c w
  · rfl
  dsimp only
  rw [ht.stop]
  obtain ⟨_ | _, w₂⟩ := t'.stop c w₁
  · rfl
  dsimp only
  rw [ht.remove]
  obtain ⟨_ | _, w₃⟩ := t'.remove c w₂
  · rfl
  dsimp only
  rw [hprocess]
  obtain ⟨_ | desired, w₄⟩ := process' resolved w₃
  · rfl
  dsimp only
  rw [ht.create]
  obtain ⟨_ | created, w₅⟩ := t'.create desired w₄
  · rfl
  dsimp only
  rw [ht.check]
  obtain ⟨_ | healthy, w₆⟩ := t'.check created w₅
  · rfl
  · rfl

include ht hj in
/-- The end of a batch that failed. -/
theorem fail_projects (scope : RollbackScope) (f : InFlight)
    (us : List Upgraded) (cause : Fault) (w : τ) :
    fail t j scope f us cause (π w)
      = ((fail t' j' scope f us cause w).1,
          π (fail t' j' scope f us cause w).2) := by
  unfold fail
  dsimp only
  rw [hj.rollbackEnabled]
  split
  case isTrue =>
    rw [hj.report, hj.log, ht.rollback]
    generalize t'.rollback _ _ = a
    obtain ⟨_ | _, w₁⟩ := a
    · rfl
    · rfl
  case isFalse => rw [hj.report, hj.log]

include ht hj hprocess in
/-- The loop, by induction on the containers still to come. -/
theorem each_projects (scope : RollbackScope) :
    ∀ (cs : List Container) (us : List Upgraded) (w : τ),
      each t j scope process cs us (π w)
        = ((each t' j' scope process' cs us w).1,
            π (each t' j' scope process' cs us w).2) := by
  intro cs
  induction cs with
  | nil =>
    intro us w
    unfold each
    rw [hj.log]
  | cons c rest ih =>
    intro us w
    unfold each
    dsimp only
    rw [hj.report, replace_projects ht hprocess]
    obtain ⟨f, _ | replacement, w₁⟩ :=
      replace t' process' c (j'.report .upgrading c.toText w)
    · exact fail_projects ht hj scope f us _ w₁
    · dsimp only
      rw [hj.report]
      exact ih _ _

include ht hj hprocess in
/-- The run. -/
theorem run_projects (scope : RollbackScope) (select : Selection) (w : τ) :
    run t j scope select process (π w)
      = ((run t' j' scope select process' w).1,
          π (run t' j' scope select process' w).2) := by
  unfold run
  rw [ht.load]
  obtain ⟨_ | cs, w₁⟩ := t'.load select w
  · rfl
  · dsimp only
    rw [hj.log]
    exact each_projects ht hj hprocess scope cs [] _

end Run

-- =============================================================== the site

/-- The interface on `τ` is the one on `σ`, seen through `π`. -/
structure EngineApi.Projects (api' : EngineApi τ) (π : τ → σ)
    (api : EngineApi σ) : Prop where
  list :
      ∀ all w, api.list all (π w)
        = ((api'.list all w).1, π (api'.list all w).2)
  inspect : ∀ id w,
    api.inspect id (π w) = ((api'.inspect id w).1, π (api'.inspect id w).2)
  stop : ∀ id secs w,
    api.stop id secs (π w)
      = ((api'.stop id secs w).1, π (api'.stop id secs w).2)
  remove : ∀ id force w, api.remove id force (π w)
    = ((api'.remove id force w).1, π (api'.remove id force w).2)
  create : ∀ name spec w, api.create name spec (π w)
    = ((api'.create name spec w).1, π (api'.create name spec w).2)
  start :
      ∀ id w, api.start id (π w) = ((api'.start id w).1, π (api'.start id w).2)

/-- An interface beside which every call is written down with its answer, as
`q` has it. -/
def EngineApi.recorded {ε : Type} (q : ApiCall → ε) (api : EngineApi σ) :
    EngineApi (σ × List ε) where
  list all := record (fun a _ => q (.list all a)) (api.list all)
  inspect id := record (fun a _ => q (.inspect id a)) (api.inspect id)
  stop id secs := record (fun a _ => q (.stop id secs a)) (api.stop id secs)
  remove id force :=
    record (fun a _ => q (.remove id force a)) (api.remove id force)
  create name spec :=
    record (fun a _ => q (.create name spec a)) (api.create name spec)
  start id := record (fun a _ => q (.start id a)) (api.start id)

theorem EngineApi.recorded_projects {ε : Type} (q : ApiCall → ε)
    (api : EngineApi σ) :
    (api.recorded q).Projects Prod.fst api := by
  constructor <;> intros <;> rfl

/-- The site on `τ` is the one on `σ`, seen through `π`. -/
structure Site.Projects (e' : Site τ) (π : τ → σ) (e : Site σ) : Prop where
  api : e'.api.Projects π e.api
  wait : ∀ secs w, e.attendant.wait secs (π w) = π (e'.attendant.wait secs w)
  log : ∀ line w, e.attendant.log line (π w) = π (e'.attendant.log line w)
  node : e'.node = e.node
  config : e'.config = e.config

namespace Site.Projects

variable {e' : Site τ} {e : Site σ}

theorem load (h : e'.Projects π e) (select : Selection) (w : τ) :
    e.load select (π w) = ((e'.load select w).1, π (e'.load select w).2) := by
  unfold Site.load
  rw [h.api.list, h.node]
  obtain ⟨_ | summaries, w₁⟩ := e'.api.list true w
  · rfl
  · dsimp only
    rw [h.log]

theorem resolve (h : e'.Projects π e) (c : Container) (w : τ) :
    e.resolve c (π w) = ((e'.resolve c w).1, π (e'.resolve c w).2) := by
  unfold Site.resolve
  rw [h.api.inspect]
  obtain ⟨_ | i, w₁⟩ := e'.api.inspect c.id w
  · rfl
  · rfl

theorem stop (h : e'.Projects π e) (c : Container) (w : τ) :
    e.stop c (π w) = ((e'.stop c w).1, π (e'.stop c w).2) := by
  unfold Site.stop
  rw [h.api.stop, h.config]

theorem remove (h : e'.Projects π e) (c : Container) (w : τ) :
    e.remove c (π w) = ((e'.remove c w).1, π (e'.remove c w).2) :=
  h.api.remove c.id false w

/-- A creation that is undone has three calls, and each of them commutes. -/
theorem create (h : e'.Projects π e) (c : Container) (w : τ) :
    e.create c (π w) = ((e'.create c w).1, π (e'.create c w).2) := by
  unfold Site.create
  cases c.config with
  | none => rfl
  | some spec =>
    dsimp only
    rw [h.api.create]
    obtain ⟨_ | id, w₁⟩ := e'.api.create c.name spec w
    · rfl
    dsimp only
    rw [h.api.start]
    obtain ⟨_ | _, w₂⟩ := e'.api.start id w₁
    · dsimp only
      rw [h.api.remove]
      obtain ⟨_ | _, w₃⟩ := e'.api.remove id true w₂
      · dsimp only
        rw [h.log]
      · rfl
    · rfl

/-- By induction on the looks that are left. -/
theorem checkFrom (h : e'.Projects π e) (c : Container) (attempts : Nat) :
    ∀ (left : Nat) (w : τ), e.checkFrom c attempts left (π w)
      = ((e'.checkFrom c attempts left w).1,
          π (e'.checkFrom c attempts left w).2) := by
  intro left
  induction left with
  | zero =>
    intro w
    unfold Site.checkFrom
    rw [h.api.inspect]
    obtain ⟨_ | i, w₁⟩ := e'.api.inspect c.id w
    · rfl
    dsimp only
    cases i.verdict with
    | some healthy => rfl
    | none =>
      dsimp only
      rw [h.log, h.log]
  | succ left ih =>
    intro w
    unfold Site.checkFrom
    rw [h.api.inspect]
    obtain ⟨_ | i, w₁⟩ := e'.api.inspect c.id w
    · rfl
    dsimp only
    cases i.verdict with
    | some healthy => rfl
    | none =>
      dsimp only
      rw [h.log, h.wait, h.config]
      exact ih _

theorem check (h : e'.Projects π e) (c : Container) (w : τ) :
    e.check c (π w) = ((e'.check c w).1, π (e'.check c w).2) := by
  unfold Site.check
  rw [h.config]
  exact h.checkFrom c _ _ w

theorem expel (h : e'.Projects π e) (c : Container) (w : τ) :
    e.expel c (π w) = ((e'.expel c w).1, π (e'.expel c w).2) := by
  unfold Site.expel
  rw [h.api.remove]
  obtain ⟨f | _, w₁⟩ := e'.api.remove c.id true w
  · dsimp only
    split <;> rfl
  · rfl

/-- So is what throws a replacement out, which may already be gone. -/
theorem discard (h : e'.Projects π e) (c : Container) (w : τ) :
    e.discard c (π w) = ((e'.discard c w).1, π (e'.discard c w).2) := by
  unfold Site.discard
  rw [h.api.stop, h.config]
  obtain ⟨f | _, w₁⟩ := e'.api.stop c.id e.config.stopTimeoutSecs w
  · dsimp only
    split
    · exact h.expel c w₁
    · rfl
  · exact h.expel c w₁

/-- To create a container anew is two calls and a line. -/
theorem recreate (h : e'.Projects π e) (c : Container) (w : τ) :
    e.recreate c (π w) = ((e'.recreate c w).1, π (e'.recreate c w).2) := by
  unfold Site.recreate
  cases c.config with
  | none => rfl
  | some spec =>
    dsimp only
    rw [h.api.create]
    obtain ⟨_ | id, w₁⟩ := e'.api.create c.name spec w
    · rfl
    dsimp only
    rw [h.api.start]
    obtain ⟨_ | _, w₂⟩ := e'.api.start id w₁
    · rfl
    · dsimp only
      rw [h.log]

theorem revive (h : e'.Projects π e) (c : Container) (removed : Bool) (w : τ) :
    e.revive c removed (π w)
      = ((e'.revive c removed w).1, π (e'.revive c removed w).2) := by
  cases removed with
  | true => exact h.recreate c w
  | false => exact h.api.start c.id w

/-- One trial of a rollback, in the state that is projected to. -/
theorem restore (h : e'.Projects π e) (c : Container) (r : Option Container)
    (removed : Bool) (w : τ) :
    e.restore c r removed (π w)
      = ((e'.restore c r removed w).1, π (e'.restore c r removed w).2) := by
  unfold Site.restore
  cases r with
  | none => exact h.revive c removed w
  | some r =>
    dsimp only
    rw [h.discard]
    obtain ⟨_ | _, w₁⟩ := e'.discard r w
    · rfl
    · exact h.revive c removed w₁

/-- By induction on the attempts. -/
theorem restoreAll (h : e'.Projects π e) (as : List Attempt) :
    ∀ w : τ, e.restoreAll as (π w)
      = ((e'.restoreAll as w).1, π (e'.restoreAll as w).2) := by
  induction as with
  | nil => exact fun w => rfl
  | cons a rest ih =>
    intro w
    unfold Site.restoreAll
    rw [h.restore]
    obtain ⟨f | _, w₁⟩ := e'.restore a.former a.replacement a.removed w
    · dsimp only
      rw [h.log, ih]
    · exact ih w₁

theorem rollback (h : e'.Projects π e) (p : RollbackPlan) (w : τ) :
    e.rollback p (π w) = ((e'.rollback p w).1, π (e'.rollback p w).2) := by
  unfold Site.rollback
  rw [h.restoreAll]
  obtain ⟨_ | _, w₁⟩ := e'.restoreAll (attempts p) w
  · rfl
  · rfl

/-- The steps of an upgrade at the site. -/
theorem operations (h : e'.Projects π e) :
    e'.operations.Projects π e.operations where
  load := h.load
  resolve := h.resolve
  stop := h.stop
  remove := h.remove
  create := h.create
  check := h.check
  rollback := h.rollback

end Site.Projects

end Fleetkeeper
