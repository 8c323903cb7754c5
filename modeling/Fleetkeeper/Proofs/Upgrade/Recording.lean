/-
A run that writes down what it does. Which steps there are to write down is
said here once, and so is that writing changes nothing. A `Recorder` says what
is written: an entry for each call, and entries for a report, if any.

# What a run writes

The world of such a run is a world with a list beside it. Seen without the
list, every step is the plain step, so the run is the plain run
(`Recorder.run_projects`). What stands in the list was put there by the steps
themselves, not by the run: it is held against what the run says of itself.

# What one container writes

The upgrade of a container is six calls, one after the other
(`upgradeCalls`). It makes all of them (`wrote_of_passed`), or it makes some
and breaks off at the next. `BreaksOff` lists where that can be, and what is
noted of the container by then, with no world in it; so what is true of a
container that fails is read off seven cases of calls, whatever the recorder
writes for them (`wrote_of_failed`).
-/
import Fleetkeeper.Proofs.Upgrade.Course
import Fleetkeeper.Proofs.Upgrade.Projection

namespace Fleetkeeper

open Rolling

variable {σ ε : Type}

-- ================================================================= calls

/-- A call of a run with its answer. -/
inductive Call where
  | load (answer : Except Fault (List Container))
  /-- A container is taken up. -/
  | takeUp (subject : String)
  | resolve (c : Container) (answer : Except Fault Container)
  | stop (c : Container) (answer : Except Fault Unit)
  | remove (c : Container) (answer : Except Fault Unit)
  | transform (c : Container) (answer : Except Fault Container)
  | create (c : Container) (answer : Except Fault Container)
  | check (c : Container) (answer : Except Fault Bool)
  | rollback (p : RollbackPlan) (answer : Except Fault Unit)

namespace Call

/-- A container that was to be resolved, and as what it was. -/
@[simp] def resolution? : Call → Option (Container × Except Fault Container)
  | resolve c a => some (c, a)
  | _ => none

/-- Whether a container was removed. -/
@[simp] def removal? : Call → Option (Except Fault Unit)
  | remove _ a => some a
  | _ => none

/-- The container that was created. -/
@[simp] def creation? : Call → Option (Except Fault Container)
  | create _ a => some a
  | _ => none

/-- A container that was looked at, and whether it was healthy. -/
@[simp] def examination? : Call → Option (Container × Except Fault Bool)
  | check c a => some (c, a)
  | _ => none

/-- The plan that a rollback got, and what came of it. -/
@[simp] def request? : Call → Option (RollbackPlan × Except Fault Unit)
  | rollback p a => some (p, a)
  | _ => none

/-- The stage that a container has reached by a step that succeeded. -/
@[simp] def stage? : Call → Option Stage
  | resolve _ (.ok _) => some .configResolved
  | stop _ (.ok _) => some .stopped
  | remove _ (.ok _) => some .removed
  | transform _ (.ok _) => some .transformed
  | create _ (.ok _) => some .created
  | check _ (.ok _) => some .healthChecked
  | _ => none

/-- The fault by which a container fails: that of a step, or that it was not
found healthy. -/
@[simp] def fault? : Call → Option Fault
  | resolve _ (.error e) => some e
  | stop _ (.error e) => some e
  | remove _ (.error e) => some e
  | transform _ (.error e) => some e
  | create _ (.error e) => some e
  | check _ (.error e) => some e
  | check c (.ok false) => some (.healthCheckFailed c.id)
  | _ => none

/-- Whether a turn begins. -/
@[simp] def opens : Call → Bool
  | takeUp _ => true
  | _ => false

end Call

-- ============================================================= recording

/-- What is written down: for a call an entry, from the world behind it, and
for a report the entries that it is worth. -/
structure Recorder (σ ε : Type) where
  call : Call → σ → ε
  report : Progress → String → σ → List ε

namespace Recorder

variable (k : Recorder σ ε)

/-- A call that is written down. -/
def step {α : Type} (q : α → Call) (f : σ → α × σ) :
    σ × List ε → α × σ × List ε :=
  record (fun a s => k.call (q a) s) f

/-- Operations whose calls are written down. -/
def operations (t : Operations σ) : Operations (σ × List ε) where
  load select := k.step .load (t.load select)
  resolve c := k.step (.resolve c) (t.resolve c)
  stop c := k.step (.stop c) (t.stop c)
  remove c := k.step (.remove c) (t.remove c)
  create c := k.step (.create c) (t.create c)
  check c := k.step (.check c) (t.check c)
  rollback p := k.step (.rollback p) (t.rollback p)

/-- A processor whose calls are written down. -/
def processor (process : Processor σ) : Processor (σ × List ε) :=
  fun c => k.step (.transform c) (process c)

/-- A job whose reports are written down. -/
def job (j : Job σ) : Job (σ × List ε) where
  rollbackEnabled w := j.rollbackEnabled w.1
  report p subject w :=
    let s := j.report p subject w.1
    (s, w.2 ++ k.report p subject s)
  log line w := (j.log line w.1, w.2)

/-- The run with what it has written down. -/
def run (t : Operations σ) (j : Job σ) (scope : RollbackScope)
    (select : Selection) (process : Processor σ) (s : σ) :
    Except Fault Outcome × σ × List ε :=
  Rolling.run (k.operations t) (k.job j) scope select (k.processor process)
    (s, [])

/-- The run that writes is the run. -/
theorem run_projects (t : Operations σ) (j : Job σ) (scope : RollbackScope)
    (select : Selection) (process : Processor σ) (s : σ) :
    Rolling.run t j scope select process s
      = ((k.run t j scope select process s).1,
          (k.run t j scope select process s).2.1) := by
  have ht : (k.operations t).Projects Prod.fst t := by
    constructor <;> intros <;> rfl
  have hj : (k.job j).Projects Prod.fst j := by
    constructor <;> intros <;> rfl
  have hprocess : (k.processor process).Projects Prod.fst process := by
    intro c w
    rfl
  exact Fleetkeeper.run_projects ht hj hprocess scope select (s, [])

variable {k}

/-- A call is written behind what was there. -/
theorem step_eq {α : Type} {q : α → Call} {f : σ → α × σ}
    {w w' : σ × List ε} {a : α} (h : k.step q f w = (a, w')) :
    w'.2 = w.2 ++ [k.call (q a) w'.1] :=
  record_eq (q := fun a s => k.call (q a) s) h

/-- From `w` to `w'` these calls were written down, one behind the other, and
nothing else. -/
inductive Wrote (k : Recorder σ ε) (w : σ × List ε) :
    List Call → σ × List ε → Prop where
  | nothing : Wrote k w [] w
  | snoc {calls : List Call} {x : Call} {w₁ w' : σ × List ε}
      (h : Wrote k w calls w₁) (hx : w'.2 = w₁.2 ++ [k.call x w'.1]) :
      Wrote k w (calls ++ [x]) w'

theorem Wrote.step {w w₁ w' : σ × List ε} {calls : List Call} {α : Type}
    {q : α → Call} {f : σ → α × σ} {a : α} (h : Wrote k w calls w₁)
    (hstep : k.step q f w₁ = (a, w')) : Wrote k w (calls ++ [q a]) w' :=
  h.snoc (step_eq hstep)

end Recorder

-- ========================================================= one container

/-- The calls that upgrade `c`, which is resolved as `r`, made into `d` and
created as `n`: the container as loaded is resolved, stopped and removed, the
processor gets it as resolved, what the processor made of it is created, and
what was created is checked. -/
def upgradeCalls (c r d n : Container) : List Call :=
  [.resolve c (.ok r), .stop c (.ok ()), .remove c (.ok ()),
   .transform r (.ok d), .create d (.ok n), .check n (.ok true)]

/-- The upgrade of `c` breaks off: the calls that did what they should, the
one that failed, what is noted of the container by then, and the fault. -/
inductive BreaksOff (c : Container) :
    List Call → Call → InFlight → Fault → Prop where
  | unresolved {e : Fault} :
      BreaksOff c [] (.resolve c (.error e)) ⟨c, none, none, .selected⟩ e
  | unstopped {r : Container} {e : Fault} :
      BreaksOff c [.resolve c (.ok r)] (.stop c (.error e))
        ⟨c, some r, none, .configResolved⟩ e
  | unremoved {r : Container} {e : Fault} :
      BreaksOff c [.resolve c (.ok r), .stop c (.ok ())]
        (.remove c (.error e)) ⟨c, some r, none, .stopped⟩ e
  | untransformed {r : Container} {e : Fault} :
      BreaksOff c [.resolve c (.ok r), .stop c (.ok ()), .remove c (.ok ())]
        (.transform r (.error e)) ⟨c, some r, none, .removed⟩ e
  | uncreated {r d : Container} {e : Fault} :
      BreaksOff c [.resolve c (.ok r), .stop c (.ok ()), .remove c (.ok ()),
          .transform r (.ok d)]
        (.create d (.error e)) ⟨c, some r, none, .transformed⟩ e
  | unchecked {r d n : Container} {e : Fault} :
      BreaksOff c [.resolve c (.ok r), .stop c (.ok ()), .remove c (.ok ()),
          .transform r (.ok d), .create d (.ok n)]
        (.check n (.error e)) ⟨c, some r, some n, .created⟩ e
  | unhealthy {r d n : Container} :
      BreaksOff c [.resolve c (.ok r), .stop c (.ok ()), .remove c (.ok ()),
          .transform r (.ok d), .create d (.ok n)]
        (.check n (.ok false)) ⟨c, some r, some n, .healthChecked⟩
        (.healthCheckFailed n.id)

/-- The call at which an upgrade breaks off fails, and no call before it. -/
theorem BreaksOff.fault {c : Container} {done : List Call} {x : Call}
    {f : InFlight} {e : Fault} (h : BreaksOff c done x f e) :
    x.fault? = some e ∧ done.filterMap Call.fault? = [] := by
  cases h <;> exact ⟨rfl, rfl⟩

section Course

open Recorder (step_eq Wrote)

variable {t : Operations σ} {process : Processor σ} {k : Recorder σ ε}
  {c n : Container} {f : InFlight} {e : Fault} {w w' : σ × List ε}

/-- A container that passes writes the calls of an upgrade. -/
theorem wrote_of_passed
    (h : Course (k.operations t) (k.processor process) c w f (.ok n) w') :
    ∃ r d, f = ⟨c, some r, some n, .healthChecked⟩
      ∧ Wrote k w (upgradeCalls c r d n) w' := by
  cases h with
  | @replaced r d _ _ _ _ _ _ _ hresolve hstop hremove hprocess hcreate
      hcheck =>
    have hremoved := ((Wrote.nothing.step hresolve).step hstop).step hremove
    have hcreated := (hremoved.step hprocess).step hcreate
    exact ⟨r, d, rfl, hcreated.step hcheck⟩

/-- A container that fails writes the calls up to the one at which its upgrade
breaks off, and then that one. -/
theorem wrote_of_failed
    (h : Course (k.operations t) (k.processor process) c w f (.error e) w') :
    ∃ done x w₁, BreaksOff c done x f e ∧ Wrote k w done w₁
      ∧ w'.2 = w₁.2 ++ [k.call x w'.1] := by
  cases h with
  | unresolved hresolve =>
    exact ⟨_, _, _, .unresolved, .nothing, step_eq hresolve⟩
  | unstopped hresolve hstop =>
    have hresolved := Wrote.nothing.step hresolve
    exact ⟨_, _, _, .unstopped, hresolved, step_eq hstop⟩
  | unremoved hresolve hstop hremove =>
    have hstopped := (Wrote.nothing.step hresolve).step hstop
    exact ⟨_, _, _, .unremoved, hstopped, step_eq hremove⟩
  | untransformed hresolve hstop hremove hprocess =>
    have hremoved := ((Wrote.nothing.step hresolve).step hstop).step hremove
    exact ⟨_, _, _, .untransformed, hremoved, step_eq hprocess⟩
  | uncreated hresolve hstop hremove hprocess hcreate =>
    have hremoved := ((Wrote.nothing.step hresolve).step hstop).step hremove
    exact ⟨_, _, _, .uncreated, hremoved.step hprocess, step_eq hcreate⟩
  | unchecked hresolve hstop hremove hprocess hcreate hcheck =>
    have hremoved := ((Wrote.nothing.step hresolve).step hstop).step hremove
    have hcreated := (hremoved.step hprocess).step hcreate
    exact ⟨_, _, _, .unchecked, hcreated, step_eq hcheck⟩
  | unhealthy hresolve hstop hremove hprocess hcreate hcheck =>
    have hremoved := ((Wrote.nothing.step hresolve).step hstop).step hremove
    have hcreated := (hremoved.step hprocess).step hcreate
    exact ⟨_, _, _, .unhealthy, hcreated, step_eq hcheck⟩

end Course

end Fleetkeeper
