/-
The order in which a run does things: one load, then one container after the
other, each through the same six calls between two reports, and nothing
behind the first call that fails but one report of it and at most one
rollback.

# The trace and its grammar

A trace has everything a run does that others can see: every call of a step
or of the processor, with its argument and its answer, and every report. It
is written by the steps themselves, beside the world (`Recorder.trace`), and
the run that writes it is the plain run.

What the trace has to look like is said without the run. `upgradeCalls` lists
the calls for one container, given what it is resolved as, made into and
created as; that is where it says who gets what from whom. A whole turn makes
all of them. A broken one makes some of them, then asks for the next and is
refused (`BrokenTurn`), whichever call that is. `Sequential` puts turns
behind one another, one for each container in the order they were loaded, and
lets a broken one be the last.

# Why it holds

What one container writes is known (`wrote_of_passed`, `wrote_of_failed`), and
wherever its upgrade breaks off, that is before the next of its calls
(`BreaksOff.cut`). The loop only adds turns behind those already there, which
is the induction in `turns_of_passing`.
-/
import Fleetkeeper.Proofs.Upgrade.Recording
import Mathlib.Data.List.Forall2

namespace Fleetkeeper

open Rolling

variable {σ : Type} {t : Operations σ} {j : Job σ} {process : Processor σ}

-- ============================================================== the trace

/-- Something that happens in a run: a call with its answer, or a report. -/
inductive Occurrence where
  | call (x : Call)
  | report (p : Progress) (subject : String)

/-- The trace of a run as its steps write it: every call, and every report. -/
def Recorder.trace : Recorder σ Occurrence where
  call x _ := .call x
  report p subject _ := [.report p subject]

open Recorder (trace step_eq)

/-- The run with its trace. -/
def tracedRun (t : Operations σ) (j : Job σ) (scope : RollbackScope)
    (select : Selection) (process : Processor σ) (s : σ) :
    Except Fault Outcome × σ × List Occurrence :=
  trace.run t j scope select process s

/-- The occurrences that calls are written as. -/
theorem occurrences_of_wrote {calls : List Call} {w w' : σ × List Occurrence}
    (h : trace.Wrote w calls w') : w'.2 = w.2 ++ calls.map .call := by
  induction h with
  | nothing => exact (List.append_nil w.2).symm
  | snoc _ hx ih =>
    rw [hx, ih, List.map_append, List.append_assoc]
    rfl

-- ======================================================== what it looks like

/-- What a call asks for, less its answer. -/
inductive Ask where
  | load
  | takeUp (subject : String)
  | resolve (c : Container)
  | stop (c : Container)
  | remove (c : Container)
  | transform (c : Container)
  | create (c : Container)
  | check (c : Container)
  | rollback (p : RollbackPlan)
deriving DecidableEq

/-- What a call asks for. -/
def Call.ask : Call → Ask
  | load _ => .load
  | takeUp subject => .takeUp subject
  | resolve c _ => .resolve c
  | stop c _ => .stop c
  | remove c _ => .remove c
  | transform c _ => .transform c
  | create c _ => .create c
  | check c _ => .check c
  | rollback p _ => .rollback p

/-- The turn of a container that is upgraded. -/
def WholeTurn (c : Container) (turn : List Occurrence) : Prop :=
  ∃ r d n, turn = .report .upgrading c.toText
    :: ((upgradeCalls c r d n).map .call ++ [.report .upgraded c.toText])

/-- What stands behind the call that failed: the report of it, and a rollback
if that is what it says. -/
inductive Closing (c : Container) : List Occurrence → Prop where
  | abandoned : Closing c [.report .failed c.toText]
  | rolledBack (p : RollbackPlan) (a : Except Fault Unit) :
      Closing c [.report .rollingBack c.toText, .call (.rollback p a)]

/-- The turn of a container that fails: the calls of an upgrade up to the
first that fails, and the closing. -/
def BrokenTurn (c : Container) (turn : List Occurrence) : Prop :=
  ∃ r d n done y x e closing, done ++ [y] <+: upgradeCalls c r d n
    ∧ x.ask = y.ask ∧ x.fault? = some e ∧ Closing c closing
    ∧ turn = .report .upgrading c.toText
        :: ((done ++ [x]).map .call ++ closing)

/-- Turns of containers one behind the other, in their order: whole ones of
all of them, or whole ones up to a container that fails and a broken one of
that. Of the containers behind it there is none. -/
def Sequential (cs : List Container) (trace : List Occurrence) : Prop :=
  (∃ turns, List.Forall₂ WholeTurn cs turns ∧ trace = turns.flatten)
    ∨ ∃ before c after turns turn, cs = before ++ c :: after
        ∧ List.Forall₂ WholeTurn before turns ∧ BrokenTurn c turn
        ∧ trace = turns.flatten ++ turn

-- ========================================================= one container

/-- An upgrade breaks off at one of its calls, behind those before it. Where
that is before a container was made, which one it would have been is left
open, so any will do. -/
theorem BreaksOff.cut {c : Container} {done : List Call} {x : Call}
    {f : InFlight} {e : Fault} (h : BreaksOff c done x f e) :
    ∃ r d n y, done ++ [y] <+: upgradeCalls c r d n ∧ x.ask = y.ask := by
  have hcut : ∀ r d n k,
      (upgradeCalls c r d n).take k <+: upgradeCalls c r d n :=
    fun r d n k => List.take_prefix k _
  cases h with
  | unresolved => exact ⟨c, c, c, .resolve c (.ok c), hcut c c c 1, rfl⟩
  | @unstopped r => exact ⟨r, r, r, .stop c (.ok ()), hcut r r r 2, rfl⟩
  | @unremoved r => exact ⟨r, r, r, .remove c (.ok ()), hcut r r r 3, rfl⟩
  | @untransformed r =>
    exact ⟨r, r, r, .transform r (.ok r), hcut r r r 4, rfl⟩
  | @uncreated r d => exact ⟨r, d, d, .create d (.ok d), hcut r d d 5, rfl⟩
  | @unchecked r d n | @unhealthy r d n =>
    exact ⟨r, d, n, .check n (.ok true), hcut r d n 6, rfl⟩

-- ================================================================ the loop

/-- Containers that pass add their turns, one behind the other. By induction
along the chain: what comes behind a container is added behind its turn. -/
theorem turns_of_passing {cs : List Container} {us : List Upgraded}
    {w w' : σ × List Occurrence}
    (h : Passes (trace.operations t) (trace.job j) (trace.processor process)
      cs us w w') :
    ∃ turns, List.Forall₂ WholeTurn cs turns
      ∧ w'.2 = w.2 ++ turns.flatten := by
  induction h with
  | @nil w => exact ⟨[], .nil, (List.append_nil w.2).symm⟩
  | @cons c n cs f us w w₁ w' hcourse _ ih =>
    obtain ⟨r, d, -, hwrote⟩ := wrote_of_passed hcourse
    have hcalls := occurrences_of_wrote hwrote
    obtain ⟨turns, hturns, hrest⟩ := ih
    have hreported : ((trace.job j).report .upgraded c.toText w₁).2
        = w.2 ++ .report .upgrading c.toText
            :: ((upgradeCalls c r d n).map .call
              ++ [.report .upgraded c.toText]) := by
      show w₁.2 ++ [_] = _
      rw [hcalls]
      show (w.2 ++ [_]) ++ _ ++ [_] = _
      simp only [List.append_assoc, List.cons_append, List.nil_append]
    refine ⟨_ :: turns, .cons ⟨r, d, n, rfl⟩ hturns, ?_⟩
    rw [hrest, hreported, List.append_assoc, List.flatten_cons]

/-- A container that fails behind others that passed adds a broken turn, once
the closing is there. -/
theorem sequential_of_failed {cs before after : List Container}
    {c : Container} {us : List Upgraded} {f : InFlight} {e : Fault}
    {w w₁ w₂ : σ × List Occurrence} {closing : List Occurrence}
    (hcs : cs = before ++ c :: after)
    (hpass : Passes (trace.operations t) (trace.job j)
      (trace.processor process) before us w w₁)
    (hcourse : Course (trace.operations t) (trace.processor process) c
      ((trace.job j).report .upgrading c.toText w₁) f (.error e) w₂)
    (hclosing : Closing c closing) :
    ∃ trace, w₂.2 ++ closing = w.2 ++ trace ∧ Sequential cs trace := by
  obtain ⟨turns, hturns, hpast⟩ := turns_of_passing hpass
  obtain ⟨done, x, w', hbreaks, hwrote, hlast⟩ := wrote_of_failed hcourse
  obtain ⟨r, d, n, y, hdone, hask⟩ := hbreaks.cut
  have hturn : BrokenTurn c (.report .upgrading c.toText
      :: ((done ++ [x]).map .call ++ closing)) :=
    ⟨r, d, n, done, y, x, e, closing, hdone, hask, hbreaks.fault.1, hclosing,
      rfl⟩
  refine ⟨_, ?_, Or.inr ⟨before, c, after, turns, _, hcs, hturns, hturn, rfl⟩⟩
  rw [hlast, occurrences_of_wrote hwrote]
  show (w₁.2 ++ [_]) ++ _ ++ [_] ++ closing = _
  rw [hpast, List.map_append]
  simp only [List.append_assoc, List.cons_append, List.nil_append]
  rfl

/-- Every ending adds turns in sequence. -/
theorem sequential_of_ending {scope : RollbackScope} {cs : List Container}
    {w w' : σ × List Occurrence} {r : Except Fault Outcome}
    (h : Ending (trace.operations t) (trace.job j) scope
      (trace.processor process) cs w r w') :
    ∃ trace, w'.2 = w.2 ++ trace ∧ Sequential cs trace := by
  cases h with
  | completed hpass =>
    obtain ⟨turns, hturns, hpast⟩ := turns_of_passing hpass
    exact ⟨turns.flatten, hpast, Or.inl ⟨turns, hturns, rfl⟩⟩
  | @abandoned before after c us f e w₁ w₂ line hcs hpass hcourse hoff =>
    exact sequential_of_failed hcs hpass hcourse .abandoned
  | @rolledBack before after c us f e w₁ w₂ w' line a hcs hpass hcourse hon
      hrollback =>
    obtain ⟨trace, htrace, hseq⟩ := sequential_of_failed hcs hpass hcourse
      (.rolledBack (planOf scope f us) a)
    have hcall : w'.2 = (w₂.2 ++ [.report .rollingBack c.toText])
        ++ [.call (.rollback _ a)] := step_eq hrollback
    refine ⟨trace, ?_, hseq⟩
    rw [← htrace, hcall, List.append_assoc]
    rfl

-- ================================================================= the run

/-- A run does one thing after another, and stops at the first that fails.
Its trace, written beside the plain run, is one load and nothing else where
that fails, which is then the result; else the load is followed by turns in
sequence of the containers that were loaded. -/
theorem run_sequential (t : Operations σ) (j : Job σ) (scope : RollbackScope)
    (select : Selection) (process : Processor σ) (s : σ) :
    let out := tracedRun t j scope select process s
    run t j scope select process s = (out.1, out.2.1)
      ∧ (∀ e, (t.load select s).1 = .error e →
          out.1 = .error e ∧ out.2.2 = [.call (.load (.error e))])
      ∧ ∀ cs, (t.load select s).1 = .ok cs →
          ∃ trace, out.2.2 = .call (.load (.ok cs)) :: trace
            ∧ Sequential cs trace := by
  intro out
  refine ⟨trace.run_projects t j scope select process s, ?_⟩
  obtain ⟨r, w, hout⟩ : ∃ r w, out = (r, w) := ⟨_, _, rfl⟩
  rw [hout]
  rcases ending_of_run hout with ⟨x, hload, rfl⟩ | ⟨cs, w₁, line, hload, hend⟩
  · have hanswer : (t.load select s).1 = .error x := congrArg Prod.fst hload
    have htrace := step_eq hload
    rw [hanswer]
    refine ⟨?_, ?_⟩
    · intro e he
      cases he
      exact ⟨rfl, htrace⟩
    · intro cs hcs
      cases hcs
  · have hanswer : (t.load select s).1 = .ok cs := congrArg Prod.fst hload
    have htrace := step_eq hload
    obtain ⟨trace, hrest, hseq⟩ := sequential_of_ending hend
    rw [hanswer]
    refine ⟨?_, ?_⟩
    · intro e he
      cases he
    · intro cs' hcs
      cases hcs
      refine ⟨trace, ?_, hseq⟩
      rw [hrest]
      show w₁.2 ++ trace = _
      rw [htrace]
      rfl

end Fleetkeeper
