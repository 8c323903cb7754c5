/-
The outcome of a run tells the truth: what a run returns, and the plan that
a rollback gets, agree with the history of the calls that were made.

# What is held against what

The result and the plan are put together from what `replace` notes on its
way: fields that are set at different points of a function that may return
early at any of them. The history is written by the steps themselves. So a
stage that is noted too early, a replacement that is forgotten or a switch
that is read at another moment would show as a difference between the two.

Nothing is assumed of the steps, the processor or the job. Steps may depend
on each other and on all that was done before, containers may be listed
twice, and the rollback switch may be flipped by anything at any time; what
counts is what it says in the world behind the step that failed.
-/
import Fleetkeeper.Proofs.Upgrade.History

namespace Fleetkeeper

open Rolling
open Recorder (history step_eq)

variable {σ : Type} {t : Operations σ} {j : Job σ} {process : Processor σ}

/-- The result of a run over `cs` agrees with its history. -/
structure Truthful (j : Job σ) (scope : RollbackScope) (cs : List Container)
    (r : Except Fault Outcome) (h : List (Entry σ)) : Prop where
  /-- A run that says it has completed has upgraded every container, in
  order, to what it says; every check was passed, and nothing rolled back. -/
  completed : ∀ us, r = .ok (.completed us) →
    us.length = cs.length ∧ AttestsAll (turns h) cs us
      ∧ (∀ c a, (c, a) ∈ asked Call.examination? h → a = .ok true)
      ∧ asked Call.request? h = []
  /-- A container that fails has the last turn, and those before it were
  upgraded. If the switch is on behind the step that failed, the rollback
  gets one plan, which describes this, and decides the result; else there is
  none, and the result is the fault. -/
  failed : ∀ x ∈ h, ∀ cause, x.call.fault? = some cause →
    ∃ before c after us ts turn, cs = before ++ c :: after
      ∧ turns h = ts ++ [turn] ∧ AttestsAll ts before us ∧ x ∈ turn
      ∧ (j.rollbackEnabled x.after = true →
          ∃ p a, Describes p scope us c turn ∧ asked Call.request? h = [(p, a)]
            ∧ r = a.map fun _ => .rolledBack p cause)
      ∧ (j.rollbackEnabled x.after = false →
          asked Call.request? h = [] ∧ r = .error cause)
  /-- Where no container fails, the run completes. -/
  ended : (∃ us, r = .ok (.completed us)) ∨ ∃ x ∈ h, x.call.fault?.isSome

-- ========================================================= a run completes

/-- A history in which all turns attest upgrades bears out that the run
completed. -/
theorem truthful_of_passes {scope : RollbackScope} {cs : List Container}
    {us : List Upgraded} {load : Entry σ} {ts : List (List (Entry σ))}
    {past : List (Entry σ)} {a : Except Fault (List Container)}
    (hload : load.call = .load a) (hopened : Opened ts past)
    (hattests : AttestsAll ts cs us) :
    Truthful j scope cs (.ok (.completed us)) (load :: past) := by
  obtain ⟨hfaults, hrequests, hchecks⟩ := hattests.quiet
  have hturns : turns ([load] ++ past) = ts :=
    hopened.turns_eq (by simp [hload])
  refine ⟨?_, ?_, Or.inl ⟨us, rfl⟩⟩
  · intro us' hus
    cases hus
    refine ⟨hattests.length_eq, hturns ▸ hattests, ?_, ?_⟩
    · intro c a' hin
      rw [asked_cons, hload, hopened.asked_eq (fun _ => rfl), hchecks] at hin
      obtain ⟨u, -, heq⟩ := List.mem_map.1 hin
      cases heq
      rfl
    · rw [asked_cons, hload, hopened.asked_eq (fun _ => rfl), hrequests]
      rfl
  · intro x hx cause hcause
    have hfault : cause ∈ asked Call.fault? (load :: past) :=
      mem_asked.2 ⟨x, hx, hcause⟩
    rw [asked_cons, hload, hopened.asked_eq (fun _ => rfl), hfaults] at hfault
    cases hfault

-- ======================================================= a container fails

/-- An entry that is the answer of a rollback. -/
def Entry.IsRollback (x : Entry σ) : Prop := ∃ p a, x.call = .rollback p a

/-- Rollbacks answer no question about steps. -/
theorem asked_rollbacks {β : Type} {q : Call → Option β}
    (hq : ∀ p a, q (.rollback p a) = none) {h : List (Entry σ)}
    (hall : ∀ x ∈ h, x.IsRollback) : asked q h = [] := by
  rw [List.eq_nil_iff_forall_not_mem]
  intro b hb
  obtain ⟨x, hx, hb⟩ := mem_asked.1 hb
  obtain ⟨p, a, hcall⟩ := hall x hx
  rw [hcall, hq] at hb
  cases hb

/-- A plan that describes a turn describes it with the rollback too. -/
theorem Describes.append {p : RollbackPlan} {scope : RollbackScope}
    {us : List Upgraded} {c : Container} {turn closing : List (Entry σ)}
    (h : Describes p scope us c turn) (hall : ∀ x ∈ closing, x.IsRollback) :
    Describes p scope us c (turn ++ closing) := by
  obtain ⟨hscope, hupgraded, hformer, hstage, hreplacement, hremoved⟩ := h
  have hkept : ∀ {β : Type} {q : Call → Option β},
      (∀ p a, q (.rollback p a) = none) →
      asked q (turn ++ closing) = asked q turn := by
    intro β q hq
    rw [asked_append, asked_rollbacks hq hall, List.append_nil]
  refine ⟨hscope, hupgraded, ?_, ?_, ?_, ?_⟩
  · rw [hkept fun _ _ => rfl]
    exact hformer
  · rw [hkept fun _ _ => rfl]
    exact hstage
  · rw [hkept fun _ _ => rfl]
    exact hreplacement
  · rw [hkept fun _ _ => rfl]
    exact hremoved

/-- The only fault in a turn that failed is that of its last step. -/
theorem TurnOf.eq_last {turn : List (Entry σ)} {c : Container} {f : InFlight}
    {e cause : Fault} {s : σ} (h : TurnOf turn c f (.error e) s) {x : Entry σ}
    (hx : x ∈ turn) (hcause : x.call.fault? = some cause) :
    cause = e ∧ x.after = s := by
  obtain ⟨steps, y, rfl, hy, hafter, hsteps⟩ := h.failed e rfl
  rcases List.mem_append.1 hx with hx | hx
  · have hfault : cause ∈ asked Call.fault? steps :=
      mem_asked.2 ⟨x, hx, hcause⟩
    rw [hsteps] at hfault
    cases hfault
  · rw [List.mem_singleton.1 hx] at hcause ⊢
    rw [hy] at hcause
    cases hcause
    exact ⟨rfl, hafter⟩

/-- A history in which all turns but the last attest upgrades and the last
one failed bears out how the run ended. The entries `closing` behind the
failure are those of a rollback, if there was one. -/
theorem truthful_of_failure {scope : RollbackScope}
    {cs before after : List Container} {c : Container} {us : List Upgraded}
    {f : InFlight} {e : Fault} {s s₀ : σ} {load : Entry σ} {subject : String}
    {ts : List (List (Entry σ))} {past turn closing : List (Entry σ)}
    {l : Except Fault (List Container)} {r : Except Fault Outcome}
    (hload : load.call = .load l) (hcs : cs = before ++ c :: after)
    (hopened : Opened ts past) (hattests : AttestsAll ts before us)
    (hturn : TurnOf turn c f (.error e) s)
    (hclosing : ∀ x ∈ closing, x.IsRollback)
    (hon : j.rollbackEnabled s = true →
      ∃ a, asked Call.request? closing = [(planOf scope f us, a)]
        ∧ r = a.map fun _ => .rolledBack (planOf scope f us) e)
    (hoff : j.rollbackEnabled s = false →
      asked Call.request? closing = [] ∧ r = .error e) :
    Truthful j scope cs r
      (load :: (past ++ ⟨.takeUp subject, s₀⟩ :: (turn ++ closing))) := by
  obtain ⟨hfaults, hrequests, -⟩ := hattests.quiet
  have hclosed : ∀ x ∈ turn ++ closing, x.call.opens = false := by
    intro x hx
    rcases List.mem_append.1 hx with hx | hx
    · exact hturn.closed x hx
    · obtain ⟨p, a, hcall⟩ := hclosing x hx
      rw [hcall]
      rfl
  have hall : Opened (ts ++ [turn ++ closing])
      (past ++ ⟨.takeUp subject, s₀⟩ :: (turn ++ closing)) :=
    hopened.snoc hclosed
  have hasked : asked Call.request?
        (load :: (past ++ ⟨.takeUp subject, s₀⟩ :: (turn ++ closing)))
      = asked Call.request? closing := by
    rw [asked_cons, hload, hall.asked_eq (fun _ => rfl)]
    simp [hrequests, hturn.unrolled]
  have hturns : turns ([load]
        ++ (past ++ ⟨.takeUp subject, s₀⟩ :: (turn ++ closing)))
      = ts ++ [turn ++ closing] :=
    hall.turns_eq (by simp [hload])
  refine ⟨?_, ?_, ?_⟩
  · -- a failure never ends in a completed run
    intro us' hr
    cases hswitch : j.rollbackEnabled s with
    | true =>
      obtain ⟨a, -, hr'⟩ := hon hswitch
      rw [hr'] at hr
      cases a <;> cases hr
    | false =>
      rw [(hoff hswitch).2] at hr
      cases hr
  · intro x hx cause hcause
    have hin : x ∈ turn := by
      rcases List.mem_cons.1 hx with rfl | hx
      · rw [hload] at hcause
        cases hcause
      rcases List.mem_append.1 hx with hx | hx
      · have hfault := mem_asked.2 ⟨x, hx, hcause⟩
        rw [hopened.asked_eq (fun _ => rfl), hfaults] at hfault
        cases hfault
      rcases List.mem_cons.1 hx with rfl | hx
      · cases hcause
      rcases List.mem_append.1 hx with hx | hx
      · exact hx
      · obtain ⟨p, a, hcall⟩ := hclosing x hx
        rw [hcall] at hcause
        cases hcause
    obtain ⟨rfl, rfl⟩ := hturn.eq_last hin hcause
    refine ⟨before, c, after, us, ts, turn ++ closing, hcs, hturns, hattests,
      List.mem_append_left _ hin, ?_, ?_⟩
    · intro hswitch
      obtain ⟨a, hrequest, hr⟩ := hon hswitch
      exact ⟨_, a, (hturn.described scope us).append hclosing,
        hasked.trans hrequest, hr⟩
    · intro hswitch
      exact ⟨hasked.trans (hoff hswitch).1, (hoff hswitch).2⟩
  · obtain ⟨steps, x, rfl, hx, -, -⟩ := hturn.failed e rfl
    exact Or.inr ⟨x, by simp, by rw [hx]; rfl⟩

-- ================================================================ the run

/-- The history behind a container that failed: its turn stands behind those
of the containers that passed. -/
theorem history_of_failure {before : List Container} {us : List Upgraded}
    {c : Container} {f : InFlight} {e : Fault} {load : Entry σ}
    {line : LogLine} {w w₁ w₂ : σ × List (Entry σ)} (hw : w.2 = [load])
    (hpass : Passes (history.operations t) (history.job j)
      (history.processor process) before us ((history.job j).log line w) w₁)
    (hcourse : Course (history.operations t) (history.processor process) c
      ((history.job j).report .upgrading c.toText w₁) f (.error e) w₂) :
    ∃ ts past turn s, Opened ts past ∧ AttestsAll ts before us
      ∧ TurnOf turn c f (.error e) w₂.1
      ∧ w₂.2 = load :: (past ++ ⟨.takeUp c.toText, s⟩ :: turn) := by
  obtain ⟨ts, past, hpast, hopened, hattests⟩ := turns_of_passes hpass
  obtain ⟨turn, hturn, hof⟩ := turn_of_course hcourse
  refine ⟨ts, past, turn, j.report .upgrading c.toText w₁.1, hopened, hattests,
    hof, ?_⟩
  rw [hturn]
  show (w₁.2 ++ [_]) ++ turn = _
  rw [hpast]
  show ((w.2 ++ past) ++ [_]) ++ turn = _
  rw [hw, List.append_assoc, List.append_assoc]
  rfl

/-- Each ending writes the history that bears it out. -/
theorem truthful_of_ending {scope : RollbackScope} {cs : List Container}
    {load : Entry σ} {l : Except Fault (List Container)} {line : LogLine}
    {w w' : σ × List (Entry σ)} {r : Except Fault Outcome}
    (hload : load.call = .load l) (hw : w.2 = [load])
    (h : Ending (history.operations t) (history.job j) scope
      (history.processor process) cs ((history.job j).log line w) r w') :
    Truthful j scope cs r w'.2 := by
  cases h with
  | @completed us w₁ line' hpass =>
    obtain ⟨ts, past, hpast, hopened, hattests⟩ := turns_of_passes hpass
    have hhistory : ((history.job j).log line' w₁).2 = load :: past := by
      show w₁.2 = _
      rw [hpast]
      show w.2 ++ past = _
      rw [hw]
      rfl
    rw [hhistory]
    exact truthful_of_passes hload hopened hattests
  | @abandoned before after c us f e w₁ w₂ line' hcs hpass hcourse hoff =>
    obtain ⟨ts, past, turn, s, hopened, hattests, hof, hhistory⟩ :=
      history_of_failure hw hpass hcourse
    rw [← List.append_nil turn] at hhistory
    show Truthful j scope cs _ (w₂.2 ++ [])
    rw [List.append_nil, hhistory]
    have hswitch : j.rollbackEnabled w₂.1 = false := hoff
    refine truthful_of_failure hload hcs hopened hattests hof (by simp) ?_ ?_
    · intro hon
      rw [hswitch] at hon
      cases hon
    · intro _
      exact ⟨rfl, rfl⟩
  | @rolledBack before after c us f e w₁ w₂ w' line' a hcs hpass hcourse hon
      hrollback =>
    obtain ⟨ts, past, turn, s, hopened, hattests, hof, hhistory⟩ :=
      history_of_failure hw hpass hcourse
    -- neither the report nor the line before the rollback is written down
    have hclosed : w'.2 = (w₂.2 ++ []) ++ [⟨.rollback _ a, w'.1⟩] :=
      step_eq hrollback
    rw [hclosed, List.append_nil, hhistory, List.cons_append,
      List.append_assoc, List.cons_append]
    have hswitch : j.rollbackEnabled w₂.1 = true := hon
    refine truthful_of_failure hload hcs hopened hattests hof ?_ ?_ ?_
    · intro x hx
      rw [List.mem_singleton.1 hx]
      exact ⟨_, _, rfl⟩
    · intro _
      exact ⟨a, rfl, rfl⟩
    · intro hoff
      rw [hswitch] at hoff
      cases hoff

/-- The outcome of every run tells the truth. The history is that of the run
itself; where loading fails, so does the run, and where containers are
loaded, its result agrees with the history. -/
theorem outcome_truthful (t : Operations σ) (j : Job σ) (scope : RollbackScope)
    (select : Selection) (process : Processor σ) (s : σ) :
    let out := recordedRun t j scope select process s
    run t j scope select process s = (out.1, out.2.1)
      ∧ (∀ e, (t.load select s).1 = .error e →
          out.1 = .error e ∧ asked Call.request? out.2.2 = [])
      ∧ ∀ cs, (t.load select s).1 = .ok cs →
          Truthful j scope cs out.1 out.2.2 := by
  intro out
  refine ⟨history.run_projects t j scope select process s, ?_⟩
  obtain ⟨r, w, hout⟩ : ∃ r w, out = (r, w) := ⟨_, _, rfl⟩
  rw [hout]
  rcases ending_of_run hout with ⟨x, hload, rfl⟩ | ⟨cs, w₁, line, hload, hend⟩
  · have hanswer : (t.load select s).1 = .error x := congrArg Prod.fst hload
    have hhistory : w.2 = [⟨.load (.error x), w.1⟩] := step_eq hload
    refine ⟨?_, ?_⟩
    · intro e he
      rw [hanswer] at he
      cases he
      exact ⟨rfl, by rw [hhistory]; rfl⟩
    · intro cs hcs
      rw [hanswer] at hcs
      cases hcs
  · have hanswer : (t.load select s).1 = .ok cs := congrArg Prod.fst hload
    have hhistory : w₁.2 = [⟨.load (.ok cs), w₁.1⟩] := step_eq hload
    refine ⟨?_, ?_⟩
    · intro e he
      rw [hanswer] at he
      cases he
    · intro cs' hcs
      rw [hanswer] at hcs
      cases hcs
      exact truthful_of_ending rfl hhistory hend

end Fleetkeeper
