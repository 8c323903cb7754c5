/-
The history of a run: every call to a step, with its answer and the world
behind it, written down beside the world (`Recorder.history`). The recorded
run is the plain one, so what the history shows has happened.

# Reading a history

`asked` picks from a history what a question about calls finds: which
containers were resolved and as what, what was created, what a rollback was
asked for. `turns` cuts it into what was done for each container, at the
reports that a container is taken up. Neither reads the result of the run,
nor the plan of a rollback: they are what result and plan are held against.

# From courses to turns

A container that passes writes the calls of an upgrade, and one that fails
those up to the call at which it breaks off; what is true of its turn is read
off these calls (`turn_of_course`). A chain of courses writes one turn behind
the other (`turns_of_passes`), each behind an opening entry (`Opened`), and
cutting at these gives the turns back (`Opened.turns_eq`).
-/
import Fleetkeeper.Proofs.Upgrade.Recording

namespace Fleetkeeper

open Rolling

variable {σ : Type}

-- ================================================================ history

/-- An entry of a history: a call, and the world behind it. -/
structure Entry (σ : Type) where
  call : Call
  after : σ

/-- What a history says on a question about calls. -/
def asked {β : Type} (q : Call → Option β) (h : List (Entry σ)) : List β :=
  h.filterMap fun x => q x.call

@[simp] theorem asked_cons {β : Type} (q : Call → Option β) (x : Entry σ)
    (h : List (Entry σ)) :
    asked q (x :: h) = (q x.call).toList ++ asked q h := by
  unfold asked
  rw [List.filterMap_cons]
  cases q x.call <;> rfl

theorem mem_asked {β : Type} {q : Call → Option β} {b : β}
    {h : List (Entry σ)} : b ∈ asked q h ↔ ∃ x ∈ h, q x.call = some b :=
  List.mem_filterMap

@[simp] theorem asked_append {β : Type} (q : Call → Option β)
    (h h' : List (Entry σ)) : asked q (h ++ h') = asked q h ++ asked q h' :=
  List.filterMap_append

/-- What was done for each container that was taken up. -/
def turns (h : List (Entry σ)) : List (List (Entry σ)) :=
  (h.splitOnP fun x => x.call.opens).tail

/-- The history of a run as its steps write it: each call with the world behind
it, and a report only where it says that a container is taken up. -/
def Recorder.history : Recorder σ (Entry σ) where
  call x s := ⟨x, s⟩
  report p subject s :=
    if p = .upgrading then [⟨.takeUp subject, s⟩] else []

open Recorder (history)

/-- The run with its history. -/
def recordedRun (t : Operations σ) (j : Job σ) (scope : RollbackScope)
    (select : Selection) (process : Processor σ) (s : σ) :
    Except Fault Outcome × σ × List (Entry σ) :=
  history.run t j scope select process s

/-- The entries that calls are written as. -/
theorem entries_of_wrote {calls : List Call} {w w' : σ × List (Entry σ)}
    (h : history.Wrote w calls w') :
    ∃ entries, w'.2 = w.2 ++ entries ∧ entries.map Entry.call = calls := by
  induction h with
  | nothing => exact ⟨[], (List.append_nil _).symm, rfl⟩
  | @snoc calls x w₁ w' _ hx ih =>
    obtain ⟨entries, hentries, rfl⟩ := ih
    refine ⟨entries ++ [⟨x, w'.1⟩], ?_, List.map_append⟩
    rw [hx, hentries, List.append_assoc]
    rfl

/-- A question about entries is one about their calls. -/
theorem asked_eq_filterMap {β : Type} (q : Call → Option β)
    (h : List (Entry σ)) : asked q h = (h.map Entry.call).filterMap q := by
  unfold asked
  rw [List.filterMap_map]
  rfl

-- ======================================================= what turns attest

/-- A turn attests that `c` was upgraded as `u` says: that is what it was
resolved as and what was created for it, every check of which was passed. -/
structure Attests (turn : List (Entry σ)) (c : Container) (u : Upgraded) :
    Prop where
  resolved : asked Call.resolution? turn = [(c, .ok u.former)]
  created : asked Call.creation? turn = [.ok u.replacement]
  checked : asked Call.examination? turn = [(u.replacement, .ok true)]
  faultless : asked Call.fault? turn = []
  unrolled : asked Call.request? turn = []

/-- The turns attest, one after another, that containers were upgraded. -/
inductive AttestsAll :
    List (List (Entry σ)) → List Container → List Upgraded → Prop where
  | nil : AttestsAll [] [] []
  | cons {turn : List (Entry σ)} {ts : List (List (Entry σ))} {c : Container}
      {cs : List Container} {u : Upgraded} {us : List Upgraded}
      (hturn : Attests turn c u) (hrest : AttestsAll ts cs us) :
      AttestsAll (turn :: ts) (c :: cs) (u :: us)

/-- A plan describes what its last turn, that of `c`, and the turns before it
came to. -/
structure Describes (p : RollbackPlan) (scope : RollbackScope)
    (us : List Upgraded) (c : Container) (turn : List (Entry σ)) : Prop where
  scope : p.scope = scope
  upgraded : p.upgraded = us
  /-- What `c` was resolved as, else `c` itself. -/
  former : ∃ a, asked Call.resolution? turn = [(c, a)]
    ∧ p.failed.former = a.toOption.getD c
  /-- The last step that succeeded. -/
  stage : p.failed.stage = (asked Call.stage? turn).getLast?.getD .selected
  replacement : ∀ r, p.failed.replacement = some r
    ↔ asked Call.creation? turn = [.ok r]
  removed : p.failed.formerRemoved = true
    ↔ asked Call.removal? turn = [.ok ()]

/-- As many containers are attested as upgrades. -/
theorem AttestsAll.length_eq {ts : List (List (Entry σ))} {cs : List Container}
    {us : List Upgraded} (h : AttestsAll ts cs us) :
    us.length = cs.length := by
  induction h with
  | nil => rfl
  | cons _ _ ih => rw [List.length_cons, List.length_cons, ih]

-- ================================================== from courses to turns

/-- The turn that a course writes. -/
structure TurnOf (turn : List (Entry σ)) (c : Container) (f : InFlight)
    (a : Except Fault Container) (s : σ) : Prop where
  closed : ∀ x ∈ turn, x.call.opens = false
  unrolled : asked Call.request? turn = []
  described : ∀ scope us, Describes (planOf scope f us) scope us c turn
  passed : ∀ n, a = .ok n → Attests turn c ⟨f.former, n⟩
  failed : ∀ e, a = .error e → ∃ steps x, turn = steps ++ [x]
    ∧ x.call.fault? = some e ∧ x.after = s ∧ asked Call.fault? steps = []

/-- The turn of a container that is upgraded. -/
theorem turnOf_of_upgrade {turn : List (Entry σ)} {c r d n : Container} {s : σ}
    (hturn : turn.map Entry.call = upgradeCalls c r d n) :
    TurnOf turn c ⟨c, some r, some n, .healthChecked⟩ (.ok n) s := by
  have hasked : ∀ {β : Type} (q : Call → Option β),
      asked q turn = (upgradeCalls c r d n).filterMap q := by
    intro β q
    rw [asked_eq_filterMap, hturn]
  have hresolved : asked Call.resolution? turn = [(c, .ok r)] := hasked _
  have hcreated : asked Call.creation? turn = [.ok n] := hasked _
  have hremoved : asked Call.removal? turn = [.ok ()] := hasked _
  refine ⟨?_, hasked _, fun scope us => ⟨rfl, rfl, ⟨_, hresolved, rfl⟩, ?_, ?_,
    iff_of_true rfl hremoved⟩, ?_, ?_⟩
  · have hclosed : ∀ y ∈ turn.map Entry.call, y.opens = false := by
      rw [hturn]
      simp [upgradeCalls]
    exact fun x hx => hclosed _ (List.mem_map_of_mem hx)
  · rw [hasked]
    rfl
  · rw [hcreated]
    simp [planOf]
  · rintro m ⟨⟩
    exact ⟨hresolved, hcreated, hasked _, hasked _, hasked _⟩
  · rintro e ⟨⟩

/-- The turn of a container whose upgrade breaks off. -/
theorem turnOf_of_breaksOff {steps : List (Entry σ)} {done : List Call}
    {x : Call} {c : Container} {f : InFlight} {e : Fault} {s : σ}
    (h : BreaksOff c done x f e) (hsteps : steps.map Entry.call = done) :
    TurnOf (steps ++ [⟨x, s⟩]) c f (.error e) s := by
  have hcalls : (steps ++ [(⟨x, s⟩ : Entry σ)]).map Entry.call
      = done ++ [x] := by
    rw [List.map_append, hsteps]
    rfl
  have hasked : ∀ {β : Type} (q : Call → Option β),
      asked q (steps ++ [⟨x, s⟩]) = (done ++ [x]).filterMap q := by
    intro β q
    rw [asked_eq_filterMap, hcalls]
  refine ⟨?_, ?_, fun scope us => ⟨rfl, rfl, ?_, ?_, ?_, ?_⟩, ?_, ?_⟩
  · have hclosed : ∀ y ∈ done ++ [x], y.opens = false := by
      cases h <;> simp
    rw [← hcalls] at hclosed
    exact fun y hy => hclosed _ (List.mem_map_of_mem hy)
  · rw [hasked]
    cases h <;> rfl
  · rw [hasked]
    cases h <;> exact ⟨_, rfl, rfl⟩
  · rw [hasked]
    cases h <;> rfl
  · rw [hasked]
    cases h <;> simp [planOf, List.filterMap_cons]
  · rw [hasked]
    cases h <;> simp [planOf, List.filterMap_cons,
      FailedContainer.formerRemoved, Stage.rank]
  · rintro n ⟨⟩
  · rintro e' ⟨⟩
    obtain ⟨hx, hdone⟩ := h.fault
    refine ⟨steps, ⟨x, s⟩, rfl, hx, rfl, ?_⟩
    rw [asked_eq_filterMap, hsteps, hdone]

/-- A course writes a turn: one entry for each step that was taken. -/
theorem turn_of_course {t : Operations σ} {process : Processor σ}
    {c : Container} {f : InFlight} {a : Except Fault Container}
    {w w' : σ × List (Entry σ)}
    (h : Course (history.operations t) (history.processor process)
      c w f a w') :
    ∃ turn, w'.2 = w.2 ++ turn ∧ TurnOf turn c f a w'.1 := by
  cases a with
  | ok n =>
    obtain ⟨r, d, rfl, hwrote⟩ := wrote_of_passed h
    obtain ⟨turn, hturn, hcalls⟩ := entries_of_wrote hwrote
    exact ⟨turn, hturn, turnOf_of_upgrade hcalls⟩
  | error e =>
    obtain ⟨done, x, w₁, hbreaks, hwrote, hlast⟩ := wrote_of_failed h
    obtain ⟨steps, hsteps, hcalls⟩ := entries_of_wrote hwrote
    refine ⟨steps ++ [⟨x, w'.1⟩], ?_, turnOf_of_breaksOff hbreaks hcalls⟩
    rw [hlast, hsteps, List.append_assoc]
    rfl

-- ====================================================== the turns of a run

/-- A history that consists of turns, each behind its opening entry. -/
inductive Opened : List (List (Entry σ)) → List (Entry σ) → Prop where
  | nil : Opened [] []
  | cons {subject : String} {s : σ} {turn : List (Entry σ)}
      {ts : List (List (Entry σ))} {h : List (Entry σ)}
      (hclosed : ∀ x ∈ turn, x.call.opens = false) (hrest : Opened ts h) :
      Opened (turn :: ts) (⟨.takeUp subject, s⟩ :: (turn ++ h))

namespace Opened

/-- Another turn may follow. -/
theorem snoc {ts : List (List (Entry σ))} {h turn : List (Entry σ)}
    {subject : String} {s : σ} (hts : Opened ts h)
    (hclosed : ∀ x ∈ turn, x.call.opens = false) :
    Opened (ts ++ [turn]) (h ++ ⟨.takeUp subject, s⟩ :: turn) := by
  induction hts with
  | nil =>
    have hone : Opened [turn] (⟨.takeUp subject, s⟩ :: (turn ++ [])) :=
      .cons hclosed .nil
    rw [List.append_nil] at hone
    exact hone
  | cons hfirst _ ih =>
    rw [List.cons_append, List.cons_append, List.append_assoc]
    exact .cons hfirst ih

/-- Cutting a history at the opening entries gives its turns, behind what was
done before the first of them. -/
theorem turns_eq {ts : List (List (Entry σ))} {h past : List (Entry σ)}
    (hts : Opened ts h) (hpast : ∀ x ∈ past, x.call.opens = false) :
    turns (past ++ h) = ts := by
  unfold turns
  have hcut : (past ++ h).splitOnP (fun x => x.call.opens) = past :: ts := by
    induction hts generalizing past with
    | nil =>
      rw [List.append_nil]
      exact List.splitOnP_eq_singleton hpast
    | cons hclosed _ ih =>
      rw [List.splitOnP_append_cons_of_forall_mem hpast _ rfl, ih hclosed]
  rw [hcut, List.tail_cons]

/-- A question that no opening entry answers is answered by the turns. -/
theorem asked_eq {β : Type} {q : Call → Option β}
    (hq : ∀ subject, q (.takeUp subject) = none) {ts : List (List (Entry σ))}
    {h : List (Entry σ)} (hts : Opened ts h) :
    asked q h = ts.flatMap (asked q) := by
  induction hts with
  | nil => rfl
  | cons _ _ ih =>
    rw [asked_cons, asked_append, ih, hq, List.flatMap_cons]
    rfl

end Opened

/-- Turns that attest upgrades show no fault, no rollback, and only checks
that were passed. -/
theorem AttestsAll.quiet {ts : List (List (Entry σ))} {cs : List Container}
    {us : List Upgraded} (h : AttestsAll ts cs us) :
    ts.flatMap (asked Call.fault?) = [] ∧ ts.flatMap (asked Call.request?) = []
      ∧ ts.flatMap (asked Call.examination?)
        = us.map fun u => (u.replacement, .ok true) := by
  induction h with
  | nil => exact ⟨rfl, rfl, rfl⟩
  | cons hturn _ ih =>
    simp only [List.flatMap_cons, List.map_cons]
    rw [hturn.faultless, hturn.unrolled, hturn.checked, ih.1, ih.2.1, ih.2.2]
    exact ⟨rfl, rfl, rfl⟩

/-- Containers that pass write a turn each, which attests it. The induction
is on the chain; a report that a container is taken up opens its turn, and
the report behind it writes nothing. -/
theorem turns_of_passes {t : Operations σ} {j : Job σ} {process : Processor σ}
    {cs : List Container} {us : List Upgraded} {w w' : σ × List (Entry σ)}
    (h : Passes (history.operations t) (history.job j)
      (history.processor process) cs us w w') :
    ∃ ts past, w'.2 = w.2 ++ past ∧ Opened ts past ∧ AttestsAll ts cs us := by
  induction h with
  | @nil w => exact ⟨[], [], (List.append_nil _).symm, .nil, .nil⟩
  | @cons c n cs f us w w₁ w' hcourse _ ih =>
    obtain ⟨turn, hturn, hof⟩ := turn_of_course hcourse
    obtain ⟨ts, past, hpast, hopened, hattests⟩ := ih
    have hw' : w'.2 = w.2
        ++ ⟨.takeUp c.toText, j.report .upgrading c.toText w.1⟩
          :: (turn ++ past) := by
      rw [hpast]
      show (w₁.2 ++ []) ++ past = _
      rw [List.append_nil, hturn]
      show (w.2 ++ [_]) ++ turn ++ past = _
      rw [List.append_assoc, List.append_assoc, List.singleton_append]
    exact ⟨_, _, hw', .cons hof.closed hopened,
      .cons (hof.passed n rfl) hattests⟩

end Fleetkeeper
