/-
A health check is the first answer that settles the matter, or the last one
that there is time for.

# Looks and pauses

A check asks its engine for one container again and again, and waits between
two questions. All that it does is written down beside the world (`Moment`),
every call to the engine and every pause, so that nothing else it might do
could stay unseen. What stands there at the end are the looks with one pause
between each two of them, none before the first and none behind the last.

# The reference

An answer settles the matter if it is a fault, or if the inspection has a
verdict (`settlement`). Answers have a conclusion (`Concludes`) in two ways:
the last of them settles the matter and those before it do not, or none does
and there are as many as there may be, which counts as not healthy. The law
says that the answers of the looks have the result as their conclusion, so it
names the number of looks, the pauses and the result at once. Its proof is an
induction on the looks that are left, and `Look` is one of them.
-/
import Fleetkeeper.Proofs.Upgrade.Projection

namespace Fleetkeeper

variable {σ : Type}

-- ============================================================ the verdict

/-- A word is read as the state that it is written for. -/
theorem ContainerState.parse?_eq_some_iff {word : String}
    {state : ContainerState} :
    ContainerState.parse? word = some state ↔ word = state.toText := by
  constructor
  · intro h
    obtain ⟨entry, hfind, rfl⟩ := Option.map_eq_some_iff.1 h
    have hword : entry.1 = word := by simpa using List.find?_some hfind
    have hmem := List.mem_of_find?_eq_some hfind
    subst hword
    simp only [ContainerState.words, List.mem_cons, List.not_mem_nil, or_false]
      at hmem
    rcases hmem with rfl | rfl | rfl | rfl | rfl | rfl | rfl <;> rfl
  · rintro rfl
    cases state <;> decide

/-- A health check that is reported decides alone. -/
theorem Inspection.verdict_of_health {i : Inspection} {status : String}
    (h : i.state.health = some status) :
    i.verdict = if status = "healthy" then some true
      else if status = "unhealthy" then some false else none := by
  unfold Inspection.verdict
  rw [h]
  by_cases hup : status = "healthy"
  · subst hup
    rfl
  by_cases hdown : status = "unhealthy"
  · subst hdown
    rfl
  · simp [hup, hdown]

/-- Without a health check the running container is healthy, and the one that
has ended is not. -/
theorem Inspection.verdict_of_no_health {i : Inspection}
    (h : i.state.health = none) :
    i.verdict = if i.state.running = true then some true
      else if i.state.status = "exited"
        ∨ i.state.status = "dead" then some false
      else none := by
  unfold Inspection.verdict
  rw [h]
  dsimp only
  by_cases hrunning : i.state.running = true
  · rw [if_pos hrunning, if_pos hrunning]
  rw [if_neg hrunning, if_neg hrunning]
  split
  case h_1 hexited =>
    have hword := ContainerState.parse?_eq_some_iff.1 hexited
    simp [hword, ContainerState.toText]
  case h_2 hdead =>
    have hword := ContainerState.parse?_eq_some_iff.1 hdead
    simp [hword, ContainerState.toText]
  case h_3 hexited hdead =>
    rw [if_neg]
    rintro (hword | hword)
    · exact hexited (ContainerState.parse?_eq_some_iff.2 hword)
    · exact hdead (ContainerState.parse?_eq_some_iff.2 hword)

-- ========================================================== the reference

namespace Site

/-- What an answer to a look says about the end of the check: a fault ends
it, and so does a verdict. -/
def settlement : Except Fault Inspection → Option (Except Fault Bool)
  | .error f => some (.error f)
  | .ok i => i.verdict.map .ok

/-- So many looks are allowed; these answers, in their order, end the check
with this result. -/
inductive Concludes (looks : Nat) :
    List (Except Fault Inspection) → Except Fault Bool → Prop
  | settled {before last r} (hopen : ∀ a ∈ before, settlement a = none)
      (hlast : settlement last = some r) (hin : before.length < looks) :
      Concludes looks (before ++ [last]) r
  | exhausted {answers} (hopen : ∀ a ∈ answers, settlement a = none)
      (hall : answers.length = looks) : Concludes looks answers (.ok false)

/-- An answer that settles the matter at once. -/
theorem Concludes.of_settlement {looks : Nat} {a : Except Fault Inspection}
    {r : Except Fault Bool} (h : settlement a = some r) :
    Concludes (looks + 1) [a] r := by
  show Concludes _ ([] ++ [a]) r
  exact .settled (by simp) h (by simp)

/-- An answer that settles nothing may come in front. -/
theorem Concludes.cons {looks : Nat} {a : Except Fault Inspection}
    {answers : List (Except Fault Inspection)} {r : Except Fault Bool}
    (ha : settlement a = none) (h : Concludes looks answers r) :
    Concludes (looks + 1) (a :: answers) r := by
  cases h with
  | @settled before last _ hopen hlast hin =>
    show Concludes _ ((a :: before) ++ [last]) r
    refine .settled ?_ hlast ?_
    · simpa [ha] using hopen
    · simpa using hin
  | exhausted hopen hall =>
    refine .exhausted ?_ ?_
    · simpa [ha] using hopen
    · simpa using hall

/-- There is a look before a check ends. -/
theorem Concludes.ne_nil {looks : Nat}
    {answers : List (Except Fault Inspection)} {r : Except Fault Bool}
    (h : Concludes (looks + 1) answers r) :
    answers ≠ [] := by
  rintro rfl
  generalize hnone : ([] : List (Except Fault Inspection)) = answers at h
  cases h with
  | settled => simp at hnone
  | exhausted _ hall => simp [← hnone] at hall

-- ============================================================ the moments

/-- What a check may do beside writing to the log. -/
inductive Moment where
  | call (a : ApiCall)
  | pause (secs : Nat)

/-- A site beside which every call and every pause is written down. -/
def timed (e : Site σ) : Site (σ × List Moment) where
  api := e.api.recorded Moment.call
  attendant := {
    wait := fun secs w => (e.attendant.wait secs w.1, w.2 ++ [.pause secs])
    log := fun line w => (e.attendant.log line w.1, w.2) }
  node := e.node
  config := e.config

/-- A site that is timed is the site. -/
theorem timed_projects (e : Site σ) : e.timed.Projects Prod.fst e where
  api := e.api.recorded_projects Moment.call
  wait _ _ := rfl
  log _ _ := rfl
  node := rfl
  config := rfl

/-- Looks at one container with these answers, and a pause between each two
of them. -/
def paced (id : String) (secs : Nat)
    (answers : List (Except Fault Inspection)) :
    List Moment :=
  (answers.map fun a => .call (.inspect id a)).intersperse (.pause secs)

/-- A look in front of others comes with a pause. -/
theorem paced_cons {id : String} {secs : Nat} {a : Except Fault Inspection}
    {answers : List (Except Fault Inspection)} (h : answers ≠ []) :
    paced id secs (a :: answers)
      = .call (.inspect id a) :: .pause secs :: paced id secs answers := by
  cases answers with
  | nil => exact absurd rfl h
  | cons b rest => rfl

-- =============================================================== the looks

variable {e : Site σ} {c : Container} {attempts left : Nat}
  {w w' : σ × List Moment} {r : Except Fault Bool}

/-- The ways in which a look of a check can go, so many more being allowed: it
settles the matter, it was the last, or there is a pause and another look. -/
inductive Look (e : Site σ) (c : Container) (attempts : Nat)
    (w : σ × List Moment) :
    Nat → Except Fault Bool → σ × List Moment → Prop where
  | settled {left : Nat} {a : Except Fault Inspection} {r : Except Fault Bool}
      {w' : σ × List Moment} (ha : settlement a = some r)
      (hw' : w'.2 = w.2 ++ [.call (.inspect c.id a)]) :
      Look e c attempts w left r w'
  | last {a : Except Fault Inspection} {w' : σ × List Moment}
      (ha : settlement a = none)
      (hw' : w'.2 = w.2 ++ [.call (.inspect c.id a)]) :
      Look e c attempts w 0 (.ok false) w'
  | again {left : Nat} {a : Except Fault Inspection} {r : Except Fault Bool}
      {w₁ w' : σ × List Moment} (ha : settlement a = none)
      (hw₁ : w₁.2 = w.2 ++ [.call (.inspect c.id a),
        .pause e.config.healthCheck.intervalSecs])
      (hrest : e.timed.checkFrom c attempts left w₁ = (r, w')) :
      Look e c attempts w (left + 1) r w'

/-- A look at a container goes in one of these ways: the engine fails, the
container is decided, the looks are used up, or there is a pause and another
look. The answer decides, and behind it only the number of looks that are
left. -/
theorem look_of_checkFrom (h : e.timed.checkFrom c attempts left w = (r, w')) :
    Look e c attempts w left r w' := by
  obtain ⟨a, w₁, hlook⟩ : ∃ a w₁, e.timed.api.inspect c.id w = (a, w₁) :=
    ⟨_, _, rfl⟩
  have hw₁ : w₁.2 = w.2 ++ [.call (.inspect c.id a)] := by
    cases hlook
    rfl
  unfold checkFrom at h
  rw [hlook] at h
  cases a with
  | error f =>
    cases h
    exact .settled rfl hw₁
  | ok i =>
    dsimp only at h
    cases hverdict : i.verdict with
    | some healthy =>
      rw [hverdict] at h
      cases h
      exact .settled (by simp [settlement, hverdict]) hw₁
    | none =>
      rw [hverdict] at h
      have hopen : settlement (.ok i) = none := by simp [settlement, hverdict]
      cases left with
      | zero =>
        -- what is written to the log is no moment
        cases h
        exact .last hopen hw₁
      | succ left =>
        refine .again hopen ?_ h
        show w₁.2 ++ [_] = _
        rw [hw₁, List.append_assoc]
        rfl

/-- The looks that are left end in a conclusion. By induction on them. -/
theorem concludes_of_checkFrom
    (h : e.timed.checkFrom c attempts left w = (r, w')) :
    ∃ answers, Concludes (left + 1) answers r
      ∧ w'.2 = w.2 ++ paced c.id e.config.healthCheck.intervalSecs
        answers := by
  induction left generalizing w with
  | zero =>
    cases look_of_checkFrom h with
    | @settled _ a _ _ ha hw' => exact ⟨[a], .of_settlement ha, hw'⟩
    | @last a _ ha hw' => exact ⟨[a], .exhausted (by simpa using ha) rfl, hw'⟩
  | succ left ih =>
    cases look_of_checkFrom h with
    | @settled _ a _ _ ha hw' => exact ⟨[a], .of_settlement ha, hw'⟩
    | @again _ a _ _ _ ha hw₁ hrest =>
      obtain ⟨answers, hanswers, hw'⟩ := ih hrest
      refine ⟨a :: answers, hanswers.cons ha, ?_⟩
      -- the looks behind the pause are at least one, so it stands between two
      rw [hw', hw₁, paced_cons hanswers.ne_nil, List.append_assoc]
      rfl

-- ================================================================ the law

/-- Whatever the engine answers, a check reads its answers in order up to the
first that is a fault or has a verdict, or up to the last that there is time
for. It does nothing else but to pause between two looks, and it returns that
fault, that verdict, or that the container is not healthy. -/
theorem check_concludes (e : Site σ) (c : Container) (s : σ) :
    let out := e.timed.check c (s, [])
    e.check c s = (out.1, out.2.1)
      ∧ (∃ answers, Concludes (max e.config.healthCheck.attempts 1)
          answers out.1
        ∧ out.2.2 = paced c.id e.config.healthCheck.intervalSecs answers)
      ∧ ∀ i : Inspection,
        (∀ status, i.state.health = some status →
          i.verdict = if status = "healthy" then some true
            else if status = "unhealthy" then some false else none)
        ∧ (i.state.health = none →
          i.verdict = if i.state.running = true then some true
            else if i.state.status = "exited" ∨ i.state.status = "dead"
              then some false else none) := by
  intro out
  refine ⟨e.timed_projects.check c (s, []), ?_, ?_⟩
  · obtain ⟨answers, hanswers, hmoments⟩ : ∃ answers,
        Concludes (max e.config.healthCheck.attempts 1 - 1 + 1) answers out.1
          ∧ out.2.2
            = [] ++ paced c.id e.config.healthCheck.intervalSecs answers :=
      concludes_of_checkFrom rfl
    rw [Nat.sub_add_cancel (Nat.le_max_right ..)] at hanswers
    exact ⟨answers, hanswers, hmoments⟩
  · intro i
    exact ⟨fun _ => Inspection.verdict_of_health,
      Inspection.verdict_of_no_health⟩

end Site

end Fleetkeeper
