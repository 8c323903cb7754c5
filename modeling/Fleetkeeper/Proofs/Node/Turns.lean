/-
Runs seen turn by turn: each request with the registration that it met. A law
about what was said at some time, and about what happened before that, is a
law about the list of turns so far.

`Since` is the one question of time that is asked of such a past: whether
something happened after which nothing else of a certain kind did. What it
comes to when one more turn is over is `since_concat`, so that a question of
time is kept up to date like any other part of an invariant
(`turns_of_turn`).
-/
import Mathlib.Data.List.Induction
import Fleetkeeper.Proofs.Node.Request

namespace Fleetkeeper

-- ==================================================== what others receive

def Effect.lifecycle? : Effect → Option LifecycleEvent
  | lifecycle e => some e
  | health _ | log _ | journal _ | bindAsked _ _ | pollerStarted _ _
  | pollerStopped _ => none

def Effect.health? : Effect → Option HealthEvent
  | health e => some e
  | lifecycle _ | log _ | journal _ | bindAsked _ _ | pollerStarted _ _
  | pollerStopped _ => none

/-- The lifecycle events among effects, in order. -/
def lifecycleOf (told : List Effect) : List LifecycleEvent :=
  told.filterMap Effect.lifecycle?

def healthOf (told : List Effect) : List HealthEvent :=
  told.filterMap Effect.health?

theorem lifecycleOf_append (told more : List Effect) :
    lifecycleOf (told ++ more) = lifecycleOf told ++ lifecycleOf more :=
  List.filterMap_append

theorem healthOf_append (told more : List Effect) :
    healthOf (told ++ more) = healthOf told ++ healthOf more :=
  List.filterMap_append

namespace Registration

-- ================================================================ turns

/-- A request, what the registration found around it, and the registration as
it was then. -/
structure Turn where
  env : Services
  request : Request
  before : Registration

namespace Turn

def step (t : Turn) : Step Unit := t.request.perform t.env t.before

def after (t : Turn) : Registration := t.step.state

/-- The lifecycle events that a turn tells. -/
def events (t : Turn) : List LifecycleEvent := lifecycleOf t.step.effects

/-- The health messages that a turn publishes. -/
def messages (t : Turn) : List HealthEvent := healthOf t.step.effects

end Turn

def turns : Run → Registration → List Turn
  | [], _ => []
  | (env, q) :: rest, r => ⟨env, q, r⟩ :: turns rest (q.perform env r).state

theorem turns_concat (run : Run) (env : Services) (q : Request)
    (r : Registration) :
    turns (run ++ [(env, q)]) r
      = turns run r ++ [⟨env, q, (performAll run r).state⟩] := by
  induction run generalizing r with
  | nil => rfl
  | cons x rest ih =>
    show _ :: turns (rest ++ [(env, q)]) _ = _ :: (turns rest _ ++ _)
    rw [ih]
    rfl

theorem performAll_concat (run : Run) (env : Services) (q : Request)
    (r : Registration) :
    (performAll (run ++ [(env, q)]) r).state
      = (q.perform env (performAll run r).state).state := by
  induction run generalizing r with
  | nil => rfl
  | cons x rest ih => exact ih _

/-- All that a run tells is what its turns tell. -/
theorem effects_performAll (run : Run) (r : Registration) :
    (performAll run r).effects = (turns run r).flatMap fun t =>
      t.step.effects := by
  induction run generalizing r with
  | nil => rfl
  | cons x rest ih =>
    show _ ++ (performAll rest _).effects = _ ++ (turns rest _).flatMap _
    rw [ih]
    rfl

theorem lifecycleOf_performAll (run : Run) (r : Registration) :
    lifecycleOf (performAll run r).effects
      = (turns run r).flatMap Turn.events := by
  unfold lifecycleOf
  rw [effects_performAll, List.filterMap_flatMap]
  rfl

theorem healthOf_performAll (run : Run) (r : Registration) :
    healthOf (performAll run r).effects
      = (turns run r).flatMap Turn.messages := by
  unfold healthOf
  rw [effects_performAll, List.filterMap_flatMap]
  rfl

/-- What is kept by every turn that may occur is kept by a run. `P` speaks of
the past and of the registration that it has led to. -/
theorem turns_of_turn {P : List Turn → Registration → Prop}
    (may : Services → Request → Prop)
    (hturn : ∀ {past : List Turn} (t : Turn), may t.env t.request →
      P past t.before → P (past ++ [t]) t.after)
    (run : Run) (hmay : ∀ x ∈ run, may x.1 x.2) {r : Registration}
    (h : P [] r) :
    P (turns run r) (performAll run r).state := by
  -- From the last request backwards, so that the past is a run as well.
  induction run using List.reverseRecOn with
  | nil => exact h
  | append_singleton run x ih =>
    obtain ⟨env, q⟩ := x
    rw [turns_concat, performAll_concat]
    refine hturn ⟨env, q, _⟩ (hmay (env, q) (by simp)) (ih fun y hy => ?_)
    exact hmay y (List.mem_append_left _ hy)

-- ======================================================== questions of time

/-- At some turn it `was` so, and at all turns since it `stays` so. -/
def Since (was stays : Turn → Prop) (past : List Turn) : Prop :=
  ∃ earlier t later,
    past = earlier ++ t :: later ∧ was t ∧ ∀ u ∈ later, stays u

variable {was stays : Turn → Prop}

theorem not_since_nil : ¬ Since was stays [] := by
  rintro ⟨earlier, t, later, hpast, -⟩
  simp at hpast

/-- One turn later it was so just now, or it has stayed so. -/
theorem since_concat {past : List Turn} {t : Turn} :
    Since was stays (past ++ [t])
      ↔ was t ∨ (stays t ∧ Since was stays past) := by
  constructor
  · rintro ⟨earlier, u, later, hpast, hwas, hstays⟩
    -- Either `t` is the turn in question, or it is the last of the later ones.
    rcases List.eq_nil_or_concat later with rfl | ⟨later, v, rfl⟩
    · obtain ⟨-, rfl⟩ : past = earlier ∧ t = u := by simpa using hpast
      exact .inl hwas
    · have hsplit : past ++ [t] = (earlier ++ u :: later) ++ [v] := by
        simpa using hpast
      obtain ⟨rfl, hlast⟩ := List.append_inj' hsplit rfl
      cases hlast
      refine .inr ⟨hstays t (by simp), earlier, u, later, rfl, hwas,
        fun w hw => ?_⟩
      exact hstays w (by simp [hw])
  · rintro (hwas | ⟨hstays, earlier, u, later, rfl, hwas, hlater⟩)
    · exact ⟨past, t, [], rfl, hwas, by simp⟩
    · refine ⟨earlier, u, later ++ [t], by simp, hwas, fun w hw => ?_⟩
      rcases List.mem_append.1 hw with hw | hw
      · exact hlater w hw
      · rw [List.mem_singleton.1 hw]
        exact hstays

/-- What holds at more turns has held since more of them. -/
theorem Since.imp {was' : Turn → Prop} {past : List Turn}
    (himp : ∀ t ∈ past, was t → was' t) (h : Since was stays past) :
    Since was' stays past := by
  obtain ⟨earlier, t, later, rfl, hwas, hstays⟩ := h
  exact ⟨earlier, t, later, rfl, himp t (by simp) hwas, hstays⟩

end Registration

end Fleetkeeper
