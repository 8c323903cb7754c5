/-
The times at which a poller starts its polls.

# The grid

A poller has a grid of times: its first poll is due at the first point, an
initial delay behind the binding, and there is one more every period. Whatever
way the next tick is reckoned in, behind a tick in time or a late one, it is
the first grid point behind the start of the poll (`nextTick_eq`). A tick that
is late by no more than the tolerance cannot have missed one, periods being
longer than that.

# The recursion

So a poll starts at the first grid point behind the start of the poll before,
or when that poll is done, whichever is later. `Scheduled` says this of a list
of polls, and all else that is to be known of their starts is arithmetic by
induction on the list: that they come one to a period at most, and how those
that are not on the grid come about.

# Why it holds

`Due` is the invariant that carries the waiting tick: it is the grid point that
the recursion names, and the timer is never past the moment of the next start.
It is kept while the timer moves no further than to who is due next
(`Event.Punctual`), whatever else befalls the fleet that spares the client.
-/
import Fleetkeeper.Proofs.Node.Lifetime

namespace Fleetkeeper

-- ================================================================ the grid

namespace Poller

/-- Whether there is a grid point at this time. -/
def OnGrid (first period t : Nat) : Prop := ∃ k, t = first + k * period

/-- The first grid point behind a time. -/
def gridAfter (first period t : Nat) : Nat :=
  first + ((t - first) / period + 1) * period

variable {first period t : Nat}

theorem onGrid_gridAfter (first period t : Nat) :
    OnGrid first period (gridAfter first period t) :=
  ⟨_, rfl⟩

theorem lt_gridAfter (hperiod : 0 < period) :
    t < gridAfter first period t := by
  have hcell := Nat.lt_div_mul_add (a := t - first) hperiod
  unfold gridAfter
  rw [Nat.add_one_mul]
  omega

/-- It is the first one. -/
theorem gridAfter_le (hperiod : 0 < period) {k : Nat} (hfirst : first ≤ t)
    (hpast : t < first + k * period) :
    gridAfter first period t ≤ first + k * period := by
  have hcell : (t - first) / period < k :=
    (Nat.div_lt_iff_lt_mul hperiod).2 (by omega)
  exact Nat.add_le_add_left (Nat.mul_le_mul_right period hcell) first

/-- It is behind the next one of a grid point before. -/
theorem le_gridAfter (hperiod : 0 < period) {k : Nat}
    (hsince : first + k * period ≤ t) :
    first + (k + 1) * period ≤ gridAfter first period t := by
  have hcell : k ≤ (t - first) / period :=
    (Nat.le_div_iff_mul_le hperiod).2 (by omega)
  exact Nat.add_le_add_left
    (Nat.mul_le_mul_right period (Nat.succ_le_succ hcell)) first

/-- Behind a grid point comes the next one. -/
theorem gridAfter_point (hperiod : 0 < period) (k : Nat) :
    gridAfter first period (first + k * period)
      = first + (k + 1) * period := by
  unfold gridAfter
  rw [Nat.add_sub_cancel_left, Nat.mul_div_cancel _ hperiod]

/-- A tick that was due at a grid point is followed by the one that is due at
the first grid point behind its start. -/
theorem nextTick_eq (hperiod : tolerance < period) {tick start : Nat}
    (hgrid : OnGrid first period tick) (hdue : tick ≤ start) :
    nextTick period tick start = gridAfter first period start := by
  obtain ⟨k, rfl⟩ := hgrid
  obtain ⟨late, rfl⟩ := Nat.exists_eq_add_of_le hdue
  have hpos : 0 < period := by omega
  have hcell : (first + k * period + late - first) / period
      = k + late / period := by
    rw [Nat.add_assoc, Nat.add_sub_cancel_left, Nat.add_comm (k * period),
      Nat.add_mul_div_right _ _ hpos, Nat.add_comm]
  have hwhole := Nat.div_add_mod' late period
  unfold nextTick gridAfter
  rw [hcell, Nat.add_sub_cancel_left, Nat.add_one_mul, Nat.add_mul]
  split
  case isTrue => omega
  case isFalse hintime =>
    have hless : late / period = 0 := Nat.div_eq_of_lt (by omega)
    rw [hless]
    omega

end Poller

namespace Fleet

open Poller (OnGrid gridAfter)

-- =========================================================== the recursion

variable {first period : Nat} {last : Option Stint} {polls : List Stint}
  {a b : Stint}

/-- When the poll behind the last one is due, the very first if there was
none. -/
def due (first period : Nat) : Option Stint → Nat
  | none => first
  | some a => gridAfter first period a.poll.start

/-- From when on the next poll can be made. -/
def free : Option Stint → Nat
  | none => 0
  | some a => a.done

theorem onGrid_due (first period : Nat) (last : Option Stint) :
    OnGrid first period (due first period last) := by
  cases last with
  | none => exact ⟨0, by rw [Nat.zero_mul]; rfl⟩
  | some a => exact Poller.onGrid_gridAfter ..

theorem le_of_onGrid {t : Nat} (h : OnGrid first period t) : first ≤ t := by
  obtain ⟨k, rfl⟩ := h
  exact Nat.le_add_right ..

/-- Behind a last poll, these polls start when they are due or when the one
before is done, whichever is later. -/
def Scheduled (first period : Nat) : Option Stint → List Stint → Prop
  | _, [] => True
  | last, a :: rest =>
    a.poll.start = max (due first period last) (free last)
      ∧ Scheduled first period (some a) rest

theorem Scheduled.head (h : Scheduled first period last polls) :
    ∀ a ∈ polls.head?,
      a.poll.start = max (due first period last) (free last) := by
  intro a ha
  cases polls with
  | nil => cases ha
  | cons b rest =>
    cases ha
    exact h.1

/-- None of them starts before the first of them can. By induction on the
polls. -/
theorem Scheduled.le_start (hperiod : 0 < period)
    (h : Scheduled first period last polls) :
    ∀ b ∈ polls, due first period last ≤ b.poll.start
      ∧ free last ≤ b.poll.start := by
  induction polls generalizing last with
  | nil => exact fun _ hb => absurd hb List.not_mem_nil
  | cons a rest ih =>
    obtain ⟨hstart, hrest⟩ := h
    refine List.forall_mem_cons.2 ⟨by omega, fun b hb => ?_⟩
    have hlater : a.poll.start < due first period (some a) :=
      Poller.lt_gridAfter hperiod
    have hnext := (ih hrest b hb).1
    omega

/-- Each starts behind a grid point that all before it have not reached, and
when they are done. -/
theorem Scheduled.pairwise (hperiod : 0 < period)
    (h : Scheduled first period last polls) :
    polls.Pairwise fun a b =>
      gridAfter first period a.poll.start ≤ b.poll.start
        ∧ a.done ≤ b.poll.start := by
  induction polls generalizing last with
  | nil => exact .nil
  | cons a rest ih => exact .cons (h.2.le_start hperiod) (ih h.2)

/-- At most one of them starts in each period of the grid. -/
theorem Scheduled.one_each (hperiod : 0 < period)
    (h : Scheduled first period last polls) (k : Nat) :
    (polls.filter fun a => first + k * period ≤ a.poll.start
      ∧ a.poll.start < first + (k + 1) * period).length ≤ 1 := by
  have hpairwise :=
    (h.pairwise hperiod).filter fun a => first + k * period ≤ a.poll.start
      ∧ a.poll.start < first + (k + 1) * period
  have hwithin : ∀ a ∈ polls.filter fun a => first + k * period ≤ a.poll.start
      ∧ a.poll.start < first + (k + 1) * period,
      first + k * period ≤ a.poll.start
        ∧ a.poll.start < first + (k + 1) * period :=
    fun a ha => of_decide_eq_true (List.mem_filter.1 ha).2
  generalize polls.filter _ = started at hpairwise hwithin ⊢
  match started with
  | [] => exact Nat.zero_le 1
  | [_] => exact Nat.le_refl 1
  | a :: b :: _ =>
    -- The second starts behind a grid point where the period is over.
    have hover :=
      Poller.le_gridAfter hperiod (hwithin a (List.mem_cons_self ..)).1
    have hnext :=
      (List.rel_of_pairwise_cons hpairwise (List.mem_cons_self ..)).1
    have hto := (hwithin b (List.mem_cons_of_mem _ (List.mem_cons_self ..))).2
    omega

/-- What lies between two polls in a row: the second starts on the grid, or
when the first is done, and then that was under way when the second was due. -/
def Succeeds (first period : Nat) (a b : Stint) : Prop :=
  OnGrid first period b.poll.start
    ∨ b.poll.start = a.done ∧ gridAfter first period a.poll.start < a.done

/-- A poll that starts as soon as it is due and the one before it is over
succeeds that one. -/
theorem succeeds_of_start
    (hstart : b.poll.start = max (due first period (some a)) (free (some a))) :
    Succeeds first period a b := by
  by_cases hlate : gridAfter first period a.poll.start < a.done
  · exact .inr ⟨hstart.trans (Nat.max_eq_right (Nat.le_of_lt hlate)), hlate⟩
  · left
    rw [hstart]
    show OnGrid first period (max (gridAfter first period a.poll.start) a.done)
    rw [Nat.max_eq_left (Nat.le_of_not_lt hlate)]
    exact Poller.onGrid_gridAfter ..

/-- So it is with each two in a row. By induction on the polls. -/
theorem Scheduled.chain (h : Scheduled first period last polls) :
    (last.toList ++ polls).IsChain (Succeeds first period) := by
  induction polls generalizing last with
  | nil =>
    cases last with
    | none => exact .nil
    | some a => exact .singleton a
  | cons b rest ih =>
    obtain ⟨hstart, hrest⟩ := h
    cases last with
    | none => exact ih hrest
    | some a => exact .cons_cons (succeeds_of_start hstart) (ih hrest)

/-- Where each is done by the next grid point they start at one grid point
after the other. By induction on the polls, the first of which is due at the
`n`-th point. -/
theorem Scheduled.starts (hperiod : 0 < period)
    (h : Scheduled first period last polls) {n : Nat}
    (hdue : due first period last = first + n * period)
    (hfree : free last ≤ due first period last)
    (hdone : ∀ a ∈ polls.dropLast,
      a.done ≤ gridAfter first period a.poll.start) (k : Nat)
    (hk : polls[k]? = some a) : a.poll.start = first + (n + k) * period := by
  induction polls generalizing last n k with
  | nil => cases hk
  | cons b rest ih =>
    obtain ⟨hstart, hrest⟩ := h
    have hpoint : b.poll.start = first + n * period := by omega
    cases k with
    | zero =>
      cases hk
      exact hpoint
    | succ k =>
      have hnext : due first period (some b) = first + (n + 1) * period := by
        show gridAfter first period b.poll.start = _
        rw [hpoint, Poller.gridAfter_point hperiod]
      cases rest with
      | nil => cases hk
      | cons c rest =>
        obtain ⟨hb, hdone⟩ := List.forall_mem_cons.1 hdone
        rw [ih hrest hnext hb hdone k hk, Nat.add_right_comm,
          Nat.add_assoc n k 1, Nat.add_comm k 1, ← Nat.add_assoc]

/-- The last of all. -/
def latest (last : Option Stint) (polls : List Stint) : Option Stint :=
  polls.foldl (fun _ a => some a) last

/-- Whether a poll is under way at a time, or just starts. -/
def Stint.Covers (a : Stint) (t : Nat) : Prop :=
  a.poll.start = t ∨ a.poll.start < t ∧ t < a.done

/-- As long as no next poll could have started, no grid point is passed over: a
poll starts there or is under way. By induction on the polls. -/
theorem Scheduled.covers (hperiod : 0 < period)
    (h : Scheduled first period last polls) {timer k : Nat}
    (hnow : timer ≤ max (due first period (latest last polls))
      (free (latest last polls)))
    (hdue : due first period last ≤ first + k * period)
    (hpast : first + k * period < timer) :
    first + k * period < free last ∨ ∃ a ∈ polls,
      a.Covers (first + k * period) := by
  induction polls generalizing last with
  | nil =>
    left
    have hnow : timer ≤ max (due first period last) (free last) := hnow
    omega
  | cons b rest ih =>
    obtain ⟨hstart, hrest⟩ := h
    rcases Nat.lt_trichotomy (first + k * period) b.poll.start with hbefore
      | hat | hbehind
    · left
      omega
    · exact .inr ⟨b, List.mem_cons_self .., .inl hat.symm⟩
    · right
      have hfirst : first ≤ b.poll.start := by
        have := le_of_onGrid (onGrid_due first period last)
        omega
      rcases ih hrest hnow (Poller.gridAfter_le hperiod hfirst hbehind) with
        hunder | ⟨a, ha, hcovers⟩
      · exact ⟨b, List.mem_cons_self .., .inr ⟨hbehind, hunder⟩⟩
      · exact ⟨a, List.mem_cons_of_mem _ ha, hcovers⟩

-- ========================================================== the invariant

variable {σ : Type} {engines : Engines σ} {f f₁ f' : Fleet} {s s₁ s' : σ}
  {i j : Slot} {p : Poller} {c : Client} {cfg : PollConfig}
  {timer moment : Nat} {clock : Instant} {phase : PollPhase}

/-- Where a poller is at `timer`, behind its last poll: its tick is the one
that is due next, and that poll is over, or over at the moment that the poller
waits for. A next one could not have started yet. -/
def Due (first period timer : Nat) (last : Option Stint) : PollPhase → Prop
  | .waiting tick => tick = due first period last ∧ free last ≤ timer
    ∧ timer ≤ max tick (free last)
  | .polling done tick _ =>
    tick = due first period last ∧ (∃ a, last = some a ∧ a.done = done)
      ∧ timer ≤ done
  | .dead => True

/-- As long as a poller goes on. -/
theorem Due.not_past (h : Due first period timer last p.phase)
    (halive : p.alive = true) :
    timer ≤ max (due first period last) (free last) := by
  unfold Poller.alive at halive
  generalize p.phase = phase at h halive
  cases phase with
  | dead => cases halive
  | waiting tick =>
    obtain ⟨rfl, -, hnow⟩ := h
    exact hnow
  | polling done tick answer =>
    obtain ⟨-, ⟨a, rfl, rfl⟩, hnow⟩ := h
    exact Nat.le_trans hnow (Nat.le_max_right ..)

/-- Time that passes no further than to the moment when the poller is due. -/
theorem Due.pass {timer' : Nat} (h : Due first period timer last p.phase)
    (hnow : timer ≤ timer')
    (hdue : ∀ moment, p.wake? = some moment → timer' ≤ max timer moment) :
    Due first period timer' last p.phase := by
  unfold Poller.wake? at hdue
  generalize p.phase = phase at h hdue
  cases phase with
  | dead => trivial
  | waiting tick =>
    have htick := hdue tick rfl
    obtain ⟨htick, hfree, hlate⟩ := h
    refine ⟨htick, ?_, ?_⟩ <;> omega
  | polling done tick answer =>
    have hend := hdue done rfl
    obtain ⟨htick, hlast, hlate⟩ := h
    exact ⟨htick, hlast, by omega⟩

/-- A poller that acts at its time and starts no poll. -/
theorem Due.quiet (h : Due first period timer last p.phase)
    (hwake : p.wake? = some moment)
    (hacts : Acts cfg clock (max timer moment) p.phase phase none) :
    Due first period (max timer moment) last phase := by
  unfold Poller.wake? at hwake
  generalize p.phase = before at h hwake hacts
  cases hacts with
  | died | rested => trivial
  | ended =>
    cases hwake
    obtain ⟨htick, ⟨a, rfl, rfl⟩, hlate⟩ := h
    have hover : max timer a.done = a.done := Nat.max_eq_right hlate
    rw [hover]
    exact ⟨htick, Nat.le_refl _, Nat.le_max_right ..⟩

/-- A poller that acts at its time and starts a poll: that starts when it
should, and the tick behind it is the next grid point. -/
theorem Due.polled {w : Window} {done tick : Nat} {answer : PollAnswer}
    (h : Due first cfg.periodMs timer last p.phase)
    (hperiod : Poller.tolerance < cfg.periodMs) (hwake : p.wake? = some moment)
    (hacts : Acts cfg clock (max timer moment) p.phase
      (.polling done tick answer) (some w))
    (node address : String) :
    let a : Stint := ⟨⟨max timer moment, node, address, w⟩, done⟩
    a.poll.start = max (due first cfg.periodMs last) (free last)
      ∧ Due first cfg.periodMs (max timer moment) (some a)
        (.polling done tick answer) := by
  unfold Poller.wake? at hwake
  generalize p.phase = before at h hwake hacts
  cases hacts with
  | started =>
    cases hwake
    obtain ⟨htick, hfree, hlate⟩ := h
    refine ⟨?_, ?_, ⟨_, rfl, rfl⟩, Nat.le_add_right ..⟩
    · show max timer moment = _
      omega
    · exact Poller.nextTick_eq hperiod (htick ▸ onGrid_due ..)
        (Nat.le_max_right ..)

-- ================================================= the polls of a course

/-- Whether an event leaves no poller behind that was due before. -/
def Event.Punctual (f : Fleet) : Event → Prop
  | passed timer => ∀ x ∈ f.waking, timer ≤ x.2.2
  | asked _ _ | acted _ => True

/-- The polls of the poller at a place. -/
def pollsAt (i : Slot) (ticks : List Tick) : List Stint :=
  (ticks.filter fun t => t.place = i).flatMap Tick.polls

theorem pollsAt_append (i : Slot) (ticks more : List Tick) :
    pollsAt i (ticks ++ more) = pollsAt i ticks ++ pollsAt i more := by
  unfold pollsAt
  rw [List.filter_append, List.flatMap_append]

theorem pollsAt_other (hji : j ≠ i) :
    pollsAt i (ticked j p clock polls) = [] := by
  unfold ticked pollsAt
  split
  · simp [hji]
  all_goals rfl

theorem pollsAt_waiting {tick : Nat} (hwaiting : p.phase = .waiting tick) :
    pollsAt i (ticked i p clock polls) = polls := by
  unfold ticked pollsAt
  rw [hwaiting]
  simp

theorem pollsAt_none (i j : Slot) (p : Poller) (clock : Instant) :
    pollsAt i (ticked j p clock []) = [] := by
  unfold ticked pollsAt
  split
  · by_cases hji : j = i <;> simp [hji]
  all_goals rfl

/-- Who starts a poll was waiting for it. -/
theorem Acts.waiting {before : PollPhase} {w : Window}
    (h : Acts cfg clock timer before phase (some w)) :
    ∃ tick, before = .waiting tick := by
  cases h
  exact ⟨_, rfl⟩

/-- While the client is spared and no poller is left behind, the polls of a
poller follow its schedule, and it is due for the one behind them. By induction
on the course. -/
theorem Course.scheduled {may : Fleet → Event → Prop} {ticks : List Tick}
    (h : Course engines may f s ticks f' s')
    (hmay : ∀ f e, may f e → e.Punctual f ∧ e.Spares i c f)
    (hcfg : f.config.polling = cfg) (hperiod : Poller.tolerance < cfg.periodMs)
    (hreached : f.Reached) (hpoller : f.poller? i = some p)
    (hclient : p.client = c)
    (hdue : Due first cfg.periodMs f.timer last p.phase) :
    Scheduled first cfg.periodMs last (pollsAt i ticks)
      ∧ ∃ p', f'.poller? i = some p'
        ∧ Due first cfg.periodMs f'.timer (latest last (pollsAt i ticks))
          p'.phase := by
  induction h generalizing p last with
  | stop => exact ⟨trivial, p, hpoller, hdue⟩
  | asked _ _ hask _ hstorage hconfig htimer _ ih =>
    refine ih (hconfig ▸ hcfg) (hreached.asked hstorage) ?_ hclient
      (htimer ▸ hdue)
    exact hreached.poller?_asked hstorage hpoller (hclient ▸ (hmay _ _ hask).2)
  | @passed f _ _ _ _ timer hpass hnow _ ih =>
    refine ih hcfg hreached hpoller hclient
      (hdue.pass hnow fun moment hwake => ?_)
    obtain ⟨r, hat, hp, -⟩ := hreached.at?_of_poller hpoller
    have hmem : (i, p, moment) ∈ f.waking := mem_waking.2 ⟨r, hat, hp, hwake⟩
    exact Nat.le_trans ((hmay _ _ hpass).1 _ hmem) (Nat.le_max_right ..)
  | @acted f f₁ _ s s₁ _ ticks clock j q moment started hact hnext hrun _ ih =>
    obtain ⟨htimer, hconfig, hturn⟩ := turn_of_acted hpoller hnext hrun
    have hcfg' : f₁.config.polling = cfg := hconfig ▸ hcfg
    have hreached' := hreached.acted hrun
    rw [hcfg] at hturn
    rw [pollsAt_append]
    rcases hturn with ⟨hji, hpoller', hlater⟩
      | ⟨rfl, rfl, hwake, phase, hpoller', hbegins⟩
    · rw [pollsAt_other hji, List.nil_append]
      refine ih hcfg' hreached' hpoller' hclient ?_
      rw [htimer]
      refine hdue.pass (Nat.le_max_left ..) fun due hwake => ?_
      have := hlater due hwake
      omega
    · generalize f₁.begun j started = begun at hbegins
      cases hbegins with
      | none hacts =>
        rw [pollsAt_none, List.nil_append]
        refine ih hcfg' hreached' hpoller' hclient ?_
        rw [htimer]
        exact hdue.quiet hwake hacts
      | @one done tick answer w node hacts =>
        obtain ⟨hstart, hdue'⟩ :=
          hdue.polled hperiod hwake hacts node q.address
        obtain ⟨_, hwaiting⟩ := hacts.waiting
        let a : Stint := ⟨⟨max f.timer moment, node, q.address, w⟩, done⟩
        have hnow : Due first cfg.periodMs f₁.timer (some a)
            (.polling done tick answer) := by
          rw [htimer]
          exact hdue'
        obtain ⟨hrest, hend⟩ := ih hcfg' hreached' hpoller' hclient hnow
        rw [pollsAt_waiting hwaiting]
        exact ⟨⟨hstart, hrest⟩, hend⟩

/-- The polls of a poller that has just been started, whatever becomes of the
fleet as long as its client is spared and no poller is left behind, and however
long each poll takes. None starts before the initial delay is over, the very
first one then; none starts before those before it are done; there is at most
one in each period from then on; each starts on the grid, or else when the one
before is done, which was under way at the tick; and if each is done by the
next grid point, the `k`-th starts at the `k`-th point. As long as the poller
goes on no grid point is passed over: a poll starts there or is under way. -/
theorem polls_on_schedule (run : Storage.Run)
    (hstorage : (Storage.performAll run {}).1 = f.storage) {serial : Nat}
    {address : String} {ticks : List Tick}
    (hstart : f.poller? i
      = some (.start serial address f.config.polling f.timer))
    (hperiod : 1 ≤ f.config.polling.periodSecs)
    (h : Course engines
      (fun f e => e.Punctual f ∧ e.Spares i ⟨address, serial⟩ f) f s ticks
      f' s') :
    let first := f.timer + f.config.polling.initialDelayMs
    let period := f.config.polling.periodMs
    let polls := pollsAt i ticks
    (∀ a ∈ polls, first ≤ a.poll.start)
      ∧ polls.Pairwise (fun a b => a.done ≤ b.poll.start)
      ∧ (∀ k, (polls.filter fun a => first + k * period ≤ a.poll.start
          ∧ a.poll.start < first + (k + 1) * period).length ≤ 1)
      ∧ (∀ a ∈ polls.head?, a.poll.start = first)
      ∧ polls.IsChain (Succeeds first period)
      ∧ ((∀ a ∈ polls.dropLast, a.done ≤ gridAfter first period a.poll.start) →
          ∀ k a, polls[k]? = some a → a.poll.start = first + k * period)
      ∧ ∃ p, f'.poller? i = some p
        ∧ (p.alive = true → ∀ k, first + k * period < f'.timer →
            ∃ a ∈ polls, a.Covers (first + k * period)) := by
  intro first period polls
  have htolerance : Poller.tolerance < period := by
    show 5 < f.config.polling.periodSecs * 1000
    omega
  have hpositive : 0 < period := by omega
  have hdue : Due first period f.timer none
      (Poller.start serial address f.config.polling f.timer).phase :=
    ⟨rfl, Nat.zero_le _,
      Nat.le_trans (Nat.le_add_right ..) (Nat.le_max_left ..)⟩
  obtain ⟨hscheduled, p, hpoller, hend⟩ :=
    h.scheduled (fun _ _ => id) rfl htolerance ⟨run, hstorage⟩ hstart rfl hdue
  refine ⟨fun a ha => (hscheduled.le_start hpositive a ha).1,
    (hscheduled.pairwise hpositive).imp And.right,
    hscheduled.one_each hpositive, fun a ha => ?_, hscheduled.chain,
    fun hdone k a hk => ?_, p, hpoller, fun halive k hpast => ?_⟩
  · exact (hscheduled.head a ha).trans (Nat.max_eq_left (Nat.zero_le _))
  · have hpoint :=
      hscheduled.starts hpositive (n := 0) (by rw [Nat.zero_mul]; rfl)
        (Nat.zero_le _) hdone k hk
    rwa [Nat.zero_add] at hpoint
  · have hcovered :=
      hscheduled.covers hpositive (hend.not_past halive)
        (Nat.le_add_right ..) hpast
    exact hcovered.resolve_left (Nat.not_lt_zero _)

/-- Polls that take three milliseconds more than a period. The second starts as
soon as the first is done, which is late but not too late to count as in time;
the third is too late. The grid is the same behind both. -/
theorem schedule_of_oneNode :
    let f := oneNode ⟨0⟩ 0 (.waiting 0)
    let may : Fleet → Event → Prop := fun f e =>
      e.Punctual f ∧ e.Spares 0 ⟨"10.0.0.1:2375", 0⟩ f
    ∃ (run : Storage.Run) (ticks : List Tick) (f' : Fleet),
      (Storage.performAll run {}).1 = f.storage
        ∧ f.poller? 0 = some (.start 0 "10.0.0.1:2375" eachSecond 0)
        ∧ Course (idle 1003) may f () ticks f' ()
        ∧ (pollsAt 0 ticks).map (fun a => (a.poll.start, a.done))
            = [(0, 1003), (1003, 2006), (2006, 3009)]
        ∧ (pollsAt 0 ticks).Pairwise (fun a b => a.done ≤ b.poll.start)
        ∧ (pollsAt 0 ticks).IsChain (Succeeds 0 1000) := by
  intro f may
  let run : Storage.Run := [((unpeopled eachSecond).around Storage.beginning,
    .register (Storage.nodeAt "n1" "10.0.0.1:2375"))]
  have hstorage : (Storage.performAll run {}).1 = f.storage := rfl
  have hstart : f.poller? 0 = some (.start 0 "10.0.0.1:2375" eachSecond 0) :=
    rfl
  have hmay : ∀ f, may f (.acted ⟨0⟩) := fun _ => ⟨trivial, trivial⟩
  have hwindow : Poller.onTick eachSecond ⟨0⟩ = some ⟨⟨0⟩, ⟨1000000000⟩⟩ := by
    decide
  have hthird : Course (idle 1003) may (oneNode ⟨0⟩ 2006 (.waiting 2000)) () _
      (oneNode ⟨0⟩ 3009 (.waiting 3000)) () :=
    oneNode_ticked hmay rfl rfl (by decide) hwindow .stop
  have hsecond : Course (idle 1003) may (oneNode ⟨0⟩ 1003 (.waiting 1000)) () _
      (oneNode ⟨0⟩ 3009 (.waiting 3000)) () :=
    oneNode_ticked hmay rfl rfl (by decide) hwindow hthird
  have hcourse :
      Course (idle 1003) may f () _ (oneNode ⟨0⟩ 3009 (.waiting 3000)) () :=
    oneNode_ticked hmay rfl rfl (by decide) hwindow hsecond
  have hfirst : f.timer + f.config.polling.initialDelayMs = 0 :=
    (Nat.zero_add _).trans (Nat.zero_mul 1000)
  have hperiod : f.config.polling.periodMs = 1000 := Nat.one_mul 1000
  obtain ⟨-, hpairwise, -, -, hchain, -⟩ :=
    polls_on_schedule run hstorage hstart (Nat.le_refl 1) hcourse
  rw [hfirst, hperiod] at hchain
  exact ⟨run, _, _, hstorage, hstart, hcourse, rfl, hpairwise, hchain⟩

end Fleet

end Fleetkeeper
