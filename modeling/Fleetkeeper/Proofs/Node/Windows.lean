/-
The windows that the polls of one poller ask for: whether they leave a gap.

# A timeline

A fleet shows two times, and only the program around it can say that they are
one. `Timeline` says so: whenever a poller acts, the clock shows the timer,
counted from an origin. Between two acts anything may be asked of the fleet
that leaves the poller in question running, and the timer may pass while
nobody is due.

# Late or in time

A poll asks for the window that starts when the poll does. So what matters is
when the next one starts: at its tick, or behind the poll before it, whichever
is later. A tick is never due later than a period after the poll before it
started (`nextTick_le`), so the ticks alone leave no gap. A poll that lasts
does: the next window starts where that poll was over. The two meet, in whole
seconds, just where it was over in the second in which its own window ends, or
before (`Stint.InTime`). `Stands` is the invariant that carries it: where the
tick and the end of the latest poll are, seen from the timer.
-/
import Fleetkeeper.Proofs.Node.Polling

namespace Fleetkeeper

-- ================================================================= times

/-- So many milliseconds later. -/
def Instant.after (origin : Instant) (ms : Nat) : Instant :=
  ⟨origin.nanos + ms * 1000000⟩

theorem Instant.seconds_mono {a b : Instant} (h : a ≤ b) :
    a.seconds ≤ b.seconds := by
  have hle : a.nanos ≤ b.nanos := h
  unfold seconds
  rw [Int.fdiv_eq_ediv_of_nonneg _ (by omega),
    Int.fdiv_eq_ediv_of_nonneg _ (by omega)]
  omega

theorem Instant.after_le {origin : Instant} {m n : Nat} (h : m ≤ n) :
    origin.after m ≤ origin.after n := by
  rw [le_def]
  unfold after
  dsimp only
  omega

theorem Instant.of_ofNanos? {n : Int} {t : Instant} (h : ofNanos? n = some t) :
    t.nanos = n ∧ t.inRange = true := by
  unfold ofNanos? at h
  by_cases hrange : (Instant.mk n).inRange = true
  · rw [if_pos hrange] at h
    rw [← Option.some.inj h]
    exact ⟨rfl, hrange⟩
  · rw [if_neg hrange] at h
    cases h

/-- Seconds that make a span are within its bound and make one as long. -/
theorem Span.of_ofSeconds? {secs : Int} {d : Span}
    (h : ofSeconds? secs = some d) :
    secs ≤ maxSeconds ∧ d.nanos = secs * 1000000000 := by
  unfold ofSeconds? at h
  by_cases hbounds : -maxSeconds ≤ secs ∧ secs ≤ maxSeconds
  · rw [if_pos hbounds] at h
    rw [← Option.some.inj h]
    exact ⟨hbounds.2, rfl⟩
  · rw [if_neg hbounds] at h
    cases h

namespace Poller

/-- The next tick is due a period after this one fired, at the latest. -/
theorem nextTick_le {period tick start : Nat} (h : tick ≤ start) :
    nextTick period tick start ≤ start + period := by
  unfold nextTick
  split <;> omega

theorem nextTick_self (period tick : Nat) :
    nextTick period tick tick = tick + period := by
  unfold nextTick
  rw [if_neg (by omega)]

/-- A window that is asked for starts at once and lasts a period, read as a
signed count; its end can be shown as a date. -/
theorem window_of_onTick {cfg : PollConfig} {now : Instant} {w : Window}
    (h : onTick cfg now = some w) :
    w.since = now
      ∧ w.till.nanos = now.nanos + signed64 cfg.periodSecs * 1000000000
      ∧ signed64 cfg.periodSecs ≤ Span.maxSeconds ∧ w.till.inRange = true := by
  unfold onTick at h
  by_cases hzero : cfg.periodSecs = 0
  · rw [if_pos hzero] at h
    cases h
  · rw [if_neg hzero] at h
    unfold window? at h
    rw [Option.bind_eq_bind, Option.bind_eq_some_iff] at h
    obtain ⟨span, hspan, h⟩ := h
    unfold Window.starting? Instant.add? at h
    obtain ⟨till, htill, rfl⟩ := Option.map_eq_some_iff.1 h
    obtain ⟨hmost, hnanos⟩ := Span.of_ofSeconds? hspan
    obtain ⟨htill, hrange⟩ := Instant.of_ofNanos? htill
    refine ⟨rfl, ?_, hmost, hrange⟩
    rw [← hnanos]
    exact htill

end Poller

namespace Fleet

variable {σ : Type} {engines : Engines σ} {f f' : Fleet} {s s' : σ}
  {i j : Slot}

-- ==================================================== who acts, and when

theorem earlier_le (a b : Slot × Poller × Nat) :
    (earlier a b).2.2 ≤ a.2.2 ∧ (earlier a b).2.2 ≤ b.2.2 := by
  unfold earlier
  split <;> omega

/-- The poller that acts next is due before all others. -/
theorem next_le {p : Poller} {moment : Nat}
    (hnext : f.next? = some (j, p, moment)) {x : Slot × Poller × Nat}
    (hx : x ∈ f.waking) : moment ≤ x.2.2 := by
  have hfold : ∀ (rest : List (Slot × Poller × Nat)) (a : Slot × Poller × Nat),
      ∀ y ∈ a :: rest, (rest.foldl earlier a).2.2 ≤ y.2.2 := by
    intro rest
    induction rest with
    | nil =>
      intro a y hy
      rw [List.mem_singleton.1 hy]
      exact Nat.le_refl _
    | cons b rest ih =>
      intro a y hy
      have hboth := earlier_le a b
      have hhead := ih (earlier a b) _ (List.mem_cons_self ..)
      rcases List.mem_cons.1 hy with rfl | hy
      · exact Nat.le_trans hhead hboth.1
      · rcases List.mem_cons.1 hy with rfl | hy
        · exact Nat.le_trans hhead hboth.2
        · exact ih (earlier a b) y (List.mem_cons_of_mem _ hy)
  unfold next? at hnext
  split at hnext
  case h_1 => cases hnext
  case h_2 a rest hall =>
    rw [hall] at hx
    have hle := hfold rest a x hx
    rw [Option.some.inj hnext] at hle
    exact hle

-- =================================================== what an act leaves be

/-- The poller of the registration at a place. -/
def poller? (f : Fleet) (i : Slot) : Option Poller :=
  (f.storage.at? i).bind Registration.poller

theorem poller?_of_at {r : Registration} {p : Poller}
    (hat : f.storage.at? i = some r) (hpoller : r.poller = some p) :
    f.poller? i = some p :=
  Option.bind_eq_some_iff.2 ⟨r, hat, hpoller⟩

/-- To set the poller at a place changes that one and no other. -/
theorem poller?_setPoller {r : Registration} (hat : f.storage.at? j = some r)
    (p : Poller) :
    (f.setPoller j p).poller? i = if j = i then some p else f.poller? i := by
  have hget : (f.setPoller j p).storage.at? i
      = (f.storage.at? i).map fun r =>
        if j = i then { r with poller := some p } else r := by
    show (f.storage.slots.modify j _)[i]? = (f.storage.slots[i]?).map _
    rw [List.getElem?_modify]
    rfl
  unfold poller?
  rw [hget]
  by_cases hij : j = i
  · subst hij
    rw [hat, if_pos rfl]
    simp
  · rw [if_neg hij]
    simp [hij]

/-- What a poller does that acts at `timer`: its phase before, its phase
behind it, and the window of the poll that it starts. -/
inductive Acts (cfg : PollConfig) (clock : Instant) (timer : Nat) :
    PollPhase → PollPhase → Option Window → Prop where
  | died {tick : Nat} (hwindow : Poller.onTick cfg clock = none) :
      Acts cfg clock timer (.waiting tick) .dead none
  | started {tick : Nat} {w : Window} (took : Nat) (answer : PollAnswer)
      (hwindow : Poller.onTick cfg clock = some w) :
      Acts cfg clock timer (.waiting tick)
        (.polling (timer + took) (Poller.nextTick cfg.periodMs tick timer)
          answer)
        (some w)
  | ended {done tick : Nat} {answer : PollAnswer} :
      Acts cfg clock timer (.polling done tick answer) (.waiting tick) none
  | rested : Acts cfg clock timer .dead .dead none

theorem Acts.polling {cfg : PollConfig} {clock : Instant} {timer : Nat}
    {before phase : PollPhase} {w : Window}
    (h : Acts cfg clock timer before phase (some w)) :
    ∃ done tick answer, phase = .polling done tick answer := by
  cases h
  exact ⟨_, _, _, rfl⟩

/-- An act changes the phase of one poller, and of what pollers go by
nothing. -/
theorem acts_of_act (engines : Engines σ) (s : σ) {r : Registration}
    {p : Poller} (hat : f.storage.at? j = some r)
    (hpoller : r.poller = some p) :
    let next := f.act engines j r.name p s
    ∃ phase window, Acts f.config.polling f.clock f.timer p.phase phase window
      ∧ (∀ i, next.1.poller? i = if j = i then some { p with phase }
        else f.poller? i)
      ∧ next.1.timer = f.timer ∧ next.1.config = f.config
      ∧ next.2.1 = window.map fun w => ⟨f.timer, r.name, p.address, w⟩ := by
  intro next
  have hset : ∀ phase i, (f.setPoller j { p with phase }).poller? i
      = if j = i then some { p with phase } else f.poller? i :=
    fun phase i => poller?_setPoller hat _
  cases hphase : p.phase with
  | waiting tick =>
    cases hwindow : Poller.onTick f.config.polling f.clock with
    | none =>
      have hnext :
          next = (f.setPoller j { p with phase := .dead }, none, s) := by
        simp only [next, act, hphase, hwindow]
      rw [hnext]
      exact ⟨_, _, .died hwindow, hset _, rfl, rfl, rfl⟩
    | some w =>
      have hnext : next
          = (f.setPoller j (p.polling f.config.polling tick f.timer
              (engines.poll r.name p.address w s).2.1
              (engines.poll r.name p.address w s).1),
            some ⟨f.timer, r.name, p.address, w⟩,
            (engines.poll r.name p.address w s).2.2) := by
        simp only [next, act, hphase, hwindow]
      rw [hnext]
      exact ⟨_, _, .started _ _ hwindow, hset _, rfl, rfl, rfl⟩
  | polling done tick answer =>
    have hnext : next
        = ((f.setPoller j { p with phase := .waiting tick }).deliver engines j
            r.name answer, none, s) := by
      simp only [next, act, hphase]
    obtain ⟨_, _, _, _, hdeliver⟩ := deliver_eq engines j r.name answer
      (f.setPoller j { p with phase := .waiting tick })
    rw [hnext, hdeliver]
    exact ⟨_, _, .ended, hset _, rfl, rfl, rfl⟩
  | dead =>
    have hnext : next = (f, none, s) := by
      simp only [next, act, hphase]
    rw [hnext]
    refine ⟨_, _, .rested, fun i => ?_, rfl, rfl, rfl⟩
    by_cases hij : j = i
    · subst hij
      unfold poller?
      rw [if_pos rfl, hat, ← hphase]
      exact hpoller
    · rw [if_neg hij]

-- ============================================================ a timeline

/-- A poll, and when it was over. -/
structure Stint where
  poll : Poll
  /-- Milliseconds of the timer. -/
  done : Nat

/-- The polls that the poller at `i` has just started. -/
def begun (f : Fleet) (i : Slot) (polls : List Poll) : List Stint :=
  polls.filterMap fun poll =>
    match (f.poller? i).map Poller.phase with
    | some (.polling done _ _) => some ⟨poll, done⟩
    | _ => none

/-- A poller that is polling has begun its poll. -/
theorem begun_polling {p : Poller} {done tick : Nat} {answer : PollAnswer}
    (hpoller : f.poller? i = some p)
    (hphase : p.phase = .polling done tick answer) (poll : Poll) :
    f.begun i [poll] = [⟨poll, done⟩] := by
  unfold begun
  rw [hpoller]
  simp [hphase]

/-- What a poller has begun that has acted at `timer`: no poll, or one. -/
inductive Begins (cfg : PollConfig) (clock : Instant) (timer : Nat)
    (p : Poller) : PollPhase → List Stint → Prop where
  | none {phase : PollPhase}
      (hacts : Acts cfg clock timer p.phase phase none) :
      Begins cfg clock timer p phase []
  | one {done tick : Nat} {answer : PollAnswer} {w : Window} (node : String)
      (hacts : Acts cfg clock timer p.phase (.polling done tick answer)
        (some w)) :
      Begins cfg clock timer p (.polling done tick answer)
        [⟨⟨timer, node, p.address, w⟩, done⟩]

/-- What may become of a fleet whose clock shows its timer whenever a poller
acts, and the polls of the poller at `i` meanwhile. -/
inductive Timeline (engines : Engines σ) (origin : Instant) (i : Slot) :
    Fleet → σ → List Stint → Prop where
  | stop {f : Fleet} {s : σ} : Timeline engines origin i f s []
  /-- Time passes while no poller is due. -/
  | passed {f : Fleet} {s : σ} {polls : List Stint} {timer : Nat}
      (hnow : f.timer ≤ timer) (hdue : ∀ x ∈ f.waking, timer ≤ x.2.2)
      (rest : Timeline engines origin i { f with timer } s polls) :
      Timeline engines origin i f s polls
  /-- Anything is done with the fleet that lets this poller go on. -/
  | meanwhile {f f' : Fleet} {s s' : σ} {polls : List Stint}
      (htimer : f'.timer = f.timer) (hconfig : f'.config = f.config)
      (hpoller : f'.poller? i = f.poller? i)
      (rest : Timeline engines origin i f' s' polls) :
      Timeline engines origin i f s polls
  /-- The poller acts that is due next. -/
  | acted {f f' : Fleet} {s s' : σ} {j : Slot} {p : Poller} {moment : Nat}
      {started : List Poll} {polls : List Stint}
      (hnext : f.next? = some (j, p, moment))
      (hrun : { f with clock := origin.after (max f.timer moment) }.runUntil
        engines moment 1 s = (f', started, s'))
      (rest : Timeline engines origin i f' s' polls) :
      Timeline engines origin i f s
        ((if j = i then f'.begun i started else []) ++ polls)

namespace Stint

/-- The second from which a poll asks for events. -/
def since (a : Stint) : Int := a.poll.window.since.seconds

/-- The second up to which a poll asks for events. -/
def till (a : Stint) : Int := a.poll.window.till.seconds

/-- A poll is over in time, if the second that it ends in is not behind its
window. -/
def InTime (origin : Instant) (a : Stint) : Prop :=
  (origin.after a.done).seconds ≤ a.till

instance (origin : Instant) (a : Stint) : Decidable (a.InTime origin) :=
  inferInstanceAs (Decidable (_ ≤ _))

/-- A poll asks for a period from its start on, and that ends at a date. -/
def Timely (cfg : PollConfig) (origin : Instant) (a : Stint) : Prop :=
  a.poll.window.since = origin.after a.poll.start
    ∧ a.poll.window.till.nanos
        = (origin.after a.poll.start).nanos
          + signed64 cfg.periodSecs * 1000000000
    ∧ a.poll.window.till.inRange = true

/-- Of two polls, the second starts where the first one's window ends or
before, just if the first one is over in time; it is, if it lasts no longer
than a period. -/
def Meets (cfg : PollConfig) (origin : Instant) (a b : Stint) : Prop :=
  (b.since ≤ a.till ↔ a.InTime origin)
    ∧ (a.done ≤ a.poll.start + cfg.periodMs → a.InTime origin)

end Stint

-- ================================================= what a poller waits for

/-- The tick behind the poll `a` is due a period after it started at the
latest; a period that does not count as a positive one is waited for in
full. -/
def Follows (cfg : PollConfig) (a : Stint) (tick : Nat) : Prop :=
  tick ≤ a.poll.start + cfg.periodMs
    ∧ (9223372036854775808 ≤ cfg.periodSecs →
      a.poll.start + cfg.periodMs ≤ tick)

/-- Where a poller stands at `timer`, behind its latest poll. Its next one is
due at its tick, and not before the latest is over. -/
def Stands (cfg : PollConfig) (begin timer : Nat) :
    Option Stint → PollPhase → Prop
  | none, .waiting tick => timer ≤ tick ∧ tick = begin
  | some a, .waiting tick =>
    a.done ≤ timer ∧ timer ≤ max tick a.done ∧ Follows cfg a tick
  | some a, .polling done tick _ =>
    timer ≤ done ∧ a.done = done ∧ Follows cfg a tick
  | none, .polling _ _ _ => False
  | _, .dead => True

variable {cfg : PollConfig} {origin : Instant} {a b : Stint} {tick : Nat}

/-- Where a second poll can be made at all, the period is a positive count:
years end before one of the others does. -/
theorem Follows.period_lt (h : Follows cfg a tick) (ha : a.Timely cfg origin)
    (hb : b.Timely cfg origin) (hstart : tick ≤ b.poll.start) :
    cfg.periodSecs < 9223372036854775808 := by
  obtain ⟨-, haTill, haRange⟩ := ha
  obtain ⟨-, hbTill, hbRange⟩ := hb
  by_cases hlong : 9223372036854775808 ≤ cfg.periodSecs
  · have hwait := h.2 hlong
    unfold Instant.inRange Instant.earliest Instant.latest at haRange hbRange
    rw [haTill] at haRange
    rw [hbTill] at hbRange
    generalize signed64 cfg.periodSecs = period at haRange hbRange
    unfold Instant.after at haRange hbRange
    unfold PollConfig.periodMs at hwait
    simp only [Bool.and_eq_true, decide_eq_true_eq] at haRange hbRange
    omega
  · omega

/-- What lies between two polls: the second starts at its tick or behind the
first, whichever is later, and only the first can be to blame for a gap. -/
theorem Follows.meets (h : Follows cfg a tick) (ha : a.Timely cfg origin)
    (hb : b.Timely cfg origin) (hstart : b.poll.start = max tick a.done) :
    a.Meets cfg origin b := by
  have hperiod : cfg.periodSecs < 9223372036854775808 :=
    h.period_lt ha hb (by omega)
  have htill :
      a.poll.window.till = origin.after (a.poll.start + cfg.periodMs) := by
    have hnanos := ha.2.1
    rw [signed64_of_lt hperiod] at hnanos
    have hwhole : a.poll.window.till.nanos
        = (origin.after (a.poll.start + cfg.periodMs)).nanos := by
      rw [hnanos]
      unfold Instant.after PollConfig.periodMs
      dsimp only
      omega
    cases hw : a.poll.window.till
    rw [hw] at hwhole
    exact congrArg Instant.mk hwhole
  have hends : ∀ ms, ms ≤ a.poll.start + cfg.periodMs →
      (origin.after ms).seconds ≤ a.till := by
    intro ms hms
    unfold Stint.till
    rw [htill]
    exact Instant.seconds_mono (Instant.after_le hms)
  refine ⟨?_, fun hdone => hends _ hdone⟩
  have hsince : b.since = (origin.after (max tick a.done)).seconds := by
    unfold Stint.since
    rw [hb.1, hstart]
  rw [hsince]
  unfold Stint.InTime
  by_cases hlate : tick ≤ a.done
  · rw [Nat.max_eq_right hlate]
  · have hnext := hends tick h.1
    have hdone := hends a.done (by have := h.1; omega)
    rw [Nat.max_eq_left (by omega)]
    exact iff_of_true hnext hdone

variable {begin timer moment : Nat} {last : Option Stint} {p : Poller}
  {phase : PollPhase}

theorem stands_dead : Stands cfg begin timer last .dead := by
  cases last <;> trivial

/-- Time that passes no further than to the moment when the poller is due. -/
theorem Stands.pass {timer' : Nat} (h : Stands cfg begin timer last p.phase)
    (hnow : timer ≤ timer')
    (hdue : ∀ moment, p.wake? = some moment → timer' ≤ max timer moment) :
    Stands cfg begin timer' last p.phase := by
  unfold Poller.wake? at hdue
  generalize p.phase = phase at h hdue
  cases phase with
  | dead => exact stands_dead
  | waiting tick =>
    have htick := hdue tick rfl
    cases last with
    | none =>
      obtain ⟨hbefore, hbegin⟩ := h
      exact ⟨by omega, hbegin⟩
    | some a =>
      obtain ⟨hdone, hbefore, hfollows⟩ := h
      refine ⟨?_, ?_, hfollows⟩ <;> omega
  | polling done tick answer =>
    have hend := hdue done rfl
    cases last with
    | none => cases h
    | some a =>
      obtain ⟨hbefore, hdone, hfollows⟩ := h
      exact ⟨by omega, hdone, hfollows⟩

/-- A poller that acts at its time and starts no poll stands where it
should. -/
theorem Stands.quiet {clock : Instant}
    (h : Stands cfg begin timer last p.phase) (hwake : p.wake? = some moment)
    (hacts : Acts cfg clock (max timer moment) p.phase phase none) :
    Stands cfg begin (max timer moment) last phase := by
  unfold Poller.wake? at hwake
  generalize p.phase = before at h hwake hacts
  cases hacts with
  | died => exact stands_dead
  | rested => exact stands_dead
  | ended =>
    cases last with
    | none => cases h
    | some a =>
      obtain ⟨hnow, hdone, hfollows⟩ := h
      cases hwake
      refine ⟨?_, ?_, hfollows⟩ <;> omega

/-- A poller that acts at its time and starts a poll stands where it should.
The poll is timely, it starts at `begin` if it is the first, and it meets the
latest one else. -/
theorem Stands.polled {w : Window} {done tick : Nat} {answer : PollAnswer}
    (h : Stands cfg begin timer last p.phase)
    (hlast : ∀ b ∈ last, b.Timely cfg origin) (hwake : p.wake? = some moment)
    (hacts : Acts cfg (origin.after (max timer moment)) (max timer moment)
      p.phase (.polling done tick answer) (some w))
    (node address : String) :
    let a : Stint := ⟨⟨max timer moment, node, address, w⟩, done⟩
    a.Timely cfg origin
      ∧ Stands cfg begin (max timer moment) (some a)
        (.polling done tick answer)
      ∧ (last = none → a.poll.start = begin)
      ∧ ∀ b ∈ last, b.Meets cfg origin a := by
  unfold Poller.wake? at hwake
  generalize p.phase = before at h hwake hacts
  cases hacts with
  | started took _ hwindow =>
    cases hwake
    obtain ⟨hsince, htill, -, hrange⟩ := Poller.window_of_onTick hwindow
    have hnext : Poller.nextTick cfg.periodMs moment (max timer moment)
        ≤ max timer moment + cfg.periodMs := Poller.nextTick_le (by omega)
    refine ⟨⟨hsince, htill, hrange⟩, ?_⟩
    cases last with
    | none =>
      obtain ⟨hnow, hbegin⟩ := h
      have hstart : max timer moment = moment := by omega
      refine ⟨⟨by omega, rfl, hnext, fun _ => ?_⟩,
        fun _ => hstart.trans hbegin, ?_⟩
      · rw [hstart]
        exact Nat.le_of_eq (Poller.nextTick_self cfg.periodMs moment).symm
      · intro b hb
        cases hb
    | some b =>
      obtain ⟨hdone, hnow, hfollows⟩ := h
      let a : Stint :=
        ⟨⟨max timer moment, node, address, w⟩, max timer moment + took⟩
      have ha : a.Timely cfg origin := ⟨hsince, htill, hrange⟩
      have hstart : a.poll.start = max moment b.done := by
        show max timer moment = _
        omega
      have hperiod := hfollows.period_lt (hlast b rfl) ha (by omega)
      refine ⟨⟨by omega, rfl, hnext, fun hlong => by omega⟩, nofun, ?_⟩
      intro b' hb
      cases hb
      exact hfollows.meets (hlast b rfl) ha hstart

-- ============================================== the polls of a timeline

theorem runUntil_one {r : Registration} (hnext : f.next? = some (j, p, moment))
    (hat : f.storage.at? j = some r) :
    f.runUntil engines moment 1 s
      = let next :=
          { f with timer := max f.timer moment }.act engines j r.name p s
        (next.1, next.2.1.toList, next.2.2) := by
  simp only [runUntil, hnext, hat, if_neg (Nat.lt_irrefl moment),
    List.append_nil]

/-- The poller that is due next acts at its moment, or as soon as the timer is
there. -/
theorem acts_of_runUntil {started : List Poll}
    (hnext : f.next? = some (j, p, moment))
    (hrun : f.runUntil engines moment 1 s = (f', started, s')) :
    ∃ r phase window, f.storage.at? j = some r ∧ r.poller = some p
      ∧ p.wake? = some moment
      ∧ Acts f.config.polling f.clock (max f.timer moment) p.phase phase window
      ∧ (∀ i, f'.poller? i = if j = i then some { p with phase }
        else f.poller? i)
      ∧ f'.timer = max f.timer moment ∧ f'.config = f.config
      ∧ started
        = (window.map fun w =>
            ⟨max f.timer moment, r.name, p.address, w⟩).toList := by
  obtain ⟨r, hat, hr, hwake⟩ := mem_waking.1 (next_mem_waking hnext)
  obtain ⟨phase, window, hacts, hpollers, htimer, hconfig, hpoll⟩ :=
    acts_of_act (f := { f with timer := max f.timer moment }) engines s hat hr
  rw [runUntil_one hnext hat] at hrun
  cases hrun
  exact ⟨r, phase, window, hat, hr, hwake, hacts, hpollers, htimer, hconfig,
    congrArg _ hpoll⟩

/-- To the poller at a place, that is the turn of another one, which was due no
later, or its own. -/
theorem turn_of_runUntil {q : Poller} {started : List Poll}
    (hpoller : f.poller? i = some p) (hnext : f.next? = some (j, q, moment))
    (hrun : f.runUntil engines moment 1 s = (f', started, s')) :
    f'.timer = max f.timer moment ∧ f'.config = f.config
      ∧ (j ≠ i ∧ f'.poller? i = some p
          ∧ (∀ due, p.wake? = some due → moment ≤ due)
        ∨ j = i ∧ q = p ∧ p.wake? = some moment
          ∧ ∃ phase, f'.poller? i = some { p with phase }
            ∧ Begins f.config.polling f.clock (max f.timer moment) p phase
                (f'.begun i started)) := by
  obtain ⟨r, phase, window, hat, hq, hwake, hacts, hpollers, htimer, hconfig,
      hstarted⟩ :=
    acts_of_runUntil hnext hrun
  refine ⟨htimer, hconfig, ?_⟩
  have hpoller' := hpollers i
  by_cases hji : j = i
  case neg =>
    rw [if_neg hji] at hpoller'
    refine .inl ⟨hji, hpoller'.trans hpoller, fun due hdue => ?_⟩
    obtain ⟨r', hat', hr'⟩ := Option.bind_eq_some_iff.1 hpoller
    exact next_le (x := (i, p, due)) hnext (mem_waking.2 ⟨r', hat', hr', hdue⟩)
  case pos =>
    subst hji
    have hsame : q = p :=
      Option.some.inj ((poller?_of_at hat hq).symm.trans hpoller)
    subst hsame
    rw [if_pos rfl] at hpoller'
    refine .inr ⟨rfl, rfl, hwake, phase, hpoller', ?_⟩
    rw [hstarted]
    cases window with
    | none => exact .none hacts
    | some w =>
      obtain ⟨done, tick, answer, rfl⟩ := hacts.polling
      exact begun_polling hpoller' rfl _ ▸ .one r.name hacts

/-- Behind its latest poll, whatever becomes of the fleet, the polls of a
poller are timely, the first of all starts at `begin`, and each meets the one
before. By induction on the timeline. -/
theorem Timeline.chain {polls : List Stint}
    (h : Timeline engines origin i f s polls) (hcfg : f.config.polling = cfg)
    (hpoller : f.poller? i = some p)
    (hstands : Stands cfg begin f.timer last p.phase)
    (hlast : ∀ a ∈ last, a.Timely cfg origin) :
    (last.toList ++ polls).IsChain (Stint.Meets cfg origin)
      ∧ (∀ a ∈ polls, a.Timely cfg origin)
      ∧ (last = none → ∀ a ∈ polls.head?, a.poll.start = begin) := by
  induction h generalizing p last with
  | stop =>
    refine ⟨?_, fun a ha => absurd ha List.not_mem_nil,
      fun _ a ha => by cases ha⟩
    cases last with
    | none => exact .nil
    | some a => exact .singleton a
  | passed hnow hdue rest ih =>
    obtain ⟨r, hat, hr⟩ := Option.bind_eq_some_iff.1 hpoller
    refine ih hcfg hpoller (hstands.pass hnow fun moment hwake => ?_) hlast
    have hmem : (i, p, moment) ∈ _ := mem_waking.2 ⟨r, hat, hr, hwake⟩
    exact Nat.le_trans (hdue (i, p, moment) hmem) (Nat.le_max_right ..)
  | meanwhile htimer hconfig hsame rest ih =>
    exact ih (hconfig ▸ hcfg) (hsame.trans hpoller) (htimer ▸ hstands) hlast
  | @acted f f' s s' j q moment started polls hnext hrun rest ih =>
    obtain ⟨htimer, hconfig, hturn⟩ :=
      turn_of_runUntil
        (f := { f with clock := origin.after (max f.timer moment) })
        hpoller hnext hrun
    dsimp only at htimer hconfig hturn
    have hcfg' : f'.config.polling = cfg := hconfig ▸ hcfg
    rw [hcfg] at hturn
    rcases hturn with ⟨hji, hpoller', hlater⟩
      | ⟨rfl, rfl, hwake, phase, hpoller', hbegins⟩
    · rw [if_neg hji]
      refine ih hcfg' hpoller' ?_ hlast
      rw [htimer]
      refine hstands.pass (Nat.le_max_left ..) fun due hdue => ?_
      have := hlater due hdue
      omega
    · rw [if_pos rfl]
      generalize f'.begun j started = begun at hbegins
      cases hbegins with
      | none hacts =>
        exact ih hcfg' hpoller' (htimer ▸ hstands.quiet hwake hacts) hlast
      | @one done _ _ w node hacts =>
        obtain ⟨ha, hstands', hfirst, hmeets⟩ :=
          hstands.polled hlast hwake hacts node q.address
        have hlast' :
            ∀ b ∈ some
                (⟨⟨max f.timer moment, node, q.address, w⟩, done⟩ : Stint),
              b.Timely cfg origin :=
          fun b hb => Option.mem_some_iff.1 hb ▸ ha
        obtain ⟨hchain, htimely, -⟩ :=
          ih hcfg' hpoller' (htimer ▸ hstands') hlast'
        refine ⟨?_, List.forall_mem_cons.2 ⟨ha, htimely⟩, fun hnone a ha => ?_⟩
        · cases last with
          | none => exact hchain
          | some b => exact .cons_cons (hmeets b rfl) hchain
        · rw [← Option.some.inj ha]
          exact hfirst hnone

/-- Polls of which all but the last are over in time leave no second out. -/
theorem covered_of_chain {polls : List Stint} {second : Int}
    (hchain : (a :: polls).IsChain (Stint.Meets cfg origin))
    (hinTime : ∀ x ∈ (a :: polls).dropLast, x.InTime origin)
    (hlast : b ∈ (a :: polls).getLast?) (hfrom : a.since ≤ second)
    (hto : second ≤ b.till) :
    ∃ x ∈ a :: polls, x.since ≤ second ∧ second ≤ x.till := by
  induction polls generalizing a with
  | nil =>
    cases hlast
    exact ⟨a, List.mem_cons_self .., hfrom, hto⟩
  | cons c rest ih =>
    obtain ⟨hmeets, hrest⟩ := List.isChain_cons_cons.1 hchain
    obtain ⟨hfirst, hinTime⟩ := List.forall_mem_cons.1 hinTime
    by_cases hcovered : second ≤ a.till
    · exact ⟨a, List.mem_cons_self .., hfrom, hcovered⟩
    · have hnext : c.since ≤ a.till := hmeets.1.2 hfirst
      rw [List.getLast?_cons_cons] at hlast
      obtain ⟨x, hx, hboth⟩ := ih hrest hinTime hlast (by omega)
      exact ⟨x, List.mem_cons_of_mem _ hx, hboth⟩

/-- The windows of a poller that has just been started: whatever becomes of
the fleet, the first is asked for behind the initial delay, each starts with
its poll and lasts a period, and the next one reaches back to its end just if
the poll was over in time. So where all polls but the last are over in time,
every second between the ends is asked for. -/
theorem windows_meet {serial : Nat} {address : String} {polls : List Stint}
    (hstart : f.poller? i
      = some (.start serial address f.config.polling f.timer))
    (h : Timeline engines origin i f s polls) :
    (∀ a ∈ polls.head?,
        a.poll.start = f.timer + f.config.polling.initialDelayMs)
      ∧ (∀ a ∈ polls, a.Timely f.config.polling origin)
      ∧ polls.IsChain (Stint.Meets f.config.polling origin)
      ∧ ((∀ a ∈ polls.dropLast, a.InTime origin) →
          ∀ first ∈ polls.head?, ∀ last ∈ polls.getLast?, ∀ second : Int,
            first.since ≤ second → second ≤ last.till →
              ∃ a ∈ polls, a.since ≤ second ∧ second ≤ a.till) := by
  have hstands :
      Stands f.config.polling (f.timer + f.config.polling.initialDelayMs)
        f.timer none
        (Poller.start serial address f.config.polling f.timer).phase :=
    ⟨Nat.le_add_right .., rfl⟩
  obtain ⟨hchain, htimely, hbegin⟩ :=
    h.chain rfl hstart hstands (fun a ha => by cases ha)
  refine ⟨hbegin rfl, htimely, hchain,
    fun hinTime first hfirst last hlast second => ?_⟩
  cases polls with
  | nil => cases hfirst
  | cons a rest =>
    cases hfirst
    exact covered_of_chain hchain hinTime hlast

/-- Once per second, from the start on. -/
def eachSecond : PollConfig := { initialDelaySecs := 0, periodSecs := 1 }

/-- A fleet with one node that is polled. -/
def oneNode (clock : Instant) (timer : Nat) (phase : PollPhase) : Fleet :=
  let node : Registration :=
    { Registration.ofInfo { name := "n1", address := some "10.0.0.1:2375" }
        with
      client := some ⟨"10.0.0.1:2375", 0⟩
      poller := some { serial := 0, address := "10.0.0.1:2375", phase } }
  { config := { polling := eachSecond }, clock, timer,
    storage := { slots := [node], names := (∅ : Table Slot).insert "n1" 0,
                 started := 1 },
    lifecycle := .ofCapacity 8, logs := .ofCapacity 8,
    health := [.ofCapacity 8] }

/-- Engines that take so many milliseconds and have nothing to tell. -/
def idle (took : Nat) : Engines Unit where
  makeClient _ _ := .ok ()
  poll _ _ _ s := ({ events := [], result := .ok 0 }, took, s)

/-- What such an engine brings. -/
def nothing : PollAnswer := { events := [], result := .ok 0 }

/-- When its tick comes it starts a poll that takes so long. -/
theorem oneNode_starts {took start tick : Nat} {clock : Instant} {w : Window}
    (hwindow : Poller.onTick eachSecond clock = some w) :
    (oneNode clock start (.waiting tick)).act (idle took) 0 "n1"
        { serial := 0, address := "10.0.0.1:2375", phase := .waiting tick } ()
      = (oneNode clock start
          (.polling (start + took)
            (Poller.nextTick eachSecond.periodMs tick start) nothing),
        some ⟨start, "n1", "10.0.0.1:2375", w⟩, ()) := by
  have hnext :
      Poller.onTick (oneNode clock start (.waiting tick)).config.polling
        (oneNode clock start (.waiting tick)).clock = some w := hwindow
  simp only [act, hnext]
  rfl

theorem oneNode_ends {took now done tick : Nat} {clock : Instant} :
    (oneNode clock now (.polling done tick nothing)).act (idle took) 0 "n1"
        { serial := 0, address := "10.0.0.1:2375",
          phase := .polling done tick nothing } ()
      = (oneNode clock now (.waiting tick), none, ()) :=
  rfl

/-- That node is due next, and it acts at its moment or as soon as the timer
is there. -/
theorem oneNode_run {took timer moment now : Nat} {clock : Instant}
    {phase phase' : PollPhase} {poll : Option Poll}
    (hnow : max timer moment = now)
    (hnext : (oneNode clock timer phase).next?
      = some (0, { serial := 0, address := "10.0.0.1:2375", phase }, moment))
    (hact : (oneNode clock now phase).act (idle took) 0 "n1"
        { serial := 0, address := "10.0.0.1:2375", phase } ()
      = (oneNode clock now phase', poll, ())) :
    (oneNode clock timer phase).runUntil (idle took) moment 1 ()
      = (oneNode clock now phase', poll.toList, ()) := by
  subst hnow
  exact (runUntil_one hnext rfl).trans
    (congrArg (fun next => (next.1, next.2.1.toList, next.2.2)) hact)

/-- A fleet of one node in which its poller acts next: what that poll covers
stands in front of what the rest of the time brings. -/
theorem oneNode_acted {took timer moment now : Nat} {clock : Instant}
    {phase phase' : PollPhase} {poll : Option Poll} {polls : List Stint}
    (hnow : max timer moment = now)
    (hnext : (oneNode clock timer phase).next?
      = some (0, { serial := 0, address := "10.0.0.1:2375", phase }, moment))
    (hact : (oneNode (Instant.after ⟨0⟩ now) now phase).act (idle took) 0 "n1"
        { serial := 0, address := "10.0.0.1:2375", phase } ()
      = (oneNode (Instant.after ⟨0⟩ now) now phase', poll, ()))
    (rest : Timeline (idle took) ⟨0⟩ 0
      (oneNode (Instant.after ⟨0⟩ now) now phase') () polls) :
    Timeline (idle took) ⟨0⟩ 0 (oneNode clock timer phase) ()
      ((oneNode (Instant.after ⟨0⟩ now) now phase').begun 0 poll.toList
        ++ polls) := by
  have hdue : (oneNode (Instant.after ⟨0⟩ now) timer phase).next?
      = some (0, { serial := 0, address := "10.0.0.1:2375", phase }, moment) :=
    hnext
  have hrun := oneNode_run hnow hdue hact
  subst hnow
  exact .acted (j := 0) hnext hrun rest

/-- The next poll of that node, from its start to its end. -/
theorem oneNode_turn {took tick timer start done : Nat} {clock : Instant}
    {w : Window} {polls : List Stint} (hstart : max timer tick = start)
    (hdone : start + took = done)
    (hwindow : Poller.onTick eachSecond (Instant.after ⟨0⟩ start) = some w)
    (rest : Timeline (idle took) ⟨0⟩ 0
      (oneNode (Instant.after ⟨0⟩ done) done
        (.waiting (Poller.nextTick eachSecond.periodMs tick start))) ()
      polls) :
    Timeline (idle took) ⟨0⟩ 0 (oneNode clock timer (.waiting tick)) ()
      (⟨⟨start, "n1", "10.0.0.1:2375", w⟩, done⟩ :: polls) := by
  subst hdone
  let next := Poller.nextTick eachSecond.periodMs tick start
  have hlater : max start (start + took) = start + took := by omega
  have hwaits : Timeline (idle took) ⟨0⟩ 0
      (oneNode (Instant.after ⟨0⟩ start) start
        (.polling (start + took) next nothing)) () _ :=
    oneNode_acted hlater rfl oneNode_ends rest
  exact oneNode_acted hstart rfl (oneNode_starts hwindow) hwaits

/-- Polls that take 1400 milliseconds are longer than the period, and yet over
in time: each ends in the second in which its window does. -/
theorem windows_meet_of_slow :
    ∃ polls, (oneNode ⟨0⟩ 0 (.waiting 0)).poller? 0
          = some (.start 0 "10.0.0.1:2375" eachSecond 0)
      ∧ Timeline (idle 1400) ⟨0⟩ 0 (oneNode ⟨0⟩ 0 (.waiting 0)) () polls
      ∧ polls.map (fun a => (a.since, a.till, a.done))
        = [(0, 1, 1400), (1, 2, 2800)]
      ∧ ∀ second : Int, 0 ≤ second → second ≤ 2 →
          ∃ a ∈ polls, a.since ≤ second ∧ second ≤ a.till := by
  have hstart : (oneNode ⟨0⟩ 0 (.waiting 0)).poller? 0
      = some (.start 0 "10.0.0.1:2375" eachSecond 0) := rfl
  have htimeline : Timeline (idle 1400) ⟨0⟩ 0 (oneNode ⟨0⟩ 0 (.waiting 0)) ()
      [⟨⟨0, "n1", "10.0.0.1:2375", ⟨⟨0⟩, ⟨1000000000⟩⟩⟩, 1400⟩,
       ⟨⟨1400, "n1", "10.0.0.1:2375", ⟨⟨1400000000⟩, ⟨2400000000⟩⟩⟩, 2800⟩] :=
    oneNode_turn rfl rfl (by decide)
      (oneNode_turn (by decide) rfl (by decide) .stop)
  obtain ⟨-, -, -, hcovered⟩ := windows_meet hstart htimeline
  refine ⟨_, hstart, htimeline, ?_, hcovered ?_ _ rfl _ rfl⟩
  · decide
  · decide

/-- A poll that takes three periods leaves a gap: it asked for events up to
the first second, the next one asks from the third on, and nobody ever asks
for those of the second. -/
theorem overrun_leaves_gap :
    ∃ polls, (oneNode ⟨0⟩ 0 (.waiting 0)).poller? 0
          = some (.start 0 "10.0.0.1:2375" eachSecond 0)
      ∧ Timeline (idle 3000) ⟨0⟩ 0 (oneNode ⟨0⟩ 0 (.waiting 0)) () polls
      ∧ polls.map (fun a => (a.since, a.till)) = [(0, 1), (3, 4)]
      ∧ ¬ polls.IsChain (fun a b => b.since ≤ a.till)
      ∧ ¬ ∃ a ∈ polls, a.since ≤ 2 ∧ 2 ≤ a.till := by
  have htimeline : Timeline (idle 3000) ⟨0⟩ 0 (oneNode ⟨0⟩ 0 (.waiting 0)) ()
      [⟨⟨0, "n1", "10.0.0.1:2375", ⟨⟨0⟩, ⟨1000000000⟩⟩⟩, 3000⟩,
       ⟨⟨3000, "n1", "10.0.0.1:2375", ⟨⟨3000000000⟩, ⟨4000000000⟩⟩⟩, 6000⟩] :=
    oneNode_turn rfl rfl (by decide)
      (oneNode_turn (by decide) rfl (by decide) .stop)
  refine ⟨_, rfl, htimeline, ?_, ?_, ?_⟩
  · decide
  · decide
  · decide

end Fleet

end Fleetkeeper
