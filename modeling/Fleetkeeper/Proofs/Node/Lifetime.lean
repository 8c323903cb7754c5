/-
A poller does not end by itself. Only a tick can end it, where the window that
is due cannot be reckoned, and what its engine answers does not come into that.

# Courses

`Course` is what may befall a fleet from some moment on: things are asked of
its storage, the timer moves on, and the pollers that are due act, whatever
the clock shows by then. Which of all events may come is a parameter, so that
a law says what it needs of them: here, of the clock (`Event.Timely`), and that
a client is left where it is (`Event.Spares`).

# Why it holds

No poller that has ended is made by requests (`lively_asked`), and none is made
by a poller that acts while the window of a poll ends at a date
(`lively_acted`). That is all of it: pollers and clients come in pairs on every
course (`Reached.wired`), so where there is a client a poller goes on, and
where the client stays the poller does.

# How far it goes

Windows last a period, and settings are accepted with every period of 64 bits.
The law is for periods that end at a date, as all of `Instant.mostSeconds` or
less do in the years up to 9999. The longest do not, and then the first tick
ends the poller and leaves the client where it is (`overlong_period_ends`).
-/
import Fleetkeeper.Proofs.Node.Sparing
import Fleetkeeper.Proofs.Node.Windows

namespace Fleetkeeper

/-- A registration with this client, and a poller of it that goes on. -/
structure Registration.Polls (c : Client) (r : Registration) : Prop where
  client : r.client = some c
  poller : r.poller.map Poller.client = some c
  going : r.isPolling = true

/-- A binding that succeeds leaves the client that it gives. -/
theorem Registration.client_of_bind {env : Services} {address : String}
    {c : Client} {r : Registration} (h : (r.bind env address).result = .ok c) :
    (r.bind env address).state.client = some c := by
  generalize hs : r.bind env address = step at h ⊢
  have hbinding : Binding env address r step :=
    hs ▸ binding_of_bind env address r
  cases hbinding with
  | kept hclient =>
    cases h
    exact hclient
  | made =>
    cases h
    rfl
  | shut | refused | stranded => cases h

namespace Fleet

variable {σ : Type} {engines : Engines σ} {f f₁ f' : Fleet} {s s₁ s' : σ}
  {i j : Slot} {c : Client} {p : Poller} {cfg : PollConfig}

-- ================================================================ courses

/-- Something that befalls a fleet. -/
inductive Event where
  /-- Something is asked of its storage. -/
  | asked (env : Surroundings) (q : Storage.Request)
  /-- The timer moves on to here. -/
  | passed (timer : Nat)
  /-- The poller that is due next acts, and the clock shows this. -/
  | acted (clock : Instant)

/-- What is asked of a fleet finds its settings and its timer around it. -/
def around (env : Surroundings) (f : Fleet) : Surroundings :=
  { env with config := f.config, timer := f.timer }

/-- A tick of the poller at a place, and the polls that it has started. -/
structure Tick where
  place : Slot
  /-- What the clock showed. -/
  clock : Instant
  polls : List Stint

/-- The tick that a poller had in acting, if it was waiting for one. -/
def ticked (i : Slot) (p : Poller) (clock : Instant) (polls : List Stint) :
    List Tick :=
  match p.phase with
  | .waiting _ => [⟨i, clock, polls⟩]
  | .polling _ _ _ | .dead => []

/-- What may become of a fleet, with all ticks of its pollers meanwhile. -/
inductive Course (engines : Engines σ) (may : Fleet → Event → Prop) :
    Fleet → σ → List Tick → Fleet → σ → Prop where
  | stop {f : Fleet} {s : σ} : Course engines may f s [] f s
  /-- A request, less those that are moves of pollers. -/
  | asked {f f₁ f' : Fleet} {s s' : σ} {ticks : List Tick} (env : Surroundings)
      (q : Storage.Request) (hmay : may f (.asked env q))
      (hasked : ∀ j phase, q ≠ .moveOn j phase)
      (hstorage : f₁.storage = (q.perform (f.around env) f.storage).1)
      (hconfig : f₁.config = f.config) (htimer : f₁.timer = f.timer)
      (rest : Course engines may f₁ s ticks f' s') :
      Course engines may f s ticks f' s'
  | passed {f f' : Fleet} {s s' : σ} {ticks : List Tick} {timer : Nat}
      (hmay : may f (.passed timer)) (hnow : f.timer ≤ timer)
      (rest : Course engines may { f with timer } s ticks f' s') :
      Course engines may f s ticks f' s'
  | acted {f f₁ f' : Fleet} {s s₁ s' : σ} {ticks : List Tick} {clock : Instant}
      {j : Slot} {p : Poller} {moment : Nat} {started : List Poll}
      (hmay : may f (.acted clock)) (hnext : f.next? = some (j, p, moment))
      (hrun : { f with clock }.runUntil engines moment 1 s = (f₁, started, s₁))
      (rest : Course engines may f₁ s₁ ticks f' s') :
      Course engines may f s (ticked j p clock (f₁.begun j started) ++ ticks)
        f' s'

/-- What an act of a course does, whatever the clock shows. -/
theorem acts_of_acted {clock : Instant} {moment : Nat} {started : List Poll}
    (hnext : f.next? = some (j, p, moment))
    (hrun : { f with clock }.runUntil engines moment 1 s = (f₁, started, s₁)) :
    ∃ r phase window, f.storage.at? j = some r ∧ r.poller = some p
      ∧ p.wake? = some moment
      ∧ Acts f.config.polling clock (max f.timer moment) p.phase phase window
      ∧ (∀ i, f₁.poller? i = if j = i then some { p with phase }
        else f.poller? i)
      ∧ f₁.timer = max f.timer moment ∧ f₁.config = f.config
      ∧ started
        = (window.map fun w =>
            ⟨max f.timer moment, r.name, p.address, w⟩).toList :=
  acts_of_runUntil (f := { f with clock }) hnext hrun

/-- And what that is to the poller at a place. -/
theorem turn_of_acted {q : Poller} {clock : Instant} {moment : Nat}
    {started : List Poll} (hpoller : f.poller? i = some p)
    (hnext : f.next? = some (j, q, moment))
    (hrun : { f with clock }.runUntil engines moment 1 s = (f₁, started, s₁)) :
    f₁.timer = max f.timer moment ∧ f₁.config = f.config
      ∧ (j ≠ i ∧ f₁.poller? i = some p
          ∧ (∀ due, p.wake? = some due → moment ≤ due)
        ∨ j = i ∧ q = p ∧ p.wake? = some moment
          ∧ ∃ phase, f₁.poller? i = some { p with phase }
            ∧ Begins f.config.polling clock (max f.timer moment) p phase
              (f₁.begun i started)) :=
  turn_of_runUntil (f := { f with clock }) hpoller hnext hrun

-- ====================================================== reachable fleets

/-- Requests lead to the storage of a fleet. -/
def Reached (f : Fleet) : Prop :=
  ∃ run, (Storage.performAll run {}).1 = f.storage

theorem Reached.wired (h : f.Reached) {r : Registration}
    (hat : f.storage.at? i = some r) :
    r.Wired := by
  obtain ⟨run, hrun⟩ := h
  exact (Storage.orderly_performAll run).wired i r (hrun ▸ hat)

theorem Reached.asked (h : f.Reached) {env : Surroundings}
    {q : Storage.Request}
    (hstorage : f₁.storage = (q.perform env f.storage).1) : f₁.Reached := by
  obtain ⟨run, hrun⟩ := h
  refine ⟨run ++ [(env, q)], ?_⟩
  rw [Storage.performAll_append, hrun]
  exact hstorage.symm

/-- A fleet in which one poller has acted is still one that is reached. -/
theorem Reached.acted (h : f.Reached) {clock : Instant} {moment : Nat}
    {started : List Poll}
    (hrun : { f with clock }.runUntil engines moment 1 s = (f₁, started, s₁)) :
    f₁.Reached := by
  have hpaced :
      f.storage.Paced
          ({ f with clock }.runUntil engines moment 1 s).1.storage :=
    (paced_of_runUntil (f := { f with clock })
      (fun _ _ hat => h.wired hat) 1 .still).1
  rw [hrun] at hpaced
  obtain ⟨later, hlater⟩ := hpaced.reached
  obtain ⟨run, hrun⟩ := h
  refine ⟨run ++ later, ?_⟩
  rw [Storage.performAll_append, hrun, hlater]

theorem Course.reached {may : Fleet → Event → Prop} {ticks : List Tick}
    (h : Course engines may f s ticks f' s') (hreached : f.Reached) :
    f'.Reached := by
  induction h with
  | stop => exact hreached
  | asked _ _ _ _ hstorage _ _ _ ih => exact ih (hreached.asked hstorage)
  | passed _ _ _ ih => exact ih hreached
  | acted _ _ hrun _ ih => exact ih (hreached.acted hrun)

/-- A poller is that of a registration with the client that it polls. -/
theorem Reached.at?_of_poller (h : f.Reached)
    (hpoller : f.poller? i = some p) :
    ∃ r, f.storage.at? i = some r ∧ r.poller = some p
      ∧ r.client = some p.client := by
  obtain ⟨r, hat, hp⟩ := Option.bind_eq_some_iff.1 hpoller
  refine ⟨r, hat, hp, ?_⟩
  rw [← (h.wired hat).polls, hp]
  rfl

/-- Where there is a client there is a poller of it. -/
theorem Reached.poller_of_client (h : f.Reached) {r : Registration}
    (hat : f.storage.at? i = some r) (hclient : r.client = some c) :
    ∃ p, f.poller? i = some p ∧ p.client = c := by
  have hpolls := (h.wired hat).polls
  rw [hclient] at hpolls
  obtain ⟨p, hp, hc⟩ := Option.map_eq_some_iff.1 hpolls
  exact ⟨p, poller?_of_at hat hp, hc⟩

-- ================================================ events that spare a client

/-- Whether an event leaves the client at a place where it is. -/
def Event.Spares (i : Slot) (c : Client) (f : Fleet) : Event → Prop
  | asked env q => q.Spares (f.around env) f.storage i c
  | passed _ | acted _ => True

/-- Behind a request that spares its client a poller is what it was. -/
theorem Reached.poller?_asked (h : f.Reached) {env : Surroundings}
    {q : Storage.Request}
    (hstorage : f₁.storage = (q.perform (f.around env) f.storage).1)
    (hpoller : f.poller? i = some p)
    (hspares : (Event.asked env q).Spares i p.client f) :
    f₁.poller? i = some p := by
  obtain ⟨r, hat, hp, hclient⟩ := h.at?_of_poller hpoller
  obtain ⟨r', hat', hsame⟩ := Storage.sameAt_perform hat hclient hspares r hat
  rw [← hstorage] at hat'
  exact poller?_of_at hat' (hsame.poller.trans hp)

/-- A client that is spared is polled on. By induction on the course. -/
theorem Course.polls_on {may : Fleet → Event → Prop} {ticks : List Tick}
    (h : Course engines may f s ticks f' s')
    (hmay : ∀ f e, may f e → e.Spares i c f) (hreached : f.Reached)
    (hpoller : ∃ p, f.poller? i = some p ∧ p.client = c) :
    ∃ p, f'.poller? i = some p ∧ p.client = c := by
  induction h with
  | stop => exact hpoller
  | asked _ _ hask _ hstorage _ _ _ ih =>
    obtain ⟨p, hp, rfl⟩ := hpoller
    exact ih (hreached.asked hstorage)
      ⟨p, hreached.poller?_asked hstorage hp (hmay _ _ hask), rfl⟩
  | passed _ _ _ ih => exact ih hreached hpoller
  | acted _ hnext hrun _ ih =>
    obtain ⟨p, hp, rfl⟩ := hpoller
    obtain ⟨-, -, ⟨-, hp', -⟩ | ⟨-, -, -, phase, hp', -⟩⟩ :=
      turn_of_acted hp hnext hrun
    · exact ih (hreached.acted hrun) ⟨p, hp', rfl⟩
    · exact ih (hreached.acted hrun) ⟨{ p with phase }, hp', rfl⟩

-- ================================================================= ticks

/-- Whether a poll of these settings can be made, as far as dates go, when a
poller acts. -/
def Event.Timely (cfg : PollConfig) : Event → Prop
  | acted clock => clock.InCommonYears
    ∧ (clock.afterSeconds cfg.periodSecs).inRange = true
  | asked _ _ | passed _ => True

/-- A tick that has started one poll, for the period from now on. -/
def Tick.Kept (cfg : PollConfig) (t : Tick) : Prop :=
  ∃ a, t.polls = [a]
    ∧ a.poll.window = ⟨t.clock, t.clock.afterSeconds cfg.periodSecs⟩

/-- No poller has ended by itself. -/
def Lively (f : Fleet) : Prop := f.storage.Everywhere Registration.Lively

theorem lively_iff :
    f.Lively ↔ ∀ i p, f.poller? i = some p → p.alive = true := by
  refine ⟨fun h i p hp => ?_, fun h i r hat p hp => ?_⟩
  · obtain ⟨r, hat, hp⟩ := Option.bind_eq_some_iff.1 hp
    exact h i r hat p hp
  · exact h i p (poller?_of_at hat hp)

/-- Where the window of a period ends at a date, a tick begins a poll. -/
theorem onTick_timely {clock : Instant} (hperiod : cfg.periodSecs ≠ 0)
    (htimely : (Event.acted clock).Timely cfg) :
    Poller.onTick cfg clock
      = some ⟨clock, clock.afterSeconds cfg.periodSecs⟩ := by
  obtain ⟨hclock, hend⟩ := htimely
  have hspan := Instant.ofSeconds?_signed64 (Instant.le_maxSeconds hclock hend)
  have hstop := Instant.add?_seconds hend
  unfold Poller.onTick Poller.window?
  rw [if_neg hperiod, hspan]
  show (clock.add? _).map _ = _
  rw [hstop]
  rfl

/-- A poller that acts while polls can be made does not end, and if it was
waiting it starts a poll. -/
theorem lively_acted {clock : Instant} {moment : Nat} {started : List Poll}
    (hperiod : f.config.polling.periodSecs ≠ 0)
    (htimely : (Event.acted clock).Timely f.config.polling)
    (hlively : f.Lively) (hnext : f.next? = some (j, p, moment))
    (hrun : { f with clock }.runUntil engines moment 1 s = (f₁, started, s₁)) :
    f₁.Lively ∧ ∀ t ∈ ticked j p clock (f₁.begun j started),
      t.Kept f.config.polling := by
  obtain ⟨r, phase, window, hat, hp, hwake, hacts, hpollers, -, -, hstarted⟩ :=
    acts_of_acted hnext hrun
  have hwindow := onTick_timely hperiod htimely
  have halive : ({ p with phase } : Poller).alive = true := by
    unfold Poller.wake? at hwake
    generalize p.phase = before at hacts hwake
    cases hacts with
    | died hnone =>
      rw [hwindow] at hnone
      cases hnone
    | started | ended => rfl
    | rested => cases hwake
  refine ⟨lively_iff.2 fun i p' hp' => ?_, fun t ht => ?_⟩
  · rw [hpollers i] at hp'
    split at hp'
    case isTrue =>
      cases hp'
      exact halive
    case isFalse => exact lively_iff.1 hlively i p' hp'
  · have hpoller := hpollers j
    rw [if_pos rfl] at hpoller
    unfold ticked at ht
    generalize p.phase = before at hacts ht
    cases hacts with
    | ended | rested => cases ht
    | died hnone =>
      rw [hwindow] at hnone
      cases hnone
    | started took answer hsome =>
      rw [hwindow] at hsome
      cases hsome
      rw [List.mem_singleton.1 ht, hstarted]
      exact ⟨_, begun_polling hpoller rfl _, rfl⟩

/-- While polls can be made no poller ends, and every tick starts one. By
induction on the course. -/
theorem Course.lively {may : Fleet → Event → Prop} {ticks : List Tick}
    (h : Course engines may f s ticks f' s')
    (hmay : ∀ f e, may f e → e.Timely cfg) (hcfg : f.config.polling = cfg)
    (hperiod : cfg.periodSecs ≠ 0) (hlively : f.Lively) :
    f'.config.polling = cfg ∧ f'.Lively ∧ ∀ t ∈ ticks, t.Kept cfg := by
  induction h with
  | stop => exact ⟨hcfg, hlively, fun _ ht => absurd ht List.not_mem_nil⟩
  | asked _ _ _ hasked hstorage hconfig _ _ ih =>
    refine ih (hconfig ▸ hcfg) ?_
    unfold Lively
    rw [hstorage]
    exact Storage.lively_asked hasked hlively
  | passed _ _ _ ih => exact ih hcfg hlively
  | acted hact hnext hrun _ ih =>
    subst hcfg
    obtain ⟨hstill, hkept⟩ :=
      lively_acted hperiod (hmay _ _ hact) hlively hnext hrun
    obtain ⟨_, _, _, _, _, _, _, _, _, hconfig, _⟩ := acts_of_acted hnext hrun
    obtain ⟨hcfg, hlater, hrest⟩ :=
      ih (congrArg ClusterConfig.polling hconfig) hstill
    exact ⟨hcfg, hlater, List.forall_mem_append.2 ⟨hkept, hrest⟩⟩

-- ============================================================== all of it

/-- Where no poller has ended, a client is polled. -/
theorem Reached.polls (h : f.Reached) (hlively : f.Lively) {r : Registration}
    (hat : f.storage.at? i = some r) (hclient : r.client = some c) :
    r.Polls c := by
  obtain ⟨p, hpoller, hc⟩ := h.poller_of_client hat hclient
  obtain ⟨r', hat', hp, -⟩ := h.at?_of_poller hpoller
  rw [hat] at hat'
  cases hat'
  refine ⟨hclient, ?_, ?_⟩
  · rw [hp, ← hc]
    rfl
  · unfold Registration.isPolling
    rw [hp]
    exact lively_iff.1 hlively i p hpoller

/-- Pollers that go on. Whatever has befallen a fleet with settings that are
accepted, every tick has started a poll for a period from then on; and wherever
there is a client, as there is behind every binding that succeeds, a poller of
it goes on, now and as long as the client is left where it is. All that is
needed is that the window of a poll ends at a date whenever a poller acts; and
in the years up to 9999 it does, if the period is a quarter of a million years
or less. -/
theorem polling_continues {config : ClusterConfig}
    (hvalid : config.validate = .ok ()) (hconfig : f.config = config)
    (hempty : f.storage = {}) {ticks : List Tick}
    (h : Course engines (fun _ e => e.Timely config.polling) f s ticks f' s') :
    (config.polling.periodSecs ≤ Instant.mostSeconds →
        ∀ clock : Instant, clock.InCommonYears →
          (Event.acted clock).Timely config.polling)
      ∧ (∀ t ∈ ticks, t.Kept config.polling)
      ∧ (∀ env address c (r : Registration),
        (r.bind env address).result = .ok c →
          (r.bind env address).state.client = some c)
      ∧ ∀ i r c, f'.storage.at? i = some r → r.client = some c → r.Polls c
          ∧ ∀ later f'' s'', Course engines
              (fun f e => e.Timely config.polling ∧ e.Spares i c f) f' s'
                later f'' s'' →
            (∀ t ∈ later, t.Kept config.polling)
              ∧ ∃ r', f''.storage.at? i = some r' ∧ r'.Polls c := by
  obtain ⟨hperiod, -⟩ := ClusterConfig.validate_eq_ok_iff.1 hvalid
  have hnobody : f.Lively := by
    intro i r hat
    rw [hempty] at hat
    cases hat
  obtain ⟨hcfg, hlively, hkept⟩ :=
    h.lively (fun _ _ => id)
      (congrArg ClusterConfig.polling hconfig) hperiod hnobody
  have hreached : f'.Reached := h.reached ⟨[], hempty.symm⟩
  refine ⟨fun hmost clock hclock =>
    ⟨hclock, Instant.inRange_afterSeconds hclock hmost⟩, hkept,
    fun _ _ _ _ => Registration.client_of_bind, fun i r c hat hclient => ?_⟩
  refine ⟨hreached.polls hlively hat hclient, fun later f'' s'' hcourse => ?_⟩
  obtain ⟨-, hlively', hkept'⟩ :=
    hcourse.lively (fun _ _ => And.left) hcfg hperiod hlively
  obtain ⟨p, hpoller, hc⟩ := hcourse.polls_on (fun _ _ => And.right) hreached
    (hreached.poller_of_client hat hclient)
  have hreached' := hcourse.reached hreached
  obtain ⟨r', hat', -, hclient'⟩ := hreached'.at?_of_poller hpoller
  rw [hc] at hclient'
  exact ⟨hkept', r', hat', hreached'.polls hlively' hat' hclient'⟩

/-- A fleet without nodes. -/
def unpeopled (polling : PollConfig) : Fleet :=
  { config := { polling }, clock := ⟨0⟩, lifecycle := .ofCapacity 8,
    logs := .ofCapacity 8 }

/-- A node is registered there. -/
theorem oneNode_registered {may : Fleet → Event → Prop} {ticks : List Tick}
    {took : Nat} (hmay : ∀ f env q, may f (.asked env q))
    (rest :
      Course (idle took) may (oneNode ⟨0⟩ 0 (.waiting 0)) () ticks f' ()) :
    Course (idle took) may (unpeopled eachSecond) () ticks f' () := by
  let q : Storage.Request := .register (Storage.nodeAt "n1" "10.0.0.1:2375")
  have hstorage : (oneNode ⟨0⟩ 0 (.waiting 0)).storage
      = (q.perform ((unpeopled eachSecond).around Storage.beginning) {}).1 :=
    rfl
  exact .asked Storage.beginning q (hmay ..) (fun _ _ => nofun) hstorage
    rfl rfl rest

/-- The next tick of that node, with its poll from start to end. -/
theorem oneNode_ticked {may : Fleet → Event → Prop} {ticks : List Tick}
    {clock clock' : Instant} {took tick timer start done next : Nat}
    {w : Window} (hmay : ∀ f, may f (.acted clock'))
    (hstart : max timer tick = start) (hdone : start + took = done)
    (hnext : Poller.nextTick eachSecond.periodMs tick start = next)
    (hwindow : Poller.onTick eachSecond clock' = some w)
    (rest : Course (idle took) may (oneNode clock' done (.waiting next))
      () ticks f' ()) :
    Course (idle took) may (oneNode clock timer (.waiting tick)) ()
      (⟨0, clock', [⟨⟨start, "n1", "10.0.0.1:2375", w⟩, done⟩]⟩ :: ticks)
      f' () := by
  subst hdone hnext
  have hlater : max start (start + took) = start + took := by omega
  let next := Poller.nextTick eachSecond.periodMs tick start
  have hends : Course (idle took) may
      (oneNode clock' start (.polling (start + took) next nothing)) ()
      ticks f' () :=
    .acted (f := oneNode clock' start (.polling (start + took) next nothing))
      (hmay _) rfl (oneNode_run hlater rfl oneNode_ends) rest
  exact .acted (f := oneNode clock timer (.waiting tick)) (hmay _) rfl
    (oneNode_run hstart rfl (oneNode_starts hwindow)) hends

/-- The last second of the year 9999. -/
def lateClock : Instant := ⟨253402300799000000000⟩

/-- That node is polled twice, at the start of 1970 and at the end of 9999, the
clock having been set; then it is bound to its address again. It is polled
on. -/
theorem polling_of_oneNode :
    let timely : Fleet → Event → Prop := fun _ e => e.Timely eachSecond
    let c : Client := ⟨"10.0.0.1:2375", 0⟩
    ∃ ticks f' f'',
      Course (idle 1400) timely (unpeopled eachSecond) () ticks f' ()
      ∧ Course (idle 1400) (fun f e => e.Timely eachSecond ∧ e.Spares 0 c f)
          f' () [] f'' ()
      ∧ ticks.length = 2 ∧ (∀ t ∈ ticks, t.Kept eachSecond)
      ∧ ∃ r, f''.storage.at? 0 = some r ∧ r.Polls c := by
  intro timely c
  have hvalid : ({ polling := eachSecond } : ClusterConfig).validate
      = .ok () := by decide
  have hsecond :
      Course (idle 1400) timely (oneNode ⟨0⟩ 1400 (.waiting 1000)) ()
      [⟨0, lateClock, [⟨⟨1400, "n1", "10.0.0.1:2375",
        ⟨lateClock, ⟨253402300800000000000⟩⟩⟩, 2800⟩]⟩]
      (oneNode lateClock 2800 (.waiting 2000)) () :=
    oneNode_ticked (fun _ => ⟨by decide, by decide⟩) rfl rfl (by decide)
      (by decide) .stop
  have hwindow : Poller.onTick eachSecond ⟨0⟩ = some ⟨⟨0⟩, ⟨1000000000⟩⟩ := by
    decide
  have hcourse : Course (idle 1400) timely (unpeopled eachSecond) () _
      (oneNode lateClock 2800 (.waiting 2000)) () :=
    oneNode_registered (fun _ _ _ => trivial)
      (oneNode_ticked (fun _ => ⟨by decide, by decide⟩) rfl rfl (by decide)
        hwindow hsecond)
  let bound := oneNode lateClock 2800 (.waiting 2000)
  let q : Storage.Request := .ask 0 (.bind "10.0.0.1:2375")
  have hspared : Course (idle 1400)
      (fun f e => e.Timely eachSecond ∧ e.Spares 0 c f) bound () []
      { bound with
        storage :=
          (q.perform (bound.around Storage.beginning) bound.storage).1 } () :=
    .asked Storage.beginning q ⟨trivial, fun _ _ _ => rfl⟩ (fun _ _ => nofun)
      rfl rfl rfl .stop
  obtain ⟨-, hkept, -, hpolls⟩ := polling_continues hvalid rfl rfl hcourse
  obtain ⟨-, hlater⟩ := hpolls 0 _ c rfl rfl
  exact ⟨_, _, _, hcourse, hspared, rfl, hkept, (hlater _ _ _ hspared).2⟩

/-- A tick of which no window can be reckoned starts no poll and ends the
poller. The client stays. -/
theorem tick_ends (h : f.Reached) {clock : Instant} {moment tick : Nat}
    {started : List Poll} (hwaiting : p.phase = .waiting tick)
    (hnone : Poller.onTick f.config.polling clock = none)
    (hnext : f.next? = some (j, p, moment))
    (hrun : { f with clock }.runUntil engines moment 1 s = (f₁, started, s₁)) :
    f₁.begun j started = []
      ∧ ∃ r, f₁.storage.at? j = some r ∧ r.client = some p.client
      ∧ r.isPolling = false := by
  obtain ⟨_, phase, window, -, -, -, hacts, hpollers, -, -, hstarted⟩ :=
    acts_of_acted hnext hrun
  have hpoller := hpollers j
  rw [if_pos rfl] at hpoller
  rw [hwaiting] at hacts
  cases hacts with
  | started _ _ hsome =>
    rw [hnone] at hsome
    cases hsome
  | died =>
    obtain ⟨r, hat, hp, hclient⟩ := (h.acted hrun).at?_of_poller hpoller
    rw [hstarted]
    refine ⟨rfl, r, hat, hclient, ?_⟩
    unfold Registration.isPolling
    rw [hp]
    rfl

/-- A period that is accepted and that no year has left to it. -/
def overlong : PollConfig :=
  { initialDelaySecs := 0, periodSecs := 8208566876800 }

/-- A day of the year 2023. -/
def plainClock : Instant := ⟨1700000000000000000⟩

/-- With such a period, the first tick of a node that was bound starts no poll
and leaves it with its client and without a poller. -/
theorem overlong_period_ends :
    let may : Fleet → Event → Prop := fun _ e =>
      ∀ clock, e = .acted clock → clock.InCommonYears
    ∃ ticks f', Course (idle 0) may (unpeopled overlong) () ticks f' ()
      ∧ ({ polling := overlong } : ClusterConfig).validate = .ok ()
      ∧ ticks.map Tick.polls = [[]]
      ∧ ∃ r, f'.storage.at? 0 = some r ∧ r.client = some ⟨"10.0.0.1:2375", 0⟩
          ∧ r.isPolling = false := by
  intro may
  let q : Storage.Request := .register (Storage.nodeAt "n1" "10.0.0.1:2375")
  let bound : Fleet :=
    { unpeopled overlong with
      storage :=
        (q.perform ((unpeopled overlong).around Storage.beginning) {}).1 }
  have hreached : bound.Reached :=
    ⟨[((unpeopled overlong).around Storage.beginning, q)], rfl⟩
  have hnext :
      bound.next? = some (0, .start 0 "10.0.0.1:2375" overlong 0, 0) := rfl
  have hnone : Poller.onTick bound.config.polling plainClock = none := by
    decide
  obtain ⟨⟨f', started, _⟩, hrun⟩ :
      ∃ out, { bound with clock := plainClock }.runUntil (idle 0) 0 1 ()
        = out := ⟨_, rfl⟩
  obtain ⟨hpolls, hends⟩ := tick_ends hreached rfl hnone hnext hrun
  have hclock : may bound (.acted plainClock) := by
    intro clock hclock
    cases hclock
    decide
  have hacted : Course (idle 0) may bound () _ f' () :=
    .acted hclock hnext hrun .stop
  have hstorage : bound.storage
      = (q.perform ((unpeopled overlong).around Storage.beginning) {}).1 := rfl
  refine ⟨_, f', .asked Storage.beginning q nofun (fun _ _ => nofun) hstorage
    rfl rfl hacted, by decide, ?_, hends⟩
  exact congrArg (fun polls => [polls]) hpolls

end Fleet

end Fleetkeeper
