/-
A node goes online and offline in turns: of the events that tell it, each
tells the opposite of the one before, and the first the opposite of what the
node was described as.

# What carries it

The online flag of the draft is what was last told. `Leads` says so of one
request: from the flag before it, by the flags that it tells, to the flag
behind it. What the clock shows does not enter; a request may find the flag
changed once, twice or not at all. The rest is that such an event differs from
the snapshot before in nothing but the flag, for which the snapshot at hand
has to be what the draft gives.

# Edits that break off

An edit that breaks off has looked at the clock before, and what it saw is
told to nobody. So the node can be online with no event that says so
(`breakOff_swallows`), and the laws are about runs in which every request
returns.
-/
import Fleetkeeper.Proofs.Node.Telling

namespace Fleetkeeper

-- ================================================================ flags

/-- The flag that an event of liveness tells; other changes tell none. -/
def LifecycleAction.flag? : LifecycleAction → Option Bool
  | online => some true
  | offline => some false
  | update => none

theorem LifecycleAction.flag?_ofFlag (on : Bool) :
    (ofFlag on).flag? = some on := by
  cases on <;> rfl

/-- The flags that events tell, in order. -/
def flags (events : List LifecycleEvent) : List Bool :=
  events.filterMap (·.action.flag?)

theorem flags_append (events more : List LifecycleEvent) :
    flags (events ++ more) = flags events ++ flags more :=
  List.filterMap_append

/-- Flags that lead from what `was` to what is `now`: each differs from the
one before. -/
structure Leads (was : Bool) (flags : List Bool) (now : Bool) : Prop where
  alternate : (was :: flags).IsChain (· ≠ ·)
  arrive : flags.getLastD was = now

theorem Leads.stay (on : Bool) : Leads on [] on := ⟨.singleton on, rfl⟩

theorem Leads.turn (was on : Bool) :
    Leads was (if was = on then [] else [on]) on := by
  split
  case isTrue hsame =>
    rw [hsame]
    exact .stay on
  case isFalse hturn =>
    exact ⟨List.isChain_cons_cons.2 ⟨hturn, .singleton on⟩, rfl⟩

/-- Flags that lead to one value, and from there to another. -/
theorem Leads.append {was between now : Bool} {first second : List Bool}
    (h : Leads was first between) (hthen : Leads between second now) :
    Leads was (first ++ second) now := by
  -- On the first way, from wherever it starts.
  induction first generalizing was with
  | nil =>
    have hsame : was = between := h.arrive
    rw [hsame]
    exact hthen
  | cons on rest ih =>
    obtain ⟨hne, hrest⟩ := List.isChain_cons_cons.1 h.alternate
    have harrive : rest.getLastD on = between := by
      rw [← h.arrive, List.getLastD_cons]
    obtain ⟨hchain, hnow⟩ := ih ⟨hrest, harrive⟩
    refine ⟨List.isChain_cons_cons.2 ⟨hne, hchain⟩, ?_⟩
    rw [List.cons_append, List.getLastD_cons]
    exact hnow

/-- An event of liveness has the flag that it tells in its snapshot, and that
is all that has changed. Other events may be as they are. -/
def LifecycleEvent.TellsFlag (e : LifecycleEvent) : Prop :=
  ∀ on, e.action.flag? = some on →
    e.current.on = on ∧ ∀ old, e.old = some old →
      old = { e.current with on := !on }

namespace Registration

variable {env : Services} {r s : Registration} {q : Request}
  {events : List LifecycleEvent} {messages : List HealthEvent}

-- ========================================================= of each request

/-- A turn tells the flag that it leads to. -/
theorem flags_turned (name : String) (was on : Bool) (old : Option NodeInfo)
    (current : NodeInfo) :
    flags (turned name was on old current)
      = if was = on then [] else [on] := by
  unfold turned
  split
  · rfl
  · show (LifecycleAction.ofFlag on).flag?.toList = [on]
    rw [LifecycleAction.flag?_ofFlag]
    rfl

theorem flags_updated (name : String) (old current : NodeInfo) :
    flags (updated name old current) = [] := by
  unfold updated
  split <;> rfl

/-- A request that returns leads from the flag before it to the flag behind
it. -/
theorem Telling.leads (h : Telling env r s q events messages)
    (hreturns : q.returns = true) :
    Leads r.draft.on (flags events) s.draft.on := by
  cases h with
  | idle _ hdraft | reported _ hdraft | bound hdraft =>
    rw [hdraft]
    exact .stay _
  | looked hdraft =>
    rw [hdraft, flags_turned]
    exact .turn _ _
  | edited _ hdraft =>
    have hon : s.draft.on = r.isOn env.later := by rw [hdraft]; rfl
    rw [hon, flags_append, flags_append, flags_turned, flags_turned,
      flags_updated, List.append_nil]
    -- Each of the looks may turn the flag; the update behind them has none.
    exact (Leads.turn _ _).append (.turn _ _)
  | brokenOff => cases hreturns
  | moved _ hdraft =>
    have hon : s.draft.on = r.isOn env.now := by rw [hdraft]
    rw [hon, flags_append, flags_turned]
    exact (Leads.turn _ _).append (.stay _)

theorem tellsFlag_of_update {e : LifecycleEvent} (h : e.action = .update) :
    e.TellsFlag := by
  intro on hon
  rw [h] at hon
  cases hon

/-- A look tells the flag that it shows. -/
theorem tellsFlag_of_look {now : Instant} {e : LifecycleEvent}
    (hfresh : r.Fresh)
    (he : e ∈ turned r.name r.draft.on (r.isOn now) r.cache (r.seen now)) :
    e.TellsFlag := by
  obtain ⟨hturn, rfl⟩ := mem_turned.1 he
  intro on hon
  obtain rfl : r.isOn now = on := by
    simpa [LifecycleAction.flag?_ofFlag] using hon
  rw [seen_of_turn hturn]
  refine ⟨rfl, fun old hold => ?_⟩
  -- Snapshot before and after come from one draft but for the flag.
  have hwas : r.draft.on = !r.isOn now := Bool.eq_not.2 hturn
  rw [hfresh old hold, ← hwas]
  rfl

theorem tellsFlag_of_dropped {name : String} {was on : Bool}
    {current : NodeInfo} {e : LifecycleEvent} (hon : current.on = on)
    (he : e ∈ turned name was on none current) : e.TellsFlag := by
  obtain ⟨-, rfl⟩ := mem_turned.1 he
  intro flag hflag
  obtain rfl : on = flag := by simpa [LifecycleAction.flag?_ofFlag] using hflag
  refine ⟨hon, fun old hold => ?_⟩
  cases hold

/-- Every change of liveness that a request tells has the flag of its snapshot,
whichever look has told it. -/
theorem Telling.tellsFlag (h : Telling env r s q events messages)
    (hfresh : r.Fresh) :
    ∀ e ∈ events, e.TellsFlag := by
  intro e he
  cases h with
  | idle | reported | brokenOff | bound => cases he
  | looked => exact tellsFlag_of_look hfresh he
  | edited _ hdraft =>
    rcases List.mem_append.1 he with he | he
    · rcases List.mem_append.1 he with he | he
      · exact tellsFlag_of_look hfresh he
      · refine tellsFlag_of_dropped ?_ he
        rw [hdraft]
        rfl
    · obtain ⟨-, rfl⟩ := mem_updated.1 he
      exact tellsFlag_of_update rfl
  | moved _ hdraft =>
    rcases List.mem_append.1 he with he | he
    · refine tellsFlag_of_dropped ?_ he
      rw [hdraft]
      rfl
    · rw [List.mem_singleton.1 he]
      exact tellsFlag_of_update rfl

-- ============================================================== of all runs

/-- A registration that has told so much about a node: the flags lead to that
of its draft. -/
structure Announced (info : NodeInfo) (r : Registration) (told : List Effect) :
    Prop where
  fresh : r.Fresh
  leads : Leads info.on (flags (lifecycleOf told)) r.draft.on
  tellsFlag : ∀ e ∈ lifecycleOf told, e.TellsFlag

/-- A request that returns tells all changes of liveness that it sees. One that
breaks off would have seen one and not told it. -/
theorem announced_perform {info : NodeInfo} {told : List Effect}
    (env : Services) (q : Request) (hq : q.returns = true)
    (h : Announced info r told) :
    Announced info (q.perform env r).state
      (told ++ (q.perform env r).effects) := by
  have htelling := telling_of_perform env q r
  refine ⟨htelling.fresh hq (perform_name env q r) h.fresh, ?_, fun e he => ?_⟩
  · rw [lifecycleOf_append, flags_append]
    exact h.leads.append (htelling.leads hq)
  · rw [lifecycleOf_append] at he
    rcases List.mem_append.1 he with he | he
    · exact h.tellsFlag e he
    · exact htelling.tellsFlag h.fresh e he

theorem announced_performAll (info : NodeInfo) {run : Run}
    (hreturns : ∀ x ∈ run, x.2.returns = true) :
    Announced info (performAll run (ofInfo info)).state
      (performAll run (ofInfo info)).effects :=
  performAll_of_perform (P := Announced info) (fun _ q => q.returns = true)
    (fun env q hq h => announced_perform env q hq h) run hreturns []
    ⟨fresh_of_cache rfl, .stay _, by simp [lifecycleOf]⟩

/-- The flag of a snapshot is what was told last, with what taking it tells. -/
theorem Announced.snapshot_on {info : NodeInfo} {told : List Effect}
    (h : Announced info r told) (env : Services) :
    (r.snapshot env).result.on
      = (flags (lifecycleOf (told ++ (r.snapshot env).effects))).getLastD
        info.on := by
  have hsnapshot : Announced info (r.snapshot env).state
      (told ++ (r.snapshot env).effects) :=
    announced_perform env .snapshot rfl h
  rw [hsnapshot.leads.arrive]
  show (r.seen env.now).on = (r.refresh env.now).1.draft.on
  rw [seen_of_fresh env.now h.fresh, refresh_state]
  rfl

/-- Where every request returns, the events of liveness alternate, and begin
with the opposite of what the node was described as; each has its flag in its
snapshot, which differs from the one before, where that is given, in nothing
else; and a snapshot has the flag that was told last. -/
theorem liveness_alternates (info : NodeInfo) (run : Run)
    (hreturns : ∀ x ∈ run, x.2.returns = true) :
    let r := (performAll run (ofInfo info)).state
    let told := (performAll run (ofInfo info)).effects
    (info.on :: flags (lifecycleOf told)).IsChain (· ≠ ·)
      ∧ (∀ e ∈ lifecycleOf told, ∀ on, e.action.flag? = some on →
          e.current.on = on
            ∧ ∀ old, e.old = some old → old = { e.current with on := !on })
      ∧ ∀ env, (r.snapshot env).result.on
          = (flags (lifecycleOf (told ++ (r.snapshot env).effects))).getLastD
            info.on := by
  intro r told
  have hannounced : Announced info r told := announced_performAll info hreturns
  exact ⟨hannounced.leads.alternate, hannounced.tellsFlag,
    hannounced.snapshot_on⟩

/-- A node that beats once, is seen, and is moved when its lease is over. -/
def beatenAndMoved : Run :=
  [(surroundingsAt 0, .heartbeat 10), (surroundingsAt 1, .snapshot),
   (surroundingsAt 20, .setCluster (some "prod"))]

/-- It is told online, then offline by the move, and its next snapshot is
offline without another word. -/
theorem liveness_of_beatenAndMoved :
    let r := (performAll beatenAndMoved (ofInfo (.bare "n1"))).state
    let told := (performAll beatenAndMoved (ofInfo (.bare "n1"))).effects
    (∀ x ∈ beatenAndMoved, x.2.returns = true)
      ∧ flags (lifecycleOf told) = [true, false]
      ∧ (false :: flags (lifecycleOf told)).IsChain (· ≠ ·)
      ∧ (r.snapshot (surroundingsAt 30)).result.on = false := by
  intro r told
  have hreturns : ∀ x ∈ beatenAndMoved, x.2.returns = true := by decide
  have hflags : flags (lifecycleOf told) = [true, false] := rfl
  obtain ⟨hchain, -, hsnapshot⟩ :=
    liveness_alternates (.bare "n1") beatenAndMoved hreturns
  exact ⟨hreturns, hflags, hchain, hsnapshot (surroundingsAt 30)⟩

def beatenAndBrokenOff : Run :=
  [(surroundingsAt 0, .heartbeat 10), (surroundingsAt 0, .breakOff .system id)]

/-- Behind an edit that broke off a node can be online and nothing has told
it; and then the first that is told is that it is offline, which it was
described as. -/
theorem breakOff_swallows :
    let r := (performAll beatenAndBrokenOff (ofInfo (.bare "n1"))).state
    let told := (performAll beatenAndBrokenOff (ofInfo (.bare "n1"))).effects
    let soon := r.snapshot (surroundingsAt 0)
    let late := soon.state.snapshot (surroundingsAt 20)
    soon.result.on = true
      ∧ flags (lifecycleOf (told ++ soon.effects)) = []
      ∧ flags (lifecycleOf (told ++ soon.effects ++ late.effects)) = [false]
      ∧ ¬ (false :: flags
          (lifecycleOf (told ++ soon.effects ++ late.effects))).IsChain
          (· ≠ ·) := by
  refine ⟨rfl, rfl, rfl, ?_⟩
  show ¬ [false, false].IsChain (· ≠ ·)
  simp

end Registration

end Fleetkeeper
