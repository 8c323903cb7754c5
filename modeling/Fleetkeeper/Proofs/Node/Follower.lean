/-
Whoever follows the lifecycle events of a node knows how it is: what the last
event told is what the next snapshot says, its health apart.

# What carries it

Two facts about one request. If it tells anything, its last event has the
snapshot that it leaves (`Telling.last_current`); if it tells nothing, it has
changed nothing that would have to be told (`Telling.silent`). So whatever a
follower missed before is made good by the next event.

# What a follower misses

Health goes out on a channel of its own. Binding changes the address without
telling it, so that from then on the follower may have an old one. And an edit
that breaks off tells nothing, neither what it changed nor what its look at
the clock had seen (`breakOff_misleads`). Each is over with the next event:
`Since` says whether there has been one.
-/
import Fleetkeeper.Proofs.Node.Telling

namespace Fleetkeeper

def NodeInfo.lessHealth (i : NodeInfo) : NodeInfo := { i with health := {} }

/-- Snapshots that say the same differ in health at most. -/
theorem NodeInfo.lessHealth_eq {i j : NodeInfo} (h : (i == j) = true) :
    i.lessHealth = j.lessHealth := by
  have hsame : NodeInfo.same i j = true := h
  unfold NodeInfo.same at hsame
  exact of_decide_eq_true (Bool.and_eq_true_iff.1 hsame).2

/-- What a follower knows of a node after some events: the last snapshot that
one of them had, or the description where there was none. -/
def lastSaid (info : NodeInfo) (events : List LifecycleEvent) : NodeInfo :=
  (events.getLast?.map (·.current)).getD info

theorem lastSaid_append (info : NodeInfo) (events more : List LifecycleEvent) :
    lastSaid info (events ++ more) = lastSaid (lastSaid info events) more := by
  unfold lastSaid
  rw [List.getLast?_append]
  cases more.getLast? <;> rfl

namespace Registration

variable {env : Services} {r s : Registration} {q : Request}
  {events : List LifecycleEvent} {messages : List HealthEvent}

-- ========================================================= of each request

theorem lastSaid_turned (name : String) (was on : Bool) (old : Option NodeInfo)
    (current info : NodeInfo) :
    lastSaid info (turned name was on old current)
      = if was = on then info else current := by
  unfold turned
  split <;> rfl

theorem lastSaid_updated (name : String) (old current info : NodeInfo) :
    lastSaid info (updated name old current)
      = if old == current then info else current := by
  unfold updated
  split <;> rfl

/-- The last event of a request has the snapshot that the request leaves. -/
theorem Telling.last_current (h : Telling env r s q events messages)
    (htold : events ≠ []) (info : NodeInfo) :
    (lastSaid info events).lessHealth = (s.draft.build r.name).lessHealth := by
  cases h with
  | idle | reported | brokenOff | bound => exact absurd rfl htold
  | looked hdraft =>
    have hturn : r.draft.on ≠ r.isOn env.now := mt turned_eq_nil.2 htold
    rw [lastSaid_turned, if_neg hturn, hdraft, seen_of_turn hturn]
  | edited _ hdraft =>
    rw [lastSaid_append, lastSaid_append, lastSaid_updated, lastSaid_turned]
    split
    case isFalse => rfl
    case isTrue hequal =>
      split
      case isFalse => rfl
      case isTrue hlater =>
        -- Only the first look has anything to tell, and then it saw what the
        -- edit left.
        rw [lastSaid_turned]
        split
        case isFalse => exact NodeInfo.lessHealth_eq hequal
        case isTrue hnow =>
          refine absurd ?_ htold
          rw [turned_eq_nil.2 hnow, turned_eq_nil.2 hlater,
            updated_eq_nil.2 hequal]
          rfl
  | moved =>
    rw [lastSaid_append]
    rfl

/-- A request that tells anything leaves a snapshot at hand, and it is what
the draft gives. -/
theorem Telling.fresh_of_told (h : Telling env r s q events messages)
    (htold : events ≠ []) (hname : s.name = r.name) : s.Fresh := by
  intro c hc
  rw [hname]
  cases h with
  | idle | reported | brokenOff | bound => exact absurd rfl htold
  | looked hdraft hcache =>
    have hturn : r.draft.on ≠ r.isOn env.now := mt turned_eq_nil.2 htold
    rw [hcache] at hc
    cases hc
    rw [hdraft, seen_of_turn hturn]
  | edited _ _ hcache | moved _ _ hcache =>
    rw [hcache] at hc
    cases hc
    rfl

/-- A request that returns and tells nothing has changed nothing but the
health, or bound the node to another address. -/
theorem Telling.silent (h : Telling env r s q events messages)
    (hsilent : events = []) (hreturns : q.returns = true) (hfresh : r.Fresh) :
    (s.draft.build r.name).lessHealth = (r.draft.build r.name).lessHealth
      ∨ ∃ address, q = .bind address ∧ r.address ≠ some address
          ∧ s.draft = { r.draft with address := some address } := by
  cases h with
  | idle _ hdraft | reported _ hdraft =>
    rw [hdraft]
    exact .inl rfl
  | looked hdraft =>
    have hsame : r.draft.on = r.isOn env.now := turned_eq_nil.1 hsilent
    left
    rw [hdraft, shown, ← hsame]
  | edited =>
    obtain ⟨hturns, hupdated⟩ := List.append_eq_nil_iff.1 hsilent
    obtain ⟨hturned, -⟩ := List.append_eq_nil_iff.1 hturns
    have hsame : r.draft.on = r.isOn env.now := turned_eq_nil.1 hturned
    -- The first look saw what was there before, and no update says that the
    -- second saw anything else.
    have hequal : (r.seen env.now == s.draft.build r.name) = true :=
      updated_eq_nil.1 hupdated
    left
    rw [← NodeInfo.lessHealth_eq hequal, seen_of_fresh env.now hfresh,
      shown, ← hsame]
  | brokenOff => cases hreturns
  | moved =>
    exact absurd hsilent
      (List.append_ne_nil_of_right_ne_nil _ (List.cons_ne_nil _ _))
  | @bound address hdraft =>
    by_cases hsame : r.address = some address
    · left
      rw [hdraft, ← hsame]
      rfl
    · exact .inr ⟨address, rfl, hsame, hdraft⟩

-- ============================================================== of all runs

namespace Turn

/-- Nothing was told. -/
def Wordless (t : Turn) : Prop := t.events = []

/-- The node was bound, and not to the address that it had. -/
def Readdresses (t : Turn) : Prop :=
  ∃ address, t.request = .bind address ∧ t.before.address ≠ some address

def BreaksOff (t : Turn) : Prop := t.request.returns = false

end Turn

/-- A follower knows a registration: all but its health, and its address
unless that was bound since the last event. -/
structure Known (info : NodeInfo) (past : List Turn) (r : Registration) :
    Prop where
  fresh : r.Fresh
  name : (lastSaid info (past.flatMap Turn.events)).name = r.name
  cluster : (lastSaid info (past.flatMap Turn.events)).cluster
    = r.draft.cluster
  labels : (lastSaid info (past.flatMap Turn.events)).labels = r.draft.labels
  on : (lastSaid info (past.flatMap Turn.events)).on = r.draft.on
  address : ¬ Since Turn.Readdresses Turn.Wordless past →
    (lastSaid info (past.flatMap Turn.events)).address = r.draft.address

/-- A follower knows what a snapshot says that agrees with its own, health
apart. -/
theorem known_of_lessHealth {info : NodeInfo} {past : List Turn}
    (hfresh : r.Fresh)
    (h : (lastSaid info (past.flatMap Turn.events)).lessHealth
        = (r.draft.build r.name).lessHealth) : Known info past r where
  fresh := hfresh
  name := congrArg NodeInfo.name h
  cluster := congrArg NodeInfo.cluster h
  labels := congrArg NodeInfo.labels h
  on := congrArg NodeInfo.on h
  address _ := congrArg NodeInfo.address h

/-- A turn that tells anything makes good what was missed. -/
theorem known_of_told {info : NodeInfo} {past : List Turn} {t : Turn}
    (htold : t.events ≠ []) : Known info (past ++ [t]) t.after := by
  have htelling := telling_of_turn t
  have hname : t.after.name = t.before.name := perform_name ..
  refine known_of_lessHealth (htelling.fresh_of_told htold hname) ?_
  rw [List.flatMap_append, List.flatMap_singleton, lastSaid_append,
    htelling.last_current htold, hname]

/-- A turn that tells nothing leaves nothing to be known, but for an address
that it binds. -/
theorem Known.silent {info : NodeInfo} {past : List Turn} {t : Turn}
    (h : Known info past t.before) (hsilent : t.Wordless)
    (hreturns : t.request.returns = true) :
    Known info (past ++ [t]) t.after := by
  have htelling := telling_of_turn t
  have hname : t.after.name = t.before.name := perform_name ..
  have hfresh : t.after.Fresh := htelling.fresh hreturns hname h.fresh
  have hlast : lastSaid info ((past ++ [t]).flatMap Turn.events)
      = lastSaid info (past.flatMap Turn.events) := by
    rw [List.flatMap_append, List.flatMap_singleton, hsilent, List.append_nil]
  rcases htelling.silent hsilent hreturns h.fresh with
    hsame | ⟨address, hbind, hother, hdraft⟩
  · refine ⟨hfresh, ?_, ?_, ?_, ?_, fun hnot => ?_⟩ <;> rw [hlast]
    · exact h.name.trans hname.symm
    · exact h.cluster.trans (congrArg NodeInfo.cluster hsame).symm
    · exact h.labels.trans (congrArg NodeInfo.labels hsame).symm
    · exact h.on.trans (congrArg NodeInfo.on hsame).symm
    · have hnot' : ¬ Since Turn.Readdresses Turn.Wordless past :=
        fun hsince => hnot (since_concat.2 (.inr ⟨hsilent, hsince⟩))
      exact (h.address hnot').trans (congrArg NodeInfo.address hsame).symm
  · refine ⟨hfresh, ?_, ?_, ?_, ?_, fun hnot => ?_⟩
    · rw [hlast, h.name, hname]
    · rw [hlast, h.cluster, hdraft]
    · rw [hlast, h.labels, hdraft]
    · rw [hlast, h.on, hdraft]
    · exact absurd (since_concat.2 (.inl ⟨address, hbind, hother⟩)) hnot

/-- Behind every turn a follower knows the registration, unless an edit has
broken off since the last event. -/
theorem known_turn {info : NodeInfo} {past : List Turn} (t : Turn)
    (h : ¬ Since Turn.BreaksOff Turn.Wordless past → Known info past t.before)
    (hcalm : ¬ Since Turn.BreaksOff Turn.Wordless (past ++ [t])) :
    Known info (past ++ [t]) t.after := by
  obtain ⟨hreturns, hbefore⟩ := not_or.1 (mt since_concat.2 hcalm)
  by_cases htold : t.events = []
  · refine (h fun hsince => hbefore ⟨htold, hsince⟩).silent htold ?_
    simpa [Turn.BreaksOff] using hreturns
  · exact known_of_told htold

theorem known_performAll (info : NodeInfo) (run : Run) :
    ¬ Since Turn.BreaksOff Turn.Wordless (turns run (ofInfo info)) →
      Known info (turns run (ofInfo info))
        (performAll run (ofInfo info)).state :=
  turns_of_turn
    (P := fun past r => ¬ Since Turn.BreaksOff Turn.Wordless past →
      Known info past r)
    (fun _ _ => True) (fun t _ h => known_turn t h) run (fun _ _ => trivial)
    (fun _ => known_of_lessHealth (fresh_of_cache rfl) rfl)

/-- Where every edit returns, none has broken off since the last word. -/
theorem calm_of_returns {run : Run} (hreturns : ∀ x ∈ run, x.2.returns = true)
    (r : Registration) :
    ¬ Since Turn.BreaksOff Turn.Wordless (turns run r) := by
  refine turns_of_turn
    (P := fun past _ => ¬ Since Turn.BreaksOff Turn.Wordless past)
    (fun _ q => q.returns = true) (fun t hq h hsince => ?_) run hreturns
    not_since_nil
  rcases since_concat.1 hsince with hbreaks | ⟨-, hsince⟩
  · exact absurd (hbreaks.symm.trans hq) Bool.false_ne_true
  · exact h hsince

/-- Whatever has been asked of a registration: the last event that was told up
to a snapshot agrees with it in name, cluster, labels and online flag, and in
the address as well unless that was bound since; where none was told, the
description does. That is so unless an edit has broken off since, and none has
where every request returns. -/
theorem follower_current (info : NodeInfo) (run : Run) (env : Services) :
    let whole : Run := run ++ [(env, .snapshot)]
    let past := turns whole (ofInfo info)
    let last :=
      lastSaid info (lifecycleOf (performAll whole (ofInfo info)).effects)
    let s := ((performAll run (ofInfo info)).state.snapshot env).result
    ((∀ x ∈ run, x.2.returns = true) →
        ¬ Since Turn.BreaksOff Turn.Wordless past)
      ∧ (¬ Since Turn.BreaksOff Turn.Wordless past →
          last.name = s.name ∧ last.cluster = s.cluster
            ∧ last.labels = s.labels
            ∧ last.on = s.on
            ∧ (¬ Since Turn.Readdresses Turn.Wordless past →
                last.address = s.address)) := by
  intro whole past last s
  refine ⟨fun hreturns => calm_of_returns (fun x hx => ?_) _, fun hcalm => ?_⟩
  · rcases List.mem_append.1 hx with hx | hx
    · exact hreturns x hx
    · rw [List.mem_singleton.1 hx]
      rfl
  · have hknown : Known info past (performAll whole (ofInfo info)).state :=
      known_performAll info whole hcalm
    have hstate : (performAll whole (ofInfo info)).state
        = ((performAll run (ofInfo info)).state.refresh env.now).1 :=
      performAll_concat run env .snapshot _
    have hs : s = (performAll whole (ofInfo info)).state.draft.build
        (performAll whole (ofInfo info)).state.name := by
      refine hknown.fresh s ?_
      rw [hstate, refresh_state]
      rfl
    have hlast : last = lastSaid info (past.flatMap Turn.events) := by
      rw [← lifecycleOf_performAll]
    rw [hs, hlast]
    exact ⟨hknown.name, hknown.cluster, hknown.labels, hknown.on,
      hknown.address⟩

/-- A node that beats, is labelled by an edit, and then bound. -/
def labelledAndBound : Run :=
  [(surroundingsAt 0, .heartbeat 10),
   (surroundingsAt 1, .mutate .system (·.label "zone" "a")),
   (surroundingsAt 2, .bind "10.0.0.1:2375")]

/-- The event of the edit is the last, and tells all but the address. -/
theorem follower_of_labelledAndBound :
    let whole : Run := labelledAndBound ++ [(surroundingsAt 3, .snapshot)]
    let last := lastSaid (.bare "n1")
      (lifecycleOf (performAll whole (ofInfo (.bare "n1"))).effects)
    let s :=
      ((performAll labelledAndBound (ofInfo (.bare "n1"))).state.snapshot
        (surroundingsAt 3)).result
    (∀ x ∈ labelledAndBound, x.2.returns = true)
      ∧ ¬ Since Turn.BreaksOff Turn.Wordless
        (turns whole (ofInfo (.bare "n1")))
      ∧ last.labels = s.labels ∧ s.labels.find? "zone" = some "a"
      ∧ last.on = s.on ∧ s.on = true
      ∧ last.address = none ∧ s.address = some "10.0.0.1:2375" := by
  intro whole last s
  have hreturns : ∀ x ∈ labelledAndBound, x.2.returns = true := by decide
  obtain ⟨hcalm, hknown⟩ :=
    follower_current (.bare "n1") labelledAndBound (surroundingsAt 3)
  obtain ⟨-, -, hlabels, hon, -⟩ := hknown (hcalm hreturns)
  exact ⟨hreturns, hcalm hreturns, hlabels, rfl, hon, rfl, rfl, rfl⟩

/-- Behind an edit that broke off, a node that has come online is offline for
those who follow: no event has told it, and the next snapshot says it. -/
theorem breakOff_misleads :
    let run : Run :=
      [(surroundingsAt 0, .heartbeat 10),
        (surroundingsAt 0, .breakOff .system id)]
    let whole : Run := run ++ [(surroundingsAt 0, .snapshot)]
    let told := lifecycleOf (performAll whole (ofInfo (.bare "n1"))).effects
    let s := ((performAll run (ofInfo (.bare "n1"))).state.snapshot
      (surroundingsAt 0)).result
    told = [] ∧ s.on = true ∧ (lastSaid (.bare "n1") told).on ≠ s.on := by
  refine ⟨rfl, rfl, ?_⟩
  decide

end Registration

end Fleetkeeper
