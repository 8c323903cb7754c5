/-
An event gives the snapshot before it where there is one at hand. When that
is so is a question about the past: one was taken, and nothing has dropped it
since.

# What takes a snapshot and what drops it

A snapshot is taken by whoever asks for it, by an edit that is granted, and by
a move to another cluster. It is dropped by a report that is granted and by
binding to another address, whether or not there is anybody to be told. So it
is not enough that some snapshot was shown before (`report_forgets`).

# What an event gives

A change of the snapshot by an edit gives the one that the edit's first look
took; it is never without. Otherwise an event gives what was at hand before
the request, but for changes of liveness that are seen behind a drop: by a
move to another cluster, and by the second look of an edit.
-/
import Fleetkeeper.Proofs.Node.Telling

namespace Fleetkeeper.Registration

variable {env : Services} {r s : Registration} {q : Request}
  {events : List LifecycleEvent} {messages : List HealthEvent}

namespace Turn

/-- A snapshot was taken. -/
def Takes (t : Turn) : Prop :=
  match t.request with
  | .snapshot => True
  | .mutate caller _ | .breakOff caller _ =>
    t.before.checkUpdate t.env caller = .ok ()
  | .setCluster cluster => t.before.cluster ≠ cluster
  | .heartbeat _ | .updateHealth _ _ | .bind _ | .teardown => False

/-- The snapshot at hand, if any, was dropped and none taken in its place. -/
def Drops (t : Turn) : Prop :=
  match t.request with
  | .updateHealth caller _ => t.before.checkUpdate t.env caller = .ok ()
  | .bind address => t.before.address ≠ some address
  | .heartbeat _ | .snapshot | .mutate _ _ | .breakOff _ _ | .setCluster _
  | .teardown => False

/-- A snapshot was shown to somebody, who asked for it or was told an event. -/
def Shows (t : Turn) : Prop := t.request = .snapshot ∨ t.events ≠ []

/-- Whether an event of this turn gives the snapshot before it, `known` being
whether there was one at hand before the turn. -/
def Recalls (t : Turn) (known : Prop) (e : LifecycleEvent) : Prop :=
  match t.request with
  | .mutate _ _ =>
    e.action = .update ∨ (known ∧ e.current.on = t.before.isOn t.env.now)
  | .setCluster _ => known ∧ e.action = .update
  | _ => known

end Turn

-- ========================================================= of each request

/-- There is a snapshot at hand behind a request that takes one, and behind
one that leaves it. -/
theorem Telling.cache_isSome (h : Telling env r s q events messages) :
    s.cache.isSome = true
      ↔ Turn.Takes ⟨env, q, r⟩
        ∨ (¬ Turn.Drops ⟨env, q, r⟩ ∧ r.cache.isSome = true) := by
  cases h with
  | idle hidle _ hcache =>
    rw [hcache]
    cases q with
    | heartbeat | teardown => simp [Turn.Takes, Turn.Drops]
    | snapshot | bind => cases hidle
    | updateHealth | mutate | breakOff =>
      have hdenied : r.checkUpdate env _ ≠ .ok () := hidle
      simp [Turn.Takes, Turn.Drops, hdenied]
    | setCluster =>
      have hsame : r.cluster = _ := hidle
      simp [Turn.Takes, Turn.Drops, hsame]
  | looked _ hcache => simp [Turn.Takes, hcache]
  | reported hgranted _ hcache =>
    simp [Turn.Takes, Turn.Drops, hcache, hgranted]
  | edited hgranted _ hcache | brokenOff hgranted _ hcache =>
    simp [Turn.Takes, hcache, hgranted]
  | moved hmoved _ hcache =>
    have hother : r.cluster ≠ _ := hmoved
    simp [Turn.Takes, hcache, hother]
  | @bound target _ hcache =>
    rw [hcache]
    by_cases hsame : r.draft.address = some target
    · simp [Turn.Takes, Turn.Drops, address, hsame]
    · simp [Turn.Takes, Turn.Drops, address, hsame]

/-- A request that shows a snapshot or tells an event has taken a look. -/
theorem Telling.takes_of_shows (h : Telling env r s q events messages)
    (hshows : q = .snapshot ∨ events ≠ []) : Turn.Takes ⟨env, q, r⟩ := by
  cases h with
  | idle hidle =>
    rcases hshows with rfl | hshows
    · cases hidle
    · exact absurd rfl hshows
  | looked => trivial
  | reported | bound =>
    rcases hshows with hshows | hshows
    · cases hshows
    · exact absurd rfl hshows
  | edited hgranted | brokenOff hgranted => exact hgranted
  | moved hmoved => exact hmoved

theorem ofFlag_ne_update (on : Bool) :
    LifecycleAction.ofFlag on ≠ .update := by
  cases on <;> exact nofun

/-- An event gives the snapshot before it as its turn says. -/
theorem Telling.old_isSome (h : Telling env r s q events messages) :
    ∀ e ∈ events, (e.old.isSome = true
      ↔ Turn.Recalls ⟨env, q, r⟩ (r.cache.isSome = true) e) := by
  intro e he
  cases h with
  | idle | reported | brokenOff | bound => cases he
  | looked =>
    obtain ⟨-, rfl⟩ := mem_turned.1 he
    rfl
  | edited _ hdraft =>
    -- The first look gives what was at hand, the second nothing, the update
    -- what the first look saw.
    rcases List.mem_append.1 he with he | he
    · rcases List.mem_append.1 he with he | he
      · obtain ⟨hturn, rfl⟩ := mem_turned.1 he
        have hon : (r.seen env.now).on = r.isOn env.now := by
          rw [seen_of_turn hturn]
          rfl
        simp [Turn.Recalls, ofFlag_ne_update, hon]
      · obtain ⟨hturn, rfl⟩ := mem_turned.1 he
        have hon : (s.draft.build r.name).on = r.isOn env.later := by
          rw [hdraft]
          rfl
        simp [Turn.Recalls, ofFlag_ne_update, hon, hturn.symm]
    · obtain ⟨-, rfl⟩ := mem_updated.1 he
      simp [Turn.Recalls]
  | moved =>
    rcases List.mem_append.1 he with he | he
    · obtain ⟨-, rfl⟩ := mem_turned.1 he
      simp [Turn.Recalls, ofFlag_ne_update]
    · rw [List.mem_singleton.1 he]
      simp [Turn.Recalls]

-- ============================================================== of all runs

/-- There is a snapshot at hand where one was taken and none dropped since. -/
theorem cache_performAll (info : NodeInfo) (run : Run) :
    (performAll run (ofInfo info)).state.cache.isSome = true
      ↔ Since Turn.Takes (¬ Turn.Drops ·) (turns run (ofInfo info)) :=
  turns_of_turn
    (P := fun past r =>
      r.cache.isSome = true ↔ Since Turn.Takes (¬ Turn.Drops ·) past)
    (fun _ _ => True)
    (fun t _ h => by
      rw [since_concat, ← h]; exact (telling_of_turn t).cache_isSome)
    run (fun _ _ => trivial) (by simp [ofInfo, not_since_nil])

/-- Whatever has been asked of a registration, an event that the next request
tells gives the snapshot before it just where its turn says so, if a snapshot
was taken before and none dropped since; and one was taken wherever one was
shown. -/
theorem old_recalled (info : NodeInfo) (run : Run) (env : Services)
    (q : Request) :
    let past := turns run (ofInfo info)
    let t : Turn := ⟨env, q, (performAll run (ofInfo info)).state⟩
    (Since Turn.Shows (¬ Turn.Drops ·) past →
        Since Turn.Takes (¬ Turn.Drops ·) past)
      ∧ ∀ e ∈ t.events, (e.old.isSome = true
          ↔ t.Recalls (Since Turn.Takes (¬ Turn.Drops ·) past) e) := by
  intro past t
  refine ⟨fun hshown => hshown.imp fun u _ =>
    (telling_of_turn u).takes_of_shows, ?_⟩
  rw [← cache_performAll info run]
  exact (telling_of_turn t).old_isSome

def seenAndBeaten : Run :=
  [(surroundingsAt 0, .snapshot), (surroundingsAt 0, .heartbeat 10)]

/-- Its coming online gives the snapshot that was seen. -/
theorem recalled_of_seenAndBeaten :
    let past := turns seenAndBeaten (ofInfo (.bare "n1"))
    let t : Turn := ⟨surroundingsAt 1, .snapshot,
      (performAll seenAndBeaten (ofInfo (.bare "n1"))).state⟩
    Since Turn.Shows (¬ Turn.Drops ·) past
      ∧ ∃ e ∈ t.events, e.action = .online ∧ e.old.isSome = true := by
  intro past t
  have hshown : Since Turn.Shows (¬ Turn.Drops ·) past :=
    ⟨[], _, _, rfl, .inl rfl, fun u hu => by
      rw [List.mem_singleton.1 hu]
      exact id⟩
  obtain ⟨htaken, hrecalled⟩ :=
    old_recalled (.bare "n1") seenAndBeaten (surroundingsAt 1) .snapshot
  refine ⟨hshown, _, List.mem_singleton.2 rfl, rfl, ?_⟩
  exact (hrecalled _ (List.mem_singleton.2 rfl)).2 (htaken hshown)

/-- A report drops the snapshot that was seen, so that the event of coming
online has none before it. -/
theorem report_forgets :
    let run : Run :=
      [(surroundingsAt 0, .snapshot),
        (surroundingsAt 0, .updateHealth .system {}),
       (surroundingsAt 0, .heartbeat 10)]
    let t : Turn := ⟨surroundingsAt 0, .snapshot,
      (performAll run (ofInfo (.bare "n1"))).state⟩
    (∃ u ∈ turns run (ofInfo (.bare "n1")), u.Shows)
      ∧ ∃ e ∈ t.events, e.action = .online ∧ e.old = none :=
  ⟨⟨_, List.mem_cons_self .., .inl rfl⟩, _, List.mem_singleton.2 rfl, rfl, rfl⟩

end Fleetkeeper.Registration
