/-
The lease of a node: a heartbeat makes it online up to the moment that the
heartbeat and the settings name, and no longer.

# How far that goes

The least term of a lease is any count of seconds that the settings like to
give, and they are accepted with every one of 64 bits. The lease is exact
where it ends at a date (`lease_exact`); from the years up to 9999 it does for
every term of `Instant.mostSeconds` or less. The length that is kept beside it
has 32 bits, and says less where the term has more. What becomes of longer
terms that are accepted is shown behind the theorem: a heartbeat that breaks
off, and one that leaves the node offline.

# What carries it

Only a heartbeat writes the lease, so it is there as long as there is no other
(`Leased.perform`). That snapshots go by it needs the snapshot at hand to show
the online flag as the draft has it. Every request sees to that but an edit
that breaks off having written the flag, so the law is about runs in which
those leave it alone.
-/
import Fleetkeeper.Proofs.Node.HealthChannel

namespace Fleetkeeper.Registration

variable {env : Services} {r : Registration} {q : Request}

/-- Whether a request is a heartbeat. -/
def Request.beats : Request → Bool
  | heartbeat _ => true
  | snapshot | updateHealth _ _ | mutate _ _ | breakOff _ _
    | setCluster _ | bind _
  | teardown => false

-- =================================================== what snapshots go by

section

variable {α : Type} {part : NodeInfo → α} {view : Draft → α}
  (hview : ∀ (d : Draft) (name : String), part (d.build name) = view d)

include hview

/-- A snapshot shows a part of the draft behind every request, unless an edit
breaks off that has written it. -/
theorem shows_perform (hkeeps : q.Keeps view) (h : r.Shows part) :
    (q.perform env r).state.Shows part := by
  refine (telling_of_perform env q r).shows (fun caller edit hq d => ?_)
    (perform_name env q r) h
  subst hq
  rw [hview, hview]
  exact hkeeps d

theorem shows_performAll {run : Run} (hkeeps : ∀ x ∈ run, x.2.Keeps view)
    (h : r.Shows part) : (performAll run r).state.Shows part :=
  performAll_of_perform (P := fun r _ => r.Shows part)
    (fun _ q => q.Keeps view) (fun _ _ hq hr => shows_perform hview hq hr)
    run hkeeps [] h

end

theorem shows_on_performAll {run : Run}
    (hkeeps : ∀ x ∈ run, x.2.Keeps Draft.on) (h : r.Shows NodeInfo.on) :
    (performAll run r).state.Shows NodeInfo.on :=
  shows_performAll (fun _ _ => rfl) hkeeps h

/-- Where that is so, a snapshot tells whether the lease is valid. -/
theorem Shows.snapshot_on (h : r.Shows NodeInfo.on) (env : Services) :
    (r.snapshot env).result.on = r.isOn env.now :=
  h.seen env.now

-- ============================================================== the lease

/-- A registration with a lease up to `stop`, that tells so. -/
structure Leased (stop : Instant) (ttl : Nat) (r : Registration) : Prop where
  lease : r.lease = some stop
  ttl : r.ttl = ttl
  shows : r.Shows NodeInfo.on

variable {stop : Instant} {ttl : Nat}

theorem Leased.perform (h : Leased stop ttl r) (hbeats : q.beats = false)
    (hkeeps : q.Keeps Draft.on) : Leased stop ttl (q.perform env r).state := by
  have hshows : (q.perform env r).state.Shows NodeInfo.on :=
    shows_perform (fun _ _ => rfl) hkeeps h.shows
  rcases perform_state env q r with ⟨secs, _, _, rfl, -⟩
    | ⟨_, _, _, _, _, hstate⟩
  · cases hbeats
  · rw [hstate] at hshows ⊢
    exact ⟨h.lease, h.ttl, hshows⟩

/-- By induction on the requests. -/
theorem Leased.performAll {run : Run} (h : Leased stop ttl r)
    (hrun : ∀ x ∈ run, x.2.beats = false ∧ x.2.Keeps Draft.on) :
    Leased stop ttl (performAll run r).state :=
  performAll_of_perform (P := fun r _ => Leased stop ttl r)
    (fun _ q => q.beats = false ∧ q.Keeps Draft.on)
    (fun _ _ hq hr => hr.perform hq.1 hq.2) run hrun [] h

/-- Up to its end, and no longer. -/
theorem Leased.snapshot_on (h : Leased stop ttl r) (env : Services) :
    (r.snapshot env).result.on = decide (env.now ≤ stop) := by
  rw [h.shows.snapshot_on]
  unfold isOn
  rw [h.lease]

/-- A heartbeat gives a lease, if it is a span and ends at a date. -/
theorem Shows.leased (h : r.Shows NodeInfo.on) {secs term : Nat}
    (hterm : leaseSecs env.nodes secs = term)
    (hspan : (term : Int) ≤ Span.maxSeconds)
    (hend : (env.now.afterSeconds term).inRange = true) :
    Leased (env.now.afterSeconds term) (low32 term)
      (r.heartbeat env secs).state := by
  obtain ⟨hstate, -⟩ := heartbeat_done (r := r) hterm hspan hend
  rw [hstate]
  exact ⟨rfl, rfl, h⟩

/-- The least term of accepted settings is no less than the least of all. -/
theorem leaseSecs_of_validate {config : ClusterConfig}
    (hvalid : config.validate = .ok ()) (secs : Nat) :
    leaseSecs config.nodes secs = max secs config.nodes.minTtlSecs := by
  obtain ⟨-, -, hleast, -⟩ := ClusterConfig.validate_eq_ok_iff.1 hvalid
  unfold leaseSecs
  rw [Nat.max_eq_left hleast]

/-- The lease of a node, whatever has been asked of it before. With settings
that are accepted it ends `term` seconds behind the heartbeat, where dates
reach as far, which they do for terms of up to a quarter of a million years:
the heartbeat comes to its end, and whatever is asked of the node from then on
that is no heartbeat, its snapshots show it online up to that moment and
offline later. The length that is kept is the term if that has 32 bits. -/
theorem lease_exact (info : NodeInfo) (run : Run) (config : ClusterConfig)
    (env : Services) (secs : UInt32) (hvalid : config.validate = .ok ())
    (hnodes : env.nodes = config.nodes) (hclock : env.now.InCommonYears)
    (hrun : ∀ x ∈ run, x.2.Keeps Draft.on) :
    let term := max secs.toNat config.nodes.minTtlSecs
    let stop := env.now.afterSeconds term
    let beat := (performAll run (ofInfo info)).state.heartbeat env secs.toNat
    (term ≤ Instant.mostSeconds → stop.inRange = true)
      ∧ (stop.inRange = true →
          beat.result = .ok ()
            ∧ (beat.state.ttl = term ↔ term < 4294967296)
            ∧ ∀ later : Run,
              (∀ x ∈ later, x.2.beats = false ∧ x.2.Keeps Draft.on) →
                let r := (performAll later beat.state).state
                r.ttl = beat.state.ttl
                  ∧ ∀ env, (r.snapshot env).result.on
                    = decide (env.now ≤ stop)) := by
  have hterm : leaseSecs env.nodes secs.toNat
      = max secs.toNat config.nodes.minTtlSecs := by
    rw [hnodes, leaseSecs_of_validate hvalid]
  have hstart : (ofInfo info).Shows NodeInfo.on := fun c hc => by cases hc
  have hshows := shows_on_performAll hrun hstart
  -- The term has to be a variable before spans of it can be looked at, and so
  -- has the heartbeat.
  generalize max secs.toNat config.nodes.minTtlSecs = term at hterm ⊢
  generalize (performAll run (ofInfo info)).state = r at hshows ⊢
  have hbeat : (env.now.afterSeconds term).inRange = true →
      (r.heartbeat env secs.toNat).result = .ok ()
        ∧ Leased (env.now.afterSeconds term) (low32 term)
            (r.heartbeat env secs.toNat).state := fun hend =>
    have hspan := Instant.le_maxSeconds hclock hend
    ⟨(heartbeat_done hterm hspan hend).2, hshows.leased hterm hspan hend⟩
  generalize r.heartbeat env secs.toNat = beat at hbeat ⊢
  dsimp only
  refine ⟨Instant.inRange_afterSeconds hclock, fun hend => ?_⟩
  obtain ⟨hresult, hleased⟩ := hbeat hend
  refine ⟨hresult, ?_, fun later hlater => ?_⟩
  · rw [hleased.ttl]
    exact low32_eq_iff
  · have hkept := hleased.performAll hlater
    exact ⟨hkept.ttl.trans hleased.ttl.symm, hkept.snapshot_on⟩

/-- Settings with a least term for leases. -/
def leastTerm (secs : Nat) : ClusterConfig :=
  { nodes := { minTtlSecs := secs } }

/-- What a registration finds around it so many seconds into 1970, with these
settings. -/
def settledAt (config : ClusterConfig) (secs : Int) : Services :=
  { surroundingsAt secs with nodes := config.nodes }

/-- A node that was looked at while it was offline, and given an address since
by an edit that broke off. -/
def seenAndBrokenOff : Run :=
  [(surroundingsAt 0, .snapshot),
   (surroundingsAt 1, .breakOff .system (·.setAddress (some "10.0.0.1:2375")))]

/-- A move to another cluster, and the end of the registration. -/
def movedAndClosed : Run :=
  [(surroundingsAt 60, .setCluster (some "c1")),
    (surroundingsAt 61, .teardown)]

/-- That node beats in the second second, for the hour that the settings ask
for at least. Whatever is done with it then, at the end of the hour it is
online, and not after that. -/
theorem lease_of_seenAndBrokenOff :
    let config := leastTerm 3600
    let beat :=
      (performAll seenAndBrokenOff (ofInfo (.bare "n1"))).state.heartbeat
      (settledAt config 2) (10 : UInt32).toNat
    let r := (performAll movedAndClosed beat.state).state
    config.validate = .ok () ∧ beat.result = .ok () ∧ r.ttl = 3600
      ∧ (r.snapshot (surroundingsAt 3602)).result.on = true
      ∧ (r.snapshot (surroundingsAt 3603)).result.on = false := by
  dsimp only
  have hvalid : (leastTerm 3600).validate = .ok () := by decide
  have hterm : max (10 : UInt32).toNat (leastTerm 3600).nodes.minTtlSecs
    = 3600 := rfl
  have hrun : ∀ x ∈ seenAndBrokenOff, x.2.Keeps Draft.on :=
    List.forall_mem_cons.2 ⟨trivial, List.forall_mem_singleton.2 fun _ => rfl⟩
  have hmoved : ∀ x ∈ movedAndClosed, x.2.beats = false ∧ x.2.Keeps Draft.on :=
    List.forall_mem_cons.2 ⟨⟨rfl, trivial⟩,
      List.forall_mem_singleton.2 ⟨rfl, trivial⟩⟩
  obtain ⟨hends, hexact⟩ :=
    lease_exact (.bare "n1") seenAndBrokenOff (leastTerm 3600)
      (settledAt (leastTerm 3600) 2) 10 hvalid rfl (by decide) hrun
  rw [hterm] at hends hexact
  obtain ⟨hresult, httl, hlater⟩ := hexact (hends (by decide))
  obtain ⟨hkept, hsnapshot⟩ := hlater movedAndClosed hmoved
  refine ⟨hvalid, hresult, hkept.trans (httl.2 (by decide)), ?_, ?_⟩
  · rw [hsnapshot]
    decide
  · rw [hsnapshot]
    decide

/-- An edit that would have the node online and breaks off. -/
def flaggedAndBrokenOff : Run :=
  [(surroundingsAt 0, .breakOff .system fun d => { d with on := true })]

/-- Three least terms that are accepted, and an edit. The first has more than
32 bits, and zero is kept of it. The second is no span, so that a heartbeat
breaks off. The third counts as one second less than none, so that a node that
beats is offline at once. Behind the edit, a node that beats is told to be
offline by the snapshot that is still at hand. -/
theorem lease_overruns :
    (let config := leastTerm 4294967296
      let beat :=
        (ofInfo (.bare "n1")).heartbeat (settledAt config 0)
          (10 : UInt32).toNat
      config.validate = .ok () ∧ beat.result = .ok () ∧ beat.state.ttl = 0)
    ∧ (let config := leastTerm 9223372036854775807
      let beat :=
        (ofInfo (.bare "n1")).heartbeat (settledAt config 0)
          (10 : UInt32).toNat
      config.validate = .ok () ∧ beat.result = .error .outOfRange)
    ∧ (let config := leastTerm 18446744073709551615
      let beat :=
        (ofInfo (.bare "n1")).heartbeat (settledAt config 0)
          (10 : UInt32).toNat
      config.validate = .ok () ∧ beat.result = .ok ()
        ∧ (beat.state.snapshot (settledAt config 0)).result.on = false)
    ∧ (let beat :=
        (performAll flaggedAndBrokenOff (ofInfo (.bare "n1"))).state.heartbeat
          (surroundingsAt 0) (10 : UInt32).toNat
      beat.result = .ok ()
        ∧ (beat.state.snapshot (surroundingsAt 5)).result.on = false) := by
  refine ⟨⟨?_, ?_, ?_⟩, ⟨?_, ?_⟩, ⟨?_, ?_, ?_⟩, ?_, ?_⟩ <;> decide +kernel

end Fleetkeeper.Registration
