/-
What can be asked of a registration, as data, and runs of requests. A law
about every state that a registration can get into is a law about
`performAll`: what every request keeps, a run keeps (`performAll_of_perform`).

Every request of a run comes with surroundings of its own. So the clock may
show anything from one request to the next, and within a request that reads
it twice; callers may gain and lose rights, and the same address may be bound
at one time and refused at another.
-/
import Fleetkeeper.Node.Registration

namespace Fleetkeeper

/-- An operation whose result nobody looks at. -/
def Step.discard {α : Type} (s : Step α) : Step Unit :=
  ⟨s.state, (), s.effects⟩

@[simp] theorem Step.discard_state {α : Type} (s : Step α) :
    s.discard.state = s.state :=
  rfl

@[simp] theorem Step.discard_effects {α : Type} (s : Step α) :
    s.discard.effects = s.effects :=
  rfl

namespace Registration

-- ====================================================== what is denied

section Denied

variable {env : Services} {r : Registration} {caller : Caller} {e : Fault}

theorem updateHealth_denied (report : Metrics)
    (hdenied : r.checkUpdate env caller = .error e) :
    r.updateHealth env caller report = ⟨r, .error e, []⟩ := by
  unfold updateHealth
  rw [hdenied]

theorem mutate_denied (edit : Draft → Draft)
    (hdenied : r.checkUpdate env caller = .error e) :
    r.mutate env caller edit = ⟨r, .error e, []⟩ := by
  unfold mutate
  rw [hdenied]

theorem breakOff_denied (edit : Draft → Draft)
    (hdenied : r.checkUpdate env caller = .error e) :
    r.breakOff env caller edit = ⟨r, .error e, []⟩ := by
  unfold breakOff
  rw [hdenied]

end Denied

-- ============================================================= requests

/-- Something that can be asked of a registration. -/
inductive Request where
  | heartbeat (secs : UInt32)
  | snapshot
  | updateHealth (caller : Caller) (report : Metrics)
  | mutate (caller : Caller) (edit : Draft → Draft)
  /-- An edit that breaks off, and what it has done by then. -/
  | breakOff (caller : Caller) (edit : Draft → Draft)
  | setCluster (cluster : Option String)
  | bind (address : String)
  | teardown

/-- What a request to a registration gives back. -/
inductive Answer where
  | done (result : Except Fault Unit)
  | shown (info : NodeInfo)
  | merged (result : Except Fault Metrics)
  | bound (result : Except Fault Client)

/-- Why a request failed, if it did. -/
def Answer.fault? : Answer → Option Fault
  | done (.error e) | merged (.error e) | bound (.error e) => some e
  | done (.ok _) | shown _ | merged (.ok _) | bound (.ok _) => none

namespace Request

variable {env : Services} {r : Registration} {caller : Caller} {e : Fault}

/-- Carry out a request. -/
def perform (env : Services) (r : Registration) : Request → Step Unit
  | heartbeat secs => (r.heartbeat env secs.toNat).discard
  | snapshot => (r.snapshot env).discard
  | updateHealth caller report => (r.updateHealth env caller report).discard
  | mutate caller edit => (r.mutate env caller edit).discard
  | breakOff caller edit => (r.breakOff env caller edit).discard
  | setCluster cluster => r.setCluster env cluster
  | bind address => (r.bind env address).discard
  | teardown => r.teardown

/-- What comes back. -/
def answer (env : Services) (r : Registration) : Request → Answer
  | heartbeat secs => .done (r.heartbeat env secs.toNat).result
  | snapshot => .shown (r.snapshot env).result
  | updateHealth caller report =>
    .merged (r.updateHealth env caller report).result
  | mutate caller edit => .done (r.mutate env caller edit).result
  | breakOff caller edit => .done (r.breakOff env caller edit).result
  | setCluster cluster => .done (.ok (r.setCluster env cluster).result)
  | bind address => .bound (r.bind env address).result
  | teardown => .done (.ok r.teardown.result)

/-- Whether a request comes to its end, granted or denied. -/
def returns : Request → Bool
  | breakOff _ _ => false
  | _ => true

/-- Whether an edit that breaks off leaves a part of every draft as it
was. -/
def Keeps {α : Type} (part : Draft → α) : Request → Prop
  | breakOff _ edit => ∀ d, part (edit d) = part d
  | heartbeat _ | snapshot | updateHealth _ _ | mutate _ _ | setCluster _
  | bind _ | teardown => True

/-- The caller whose right to update the node is looked at. -/
def caller? : Request → Option Caller
  | updateHealth caller _ | mutate caller _ | breakOff caller _ => some caller
  | _ => none

/-- A request that is denied changes nothing, tells nothing, and fails for
that reason. -/
theorem denied {q : Request} (hq : q.caller? = some caller)
    (hdenied : r.checkUpdate env caller = .error e) :
    q.perform env r = ⟨r, (), []⟩ ∧ (q.answer env r).fault? = some e := by
  cases q with
  | updateHealth _ report =>
    cases hq
    rw [perform, answer, updateHealth_denied report hdenied]
    exact ⟨rfl, rfl⟩
  | mutate _ edit =>
    cases hq
    rw [perform, answer, mutate_denied edit hdenied]
    exact ⟨rfl, rfl⟩
  | breakOff _ edit =>
    cases hq
    rw [perform, answer, breakOff_denied edit hdenied]
    exact ⟨rfl, rfl⟩
  | heartbeat | snapshot | setCluster | bind | teardown => cases hq

/-- A request is denied, or whoever makes it may make it. -/
theorem perform_denied_or (env : Services) (q : Request) (r : Registration) :
    q.perform env r = ⟨r, (), []⟩
      ∨ ∀ caller, q.caller? = some caller →
        r.checkUpdate env caller = .ok () := by
  by_cases hdenied : ∃ caller e, q.caller? = some caller
      ∧ r.checkUpdate env caller = .error e
  · obtain ⟨caller, e, hcaller, hdenied⟩ := hdenied
    exact .inl (Request.denied hcaller hdenied).1
  · refine .inr fun caller hcaller => ?_
    cases hresult : r.checkUpdate env caller with
    | ok => rfl
    | error e => exact absurd ⟨caller, e, hcaller, hresult⟩ hdenied

end Request

-- ================================================================= runs

/-- Requests, each with what the registration finds around it. -/
abbrev Run := List (Services × Request)

/-- Carry out requests one after the other; the effects of all of them. -/
def performAll : Run → Registration → Step Unit
  | [], r => ⟨r, (), []⟩
  | (env, q) :: rest, r =>
    let s := q.perform env r
    let s' := performAll rest s.state
    ⟨s'.state, (), s.effects ++ s'.effects⟩

/-- What a registration finds around it so many seconds into 1970. -/
def surroundingsAt (secs : Int) : Services where
  now := ⟨secs * 1000000000⟩
  later := ⟨secs * 1000000000⟩

/-- What is kept by every request that may occur is kept by a run. `P` speaks
of the registration and of all effects so far. -/
theorem performAll_of_perform {P : Registration → List Effect → Prop}
    (may : Services → Request → Prop)
    (hstep : ∀ {r : Registration} {told : List Effect} (env : Services)
      (q : Request), may env q → P r told →
      P (q.perform env r).state (told ++ (q.perform env r).effects))
    (run : Run) (hmay : ∀ x ∈ run, may x.1 x.2) {r : Registration}
    (told : List Effect) (h : P r told) :
    P (performAll run r).state (told ++ (performAll run r).effects) := by
  induction run generalizing r told with
  | nil =>
    show P r (told ++ [])
    rw [List.append_nil]
    exact h
  | cons x rest ih =>
    obtain ⟨env, q⟩ := x
    have hfirst := hstep env q (hmay (env, q) (List.mem_cons_self ..)) h
    have hrest := ih (fun y hy => hmay y (List.mem_cons_of_mem _ hy)) _ hfirst
    rw [List.append_assoc] at hrest
    exact hrest

end Registration

end Fleetkeeper
