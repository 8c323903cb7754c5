/-
What a storage does to registrations on its own, without being asked for it by
whoever has one: it closes them, binds them and takes their snapshots. A law
about these three (`Tame`) is a law about all that a storage does, for each of
the registrations that it has made (`Keeps`); nothing but registering makes
another one.

So a law about single registrations is one about storages as well: what is so
of a registration that was only described, and is kept by every request, is so
of all registrations that a storage ever made (`everywhere_performAll`).
-/
import Fleetkeeper.Proofs.Node.Registry

namespace Fleetkeeper.Storage

variable {st st' st'' : Storage} {i : Slot} {r : Registration}
  {R : Registration → Registration → Prop}

/-- What holds between a registration and what becomes of it, as long as
nobody has asked it for anything. -/
structure Tame (R : Registration → Registration → Prop) : Prop where
  refl (r : Registration) : R r r
  trans {r s t : Registration} (h : R r s) (h' : R s t) : R r t
  closed (r : Registration) : R r r.teardown.state
  bound (env : Services) (address : String) (r : Registration) :
    R r (r.bind env address).state
  looked (env : Services) (r : Registration) : R r (r.snapshot env).state

/-- What every request keeps is kept by these three. -/
theorem tame_of_requests {P : Registration → Prop}
    (hrequest : ∀ env q (r : Registration), P r →
      P (Registration.Request.perform env r q).state) :
    Tame fun r s => P r → P s where
  refl _ := id
  trans h h' := h' ∘ h
  closed r := hrequest { now := ⟨0⟩, later := ⟨0⟩ } .teardown r
  bound env address r := hrequest env (.bind address) r
  looked env r := hrequest env .snapshot r

/-- No registration was made, and of each there is what `R` says. -/
structure Keeps (R : Registration → Registration → Prop) (st st' : Storage) :
    Prop where
  length : st'.slots.length = st.slots.length
  each : ∀ i r', st'.at? i = some r' → ∃ r, st.at? i = some r ∧ R r r'

theorem Tame.still (h : Tame R) (st : Storage) : Keeps R st st :=
  ⟨rfl, fun _ r hat => ⟨r, hat, h.refl r⟩⟩

theorem Tame.then (h : Tame R) (hfirst : Keeps R st st')
    (hrest : Keeps R st' st'') :
    Keeps R st st'' := by
  refine ⟨hrest.length.trans hfirst.length, fun i t ht => ?_⟩
  obtain ⟨s, hs, hst⟩ := hrest.each i t ht
  obtain ⟨r, hr, hrs⟩ := hfirst.each i s hs
  exact ⟨r, hr, h.trans hrs hst⟩

-- ==================================================== all that storages do

/-- An operation keeps what its step keeps, and touches nothing else. -/
theorem keeps_commit {α : Type} {s : Step α} (h : Tame R)
    (hat : st.at? i = some r) (hstep : R r s.state) :
    Keeps R st (st.commit i s).1 := by
  refine ⟨List.length_set, fun j r' hat' => ?_⟩
  rw [at?_commit hat] at hat'
  split at hat'
  case isTrue hij =>
    cases hat'
    exact ⟨r, hij ▸ hat, hstep⟩
  case isFalse => exact ⟨r', hat', h.refl r'⟩

theorem keeps_teardownAt (h : Tame R) (i : Slot) (st : Storage) :
    Keeps R st (st.teardownAt i).1 := by
  unfold teardownAt
  split
  case h_1 r hat => exact keeps_commit h hat (h.closed r)
  case h_2 => exact h.still st

theorem keeps_teardowns (h : Tame R) (places : List Slot) (st : Storage) :
    Keeps R st (teardowns places st).1 := by
  induction places generalizing st with
  | nil => exact h.still st
  | cons i rest ih => exact h.then (keeps_teardownAt h i st) (ih _)

/-- Names are no part of registrations. -/
theorem Keeps.unnamed {names : Table Slot}
    (h : Keeps R { st with names } st') :
    Keeps R st st' :=
  ⟨h.length, h.each⟩

theorem keeps_remove (h : Tame R) (name : String) (st : Storage) :
    Keeps R st (st.remove name).1 := by
  unfold remove
  split
  case h_1 => exact h.still st
  case h_2 i _ => exact (keeps_teardownAt h i { st with names := _ }).unnamed

theorem keeps_shutdown (h : Tame R) (st : Storage) :
    Keeps R st st.shutdown.1 :=
  (keeps_teardowns h _ { st with names := _ }).unnamed

/-- Settling binds a registration, and closes it again where that fails; both
are tame. -/
theorem keeps_settle (h : Tame R) (env : Surroundings) (info : NodeInfo)
    (i : Slot) (st : Storage) : Keeps R st (st.settle env info i).1 := by
  unfold settle
  dsimp only
  split
  case h_1 address r _ hat =>
    have hbound :=
      keeps_commit h hat (h.bound (st.services env st.clusterOf) address r)
    split
    case h_1 => exact hbound
    case h_2 =>
      have hremoved := h.then hbound (keeps_remove h info.name _)
      split
      case h_1 => exact hremoved
      case h_2 => exact hremoved
  case h_2 => exact h.still st

theorem keeps_snapshotAt (h : Tame R) (env : Surroundings) (i : Slot)
    (st : Storage) :
    Keeps R st (st.snapshotAt env i).1 := by
  unfold snapshotAt
  split
  case h_1 r hat => exact keeps_commit h hat (h.looked _ r)
  case h_2 => exact h.still st

theorem keeps_snapshots (h : Tame R) (env : Surroundings) (places : List Slot)
    (st : Storage) : Keeps R st (snapshots env places st).1 := by
  induction places generalizing st with
  | nil => exact h.still st
  | cons i rest ih => exact h.then (keeps_snapshotAt h env i st) (ih _)

-- =========================================== laws about every registration

/-- It is so of all registrations that were ever made. -/
def Everywhere (P : Registration → Prop) (st : Storage) : Prop :=
  ∀ i r, st.at? i = some r → P r

variable {P : Registration → Prop}

theorem Everywhere.keeps (h : Everywhere P st)
    (hkeeps : Keeps (fun r s => P r → P s) st st') :
    Everywhere P st' := by
  intro i s hat
  obtain ⟨r, hat', himp⟩ := hkeeps.each i s hat
  exact himp (h i r hat')

section

variable (hnew : ∀ info, P (Registration.ofInfo info))
  (hrequest : ∀ env q (r : Registration), P r →
    P (Registration.Request.perform env r q).state)
include hnew hrequest

/-- What holds of every registration holds of one that was just made, if it
holds of every description and every request keeps it. -/
theorem everywhere_register (env : Surroundings) (info : NodeInfo)
    (h : Everywhere P st) :
    Everywhere P (st.register env info).1 := by
  unfold register
  rcases enrol_cases env info st with ⟨e, henrol⟩ | ⟨-, -, henrol⟩
  · rw [henrol]
    exact h
  · rw [henrol]
    dsimp only
    refine Everywhere.keeps (fun i r hat => ?_)
      (keeps_settle (tame_of_requests hrequest) env info _ _)
    replace hat := (getElem?_concat _ _ _).symm.trans hat
    split at hat
    case isTrue =>
      cases hat
      exact hnew info
    case isFalse => exact h i r hat

/-- Requests to a storage keep what every request to a registration keeps, also
when they come through an old handle. -/
theorem everywhere_asked (env : Surroundings) {q : Request}
    (hphase : ∀ i phase, q = .moveOn i phase → ∀ r : Registration, P r →
      P (r.inPhase phase))
    (h : Everywhere P st) : Everywhere P (q.perform env st).1 := by
  have htame := tame_of_requests hrequest
  have hoperate (i : Slot) (op : Registration → Step Unit)
      (hop : ∀ r : Registration, P r → P (op r).state) :
      Everywhere P (st.operate i op).1 := by
    unfold operate
    split
    case h_1 r hat => exact h.keeps (keeps_commit htame hat (hop r))
    case h_2 => exact h
  cases q with
  | register info => exact everywhere_register hnew hrequest env info h
  | getOrRegister name =>
    show Everywhere P (st.getOrRegister env name).1
    unfold getOrRegister
    split
    case h_1 => exact h
    case h_2 => exact everywhere_register hnew hrequest env _ h
  | remove name => exact h.keeps (keeps_remove htame name st)
  | list => exact h.keeps (keeps_snapshots htame env _ st)
  | shutdown => exact h.keeps (keeps_shutdown htame st)
  | ask i q => exact hoperate i _ (hrequest _ q)
  | moveOn i phase => exact hoperate i _ (hphase i phase rfl)

variable (hphase : ∀ phase (r : Registration), P r → P (r.inPhase phase))
include hphase

/-- What is so of every new registration and is kept by requests is so of all
registrations that a storage ever made. By induction on the requests. -/
theorem everywhere_performAll (run : Run) (h : Everywhere P st) :
    Everywhere P (performAll run st).1 := by
  induction run generalizing st with
  | nil => exact h
  | cons x rest ih =>
    exact ih
      (everywhere_asked hnew hrequest x.1 (fun _ phase _ => hphase phase) h)

end

end Fleetkeeper.Storage
