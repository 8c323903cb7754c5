/-
Callers who are denied are not heard. Who may update a node is looked at
before anything is done, and in the access list alone; so a report or an edit
that is denied leaves the storage, the access list and all that is told
exactly as they would be without it. What a run comes to is therefore what it
comes to when all such orders are left out, each of them judged by the access
list of its moment.

Turns carry the whole law. If the turns of the shorter run are the other turns
of the longer one, then every order that is left met the same storage, and it
did, gave back and told the same.
-/
import Fleetkeeper.Proofs.Node.Orders

namespace Fleetkeeper.Guarded

variable {g : Guarded} {env : Surroundings}

/-- Whether an order is a report or an edit that its caller has no right to
make: at this moment no grant of the caller covers updates of that node. -/
def denies (g : Guarded) : Order → Bool
  | .call name k d =>
    match g.storage.made? name k, d.caller? with
    | some _, some caller => !g.access.allows caller ⟨.node, name⟩ .update
    | _, _ => false
  | .grant _ _ | .revokeAll _ | .register _ | .getOrRegister _ | .get _
    | .remove _ | .list
  | .shutdown => false

def Turn.denied (t : Turn) : Bool := t.before.denies t.order

/-- A run without the orders that are denied in it. -/
def spared : Run → Guarded → Run
  | [], _ => []
  | (env, o) :: rest, g =>
    if g.denies o then spared rest (g.perform env o).1
    else (env, o) :: spared rest (g.perform env o).1

theorem checkUpdate_denied (env : Surroundings) {r : Registration}
    {name : String} {caller : Caller} (hname : r.name = name)
    (hdenied : g.access.allows caller ⟨.node, name⟩ .update = false) :
    r.checkUpdate (g.services env) caller
      = .error (.accessDenied ("node:" ++ name) "update") := by
  show g.access.check caller ⟨.node, r.name⟩ .update = _
  unfold AccessControl.check
  rw [hname, if_neg (by simp [hdenied])]
  rfl

/-- An order that is denied changes nothing, tells nothing, and fails for that
reason. -/
theorem perform_denied {o : Order} (env : Surroundings)
    (hdenied : g.denies o = true) :
    ∃ name k q a, o = .call name k (.ask q)
      ∧ g.perform env o = (g, .called a, [])
      ∧ a.fault? = some (.accessDenied ("node:" ++ name) "update") := by
  cases o with
  | grant | revokeAll | register | getOrRegister | get | remove | list
    | shutdown => cases hdenied
  | call name k d =>
    unfold denies at hdenied
    dsimp only at hdenied
    split at hdenied
    case h_2 => cases hdenied
    case h_1 found caller hmade hcaller =>
      obtain ⟨i, r⟩ := found
      cases d with
      | accept | moveOn => cases hcaller
      | ask q =>
        have hcheck := checkUpdate_denied env (Storage.name_of_made? hmade)
          (by simpa using hdenied)
        obtain ⟨hperform, hfault⟩ :=
          Registration.Request.denied hcaller hcheck
        have hidle : (Registration.Deed.ask q).perform (g.services env) r
            = ⟨r, q.answer (g.services env) r, []⟩ := by
          unfold Registration.Deed.perform
          dsimp only
          rw [hperform]
        refine ⟨name, k, q, q.answer (g.services env) r, rfl, ?_, hfault⟩
        rw [perform_call hmade, hidle,
          commit_self _ (Storage.made?_eq_some.1 hmade).2 rfl]

/-- Leaving out the orders that are denied in a run leaves all other turns as
they were: each of those orders meets the same registrations and the same
access list, so it gives back and tells what it did. The registrations, the
access list and all that was told are the same at the end, and every order
that was left out failed as denied. -/
theorem denied_unheard (run : Run) (g : Guarded) :
    turns (spared run g) g = (turns run g).filter (fun t => !t.denied)
      ∧ performAll (spared run g) g = performAll run g
      ∧ ∀ t ∈ turns run g, t.denied = true →
          ∃ name k q a, t.order = .call name k (.ask q) ∧ t.answer = .called a
            ∧ a.fault? = some (.accessDenied ("node:" ++ name) "update") := by
  induction run generalizing g with
  | nil => exact ⟨rfl, rfl, fun t ht => absurd ht List.not_mem_nil⟩
  | cons x rest ih =>
    obtain ⟨env, o⟩ := x
    obtain ⟨hturns, hall, hdenied⟩ := ih (g.perform env o).1
    cases hfirst : g.denies o with
    | true =>
      obtain ⟨name, k, q, a, horder, hperform, hfault⟩ :=
        perform_denied env hfirst
      have hspared : spared ((env, o) :: rest) g = spared rest g := by
        show (if g.denies o then _ else _) = _
        rw [if_pos hfirst, hperform]
      rw [hperform] at hturns hall hdenied
      rw [hspared]
      refine ⟨?_, ?_, List.forall_mem_cons.2 ⟨fun _ => ?_, ?_⟩⟩
      · show _ = (⟨env, o, g⟩ :: turns rest (g.perform env o).1).filter _
        rw [List.filter_cons_of_neg (by simpa [Turn.denied] using hfirst),
          hperform]
        exact hturns
      · rw [performAll_cons, hperform]
        exact hall
      · refine ⟨name, k, q, a, horder, ?_, hfault⟩
        unfold Turn.answer
        rw [hperform]
      · rw [hperform]
        exact hdenied
    | false =>
      have hspared : spared ((env, o) :: rest) g
          = (env, o) :: spared rest (g.perform env o).1 := by
        show (if g.denies o then _ else _) = _
        rw [if_neg (by simp [hfirst])]
      rw [hspared]
      refine ⟨?_, ?_, List.forall_mem_cons.2 ⟨fun h => ?_, hdenied⟩⟩
      · show ⟨env, o, g⟩ :: turns (spared rest _) _
          = (⟨env, o, g⟩ :: turns rest _).filter _
        rw [List.filter_cons_of_pos (by simpa [Turn.denied] using hfirst),
          hturns]
      · rw [performAll_cons, performAll_cons, hall]
      · cases hfirst.symm.trans h

end Fleetkeeper.Guarded
