/-
Grants on nodes: an exact grant names one node and nothing else, and the
pattern of all nodes names every node and nothing else.

# Texts and patterns

An exact grant is the text of its object, the kind and the id joined by a
colon, and a name may hold colons of its own. Two things could go wrong. The
text of one object could be the text of another; but the words of the kinds
differ in their first letters, so a text has one reading (`toText_inj`). And
the text of a node could be taken for a pattern, because patterns of kinds are
looked for before texts are compared; but a pattern has a star in it, and a
proper name has none (`not_endsAsPattern_nodeText`).

# Rights

A principal who holds nothing but exact grants of updates on some nodes may
update those nodes, and nothing else (`allows_update_iff`). Reports and edits
look at nothing but that: one that is granted does what it would do without
any guard, one that is denied does nothing.
-/
import Mathlib.Data.Set.Basic
import Fleetkeeper.Proofs.Access.Grants
import Fleetkeeper.Proofs.Node.Orders

namespace Fleetkeeper

-- =================================================================== texts

/-- Every text stands for one object. -/
theorem ObjectId.toText_inj {o o' : ObjectId} :
    o.toText = o'.toText ↔ o = o' := by
  obtain ⟨kind, id⟩ := o
  obtain ⟨kind', id'⟩ := o'
  rw [← String.toList_inj]
  cases kind <;> cases kind' <;>
    simp [toText, ObjectKind.toText, String.toList_inj]

/-- What an exact grant on a node says. -/
def nodeText (name : String) : String := (ObjectId.mk .node name).toText

theorem star_notMem_of_checkName {name : String} (h : checkName name = true) :
    '*' ∉ name.toList := by
  unfold checkName at h
  rw [Bool.and_eq_true, List.all_eq_true] at h
  intro hstar
  have hproper := h.2 '*' hstar
  revert hproper
  decide

/-- The text of a node with a proper name does not end as patterns do. -/
theorem not_endsAsPattern_nodeText {name : String}
    (h : checkName name = true) :
    ¬ [':', '*'] <:+ (nodeText name).toList := by
  intro hends
  have hstar : '*' ∈ (nodeText name).toList := hends.subset (by simp)
  unfold nodeText ObjectId.toText ObjectKind.toText at hstar
  simp only [String.toList_append, List.mem_append] at hstar
  rcases hstar with (hkind | hcolon) | hname
  · revert hkind
    decide
  · revert hcolon
    decide
  · exact star_notMem_of_checkName h hname

/-- An exact grant on a node names that node alone. -/
theorem patternMatches_nodeText {name : String} (h : checkName name = true)
    (o : ObjectId) :
    patternMatches (nodeText name) o = true
      ↔ o.kind = .node ∧ o.id = name := by
  have hends := not_endsAsPattern_nodeText h
  have hall : nodeText name ≠ "*" := by
    rw [Ne, ← String.toList_inj]
    simp [nodeText, ObjectId.toText, ObjectKind.toText]
  have hkind : nodeText name ≠ o.kind.toText ++ ":*" := by
    intro hpattern
    exact hends ⟨o.kind.toText.toList, by simp [hpattern]⟩
  have htext : nodeText name = o.toText ↔ o.kind = .node ∧ o.id = name := by
    unfold nodeText
    rw [ObjectId.toText_inj, eq_comm]
    obtain ⟨kind, id⟩ := o
    simp
  rw [patternMatches_iff]
  unfold Names
  simp only [hall, hkind, hends, htext, false_or, not_false_iff, and_true]

/-- The pattern of all nodes names the nodes. -/
theorem patternMatches_allNodes (o : ObjectId) :
    patternMatches "node:*" o = true ↔ o.kind = .node := by
  have hends : [':', '*'] <:+ "node:*".toList := by decide
  have hkind : "node:*" = o.kind.toText ++ ":*" ↔ o.kind = .node := by
    have hsplit : "node:*" = "node" ++ ":*" := rfl
    rw [hsplit, String.append_left_inj]
    cases o.kind <;> decide
  have hall : ¬ "node:*" = "*" := by decide
  rw [patternMatches_iff]
  unfold Names
  simp only [hall, hends, hkind, false_or, not_true_eq_false,
    and_false, or_false]

-- ================================================================== rights

namespace AccessControl

/-- What a principal holds are exact grants on nodes of `S`, and for each of
these nodes one that lists updates. -/
structure UpdatesOnly (ac : AccessControl) (p : String) (S : Set String) :
    Prop where
  listed : ac ≠ .allowAll
  exact : ∀ g ∈ ac.held p, ∃ name ∈ S, g.pattern = nodeText name
  granted : ∀ name ∈ S, ∃ g ∈ ac.held p, g.pattern = nodeText name
    ∧ .update ∈ g.actions

/-- Such a principal may update the nodes of `S` and nothing else. -/
theorem allows_update_iff {ac : AccessControl} {p : String} {S : Set String}
    (hproper : ∀ name ∈ S, checkName name = true) (h : ac.UpdatesOnly p S)
    (o : ObjectId) :
    ac.allows (.user p) o .update = true ↔ o.kind = .node ∧ o.id ∈ S := by
  rw [allows_eq_held h.listed, List.any_eq_true]
  unfold Grant.covers
  constructor
  · rintro ⟨g, hg, hcovers⟩
    obtain ⟨name, hname, hpattern⟩ := h.exact g hg
    rw [Bool.and_eq_true, hpattern,
      patternMatches_nodeText (hproper name hname)] at hcovers
    obtain ⟨⟨hkind, rfl⟩, -⟩ := hcovers
    exact ⟨hkind, hname⟩
  · rintro ⟨hkind, hid⟩
    obtain ⟨g, hg, hpattern, hupdate⟩ := h.granted o.id hid
    refine ⟨g, hg, ?_⟩
    rw [Bool.and_eq_true, hpattern, patternMatches_nodeText (hproper o.id hid),
      List.contains_iff_mem]
    exact ⟨⟨hkind, rfl⟩, hupdate⟩

end AccessControl

namespace Registration

/-- A request by somebody who may update the node is carried out as it would
be without a guard. -/
theorem Request.perform_granted {env : Services} {r : Registration}
    {q : Request} {caller : Caller} (hq : q.caller? = some caller)
    (hgranted : r.checkUpdate env caller = .ok ()) :
    q.perform env r = q.perform { env with access := .allowAll } r
      ∧ q.answer env r = q.answer { env with access := .allowAll } r := by
  have hopen : r.checkUpdate { env with access := .allowAll } caller
    = .ok () := rfl
  cases q with
  | updateHealth _ report =>
    cases hq
    have hsame : r.updateHealth env caller report
        = r.updateHealth { env with access := .allowAll } caller report := by
      unfold Registration.updateHealth
      rw [hgranted, hopen]
    exact ⟨congrArg Step.discard hsame,
      congrArg (fun s : Step _ => Answer.merged s.result) hsame⟩
  | mutate _ edit =>
    cases hq
    have hsame : r.mutate env caller edit
        = r.mutate { env with access := .allowAll } caller edit := by
      unfold Registration.mutate
      rw [hgranted, hopen]
      rfl
    exact ⟨congrArg Step.discard hsame,
      congrArg (fun s : Step _ => Answer.done s.result) hsame⟩
  | breakOff _ edit =>
    cases hq
    have hsame : r.breakOff env caller edit
        = r.breakOff { env with access := .allowAll } caller edit := by
      unfold Registration.breakOff
      rw [hgranted, hopen]
    exact ⟨congrArg Step.discard hsame,
      congrArg (fun s : Step _ => Answer.done s.result) hsame⟩
  | heartbeat | snapshot | setCluster | bind | teardown => cases hq

/-- The check looks at nothing but the access list. -/
theorem checkUpdate_ok_iff {env : Services} {r : Registration}
    {caller : Caller} :
    r.checkUpdate env caller = .ok ()
      ↔ env.access.allows caller r.oid .update = true := by
  unfold checkUpdate AccessControl.check
  by_cases hallowed : env.access.allows caller r.oid .update = true
  · simp [hallowed]
  · simp [hallowed]

theorem checkUpdate_eq_error {env : Services} {r : Registration}
    {caller : Caller} (h : ¬ env.access.allows caller r.oid .update = true) :
    r.checkUpdate env caller
      = .error (.accessDenied (nodeText r.name) "update") := by
  unfold checkUpdate AccessControl.check
  rw [if_neg h]
  rfl

end Registration

namespace Storage

/-- An exact grant on a node of a proper name names that node and no other
object, and the pattern of all nodes names every node and no other object.

So let a user hold exact grants of updates on some of the registered nodes,
and nothing else. A report or an edit of the user then passes the check on a
registered node just where the node is one of these: there it does what it
would do if everybody were allowed everything, and on every other node it
changes nothing, tells nothing, and fails as denied on that node. -/
theorem node_grants_exact :
    (∀ name, checkName name = true →
          ∀ o, patternMatches (nodeText name) o = true
        ↔ o.kind = .node ∧ o.id = name)
      ∧ (∀ o, patternMatches "node:*" o = true ↔ o.kind = .node)
      ∧ ∀ (run : Run) (env : Surroundings) (p : String) (S : Set String),
          let st := (performAll run {}).1
          let services := st.services env st.clusterOf
          (∀ name ∈ S, (st.slot? name).isSome) → env.access.UpdatesOnly p S →
          ∀ name r, st.find? name = some r →
          ∀ q : Registration.Request, q.caller? = some (.user p) →
            (r.checkUpdate services (.user p) = .ok () ↔ name ∈ S)
              ∧ (name ∈ S →
                  q.perform services r
                    = q.perform { services with access := .allowAll } r
                    ∧ q.answer services r
                      = q.answer { services with access := .allowAll } r)
              ∧ (name ∉ S → q.perform services r = ⟨r, (), []⟩
                  ∧ (q.answer services r).fault?
                    = some (.accessDenied (nodeText name) "update")) := by
  refine ⟨fun name h o => patternMatches_nodeText h o, patternMatches_allNodes,
    ?_⟩
  intro run env p S st services hregistered honly name r hfind q hq
  have horderly := orderly_performAll run
  have hproper : ∀ name ∈ S, checkName name = true := by
    intro name hname
    obtain ⟨i, hslot⟩ := Option.isSome_iff_exists.1 (hregistered name hname)
    exact (horderly.named name i hslot).1
  have hname : r.name = name := by
    obtain ⟨i, hslot, hat⟩ := Option.bind_eq_some_iff.1 hfind
    obtain ⟨-, r', hat', hname⟩ := horderly.named name i hslot
    cases hat.symm.trans hat'
    exact hname
  have hallowed : services.access.allows (.user p) r.oid .update = true
      ↔ name ∈ S := by
    have hrights := AccessControl.allows_update_iff hproper honly r.oid
    rw [← hname]
    exact hrights.trans (and_iff_right rfl)
  refine ⟨Registration.checkUpdate_ok_iff.trans hallowed, fun hmem => ?_,
    fun hmem => ?_⟩
  · have hgranted := Registration.checkUpdate_ok_iff.2 (hallowed.2 hmem)
    exact Registration.Request.perform_granted hq hgranted
  · have hdenied := Registration.checkUpdate_eq_error (mt hallowed.1 hmem)
    rw [hname] at hdenied
    exact Registration.Request.denied hq hdenied

/-- Two nodes, the name of one of them starting with that of the other and a
colon. -/
def colonNames : Run :=
  [(beginning, .register (.bare "n1")), (beginning, .register (.bare "n1:2"))]

/-- A user who may update the first of them. -/
def firstNameOnly : AccessControl :=
  AccessControl.closed.grant "alice" ⟨"node:n1", [.update]⟩

theorem firstNameOnly_updatesOnly :
    firstNameOnly.UpdatesOnly "alice" {"n1"} where
  listed := nofun
  exact := by
    intro g hg
    cases List.mem_singleton.1 hg
    exact ⟨"n1", rfl, rfl⟩
  granted := by
    rintro name rfl
    exact ⟨_, List.mem_singleton_self _, rfl, List.mem_singleton_self _⟩

/-- The user may update the first node and not the second. -/
theorem node_grants_of_colonNames :
    let st := (performAll colonNames {}).1
    let services :=
      st.services { beginning with access := firstNameOnly } st.clusterOf
    firstNameOnly.UpdatesOnly "alice" {"n1"}
      ∧ ∃ r r', st.find? "n1" = some r ∧ st.find? "n1:2" = some r'
        ∧ r.checkUpdate services (.user "alice") = .ok ()
        ∧ r'.checkUpdate services (.user "alice") ≠ .ok () := by
  intro st services
  obtain ⟨-, -, hrights⟩ := node_grants_exact
  have hregistered :
      ∀ name ∈ ({"n1"} : Set String), (st.slot? name).isSome := by
    rintro name rfl
    rfl
  have hasked :=
    hrights colonNames { beginning with access := firstNameOnly }
      "alice" {"n1"} hregistered firstNameOnly_updatesOnly
  have hfirst :=
    (hasked "n1" (.ofInfo (.bare "n1")) rfl (.updateHealth (.user "alice") {})
      rfl).1
  have hsecond :=
    (hasked "n1:2" (.ofInfo (.bare "n1:2")) rfl
      (.updateHealth (.user "alice") {}) rfl).1
  refine ⟨firstNameOnly_updatesOnly, _, _, rfl, rfl, hfirst.2 rfl, fun h => ?_⟩
  have hsame : "n1:2" = "n1" := hsecond.1 h
  revert hsame
  decide

end Storage

end Fleetkeeper
