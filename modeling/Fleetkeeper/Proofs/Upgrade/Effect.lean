/-
What the steps of an upgrade do to the stock of an engine, one lemma for
each step of `Site`. They are read off the law of the engine once; the
theorems about whole runs only quote them.

Two steps are worth a word. `create` either leaves exactly one new running
container or nothing at all: where the new container does not start, its
removal by force cannot fail, so the stock is what it was. `discard` leaves
the stock without the container in every case in which it succeeds, also
when the container had gone before.
-/
import Fleetkeeper.Proofs.Engine.Stock
import Fleetkeeper.Proofs.Upgrade.Steps

namespace Fleetkeeper.Site

variable {σ : Type} {e : Site σ} {view : σ → Stock}

/-- What stands beside the engine does nothing to its containers. -/
structure Aside (e : Site σ) (view : σ → Stock) : Prop where
  wait : ∀ secs s, view (e.attendant.wait secs s) = view s
  log : ∀ line s, view (e.attendant.log line s) = view s

-- ===================================================== loading, resolving

/-- The containers that a selection takes from a listing. -/
def chosen (e : Site σ) (select : Selection)
    (summaries : List ContainerSummary) :
    List Container :=
  (summaries.map (Container.ofSummary e.node)).filter select

/-- A container as loaded: the engine holds it, and if its name is known, it
is the name it has there. -/
def Held (k : Stock) (c : Container) : Prop :=
  ∃ d, k.find? c.id = some d ∧ ∀ n, c.name = some n → n = d.name

/-- A container as resolved: its id, with the name and the configuration that
the engine keeps. -/
def Known (c r : Container) (d : Stored) : Prop :=
  r.id = c.id ∧ r.name = some d.name ∧ r.config = some d.spec.settled

/-- Loading takes the chosen containers of one listing. -/
theorem load_ok {select : Selection} {cs : List Container} {s s' : σ}
    (h : e.load select s = (.ok cs, s')) :
    ∃ summaries s₁ line, e.api.list true s = (.ok summaries, s₁)
      ∧ cs = e.chosen select summaries ∧ s' = e.attendant.log line s₁ := by
  unfold load at h
  split at h
  case h_1 => cases h
  case h_2 summaries s₁ hlist =>
    cases h
    exact ⟨summaries, s₁, _, hlist, rfl, rfl⟩

/-- Loading fails where the listing does. -/
theorem load_error {select : Selection} {f : Fault} {s s' : σ}
    (h : e.load select s = (.error f, s')) :
    e.api.list true s = (.error f, s') := by
  unfold load at h
  split at h
  case h_1 hlist =>
    cases h
    exact hlist
  case h_2 => cases h

/-- A chosen container is an entry of the listing that the selection takes. -/
theorem mem_chosen {select : Selection} {summaries : List ContainerSummary}
    {c : Container} :
    c ∈ e.chosen select summaries
      ↔ (∃ m ∈ summaries, Container.ofSummary e.node m = c)
        ∧ select c = true := by
  unfold chosen
  rw [List.mem_filter, List.mem_map]

/-- The ids of the chosen containers are listed, in the order of the
listing. -/
theorem ids_chosen_sublist (select : Selection)
    (summaries : List ContainerSummary) :
    ((e.chosen select summaries).map (·.id)).Sublist
      (summaries.map (·.id)) := by
  have hids : (summaries.map (Container.ofSummary e.node)).map (·.id)
      = summaries.map (·.id) := by
    rw [List.map_map]
    rfl
  rw [← hids]
  exact List.filter_sublist.map _

/-- The containers chosen from a listing are held by the engine, and no two
of them are the same. -/
theorem chosen_held {k : Stock} {summaries : List ContainerSummary}
    (h : k.Lists summaries) (select : Selection) :
    ((e.chosen select summaries).map (·.id)).Nodup
      ∧ ∀ c ∈ e.chosen select summaries, Held k c := by
  constructor
  · exact (ids_chosen_sublist select summaries).nodup h.once
  · intro c hc
    obtain ⟨⟨m, hm, rfl⟩, -⟩ := mem_chosen.1 hc
    have hsome := (h.complete m.id).1 (List.mem_map_of_mem hm)
    obtain ⟨d, hd⟩ := Option.isSome_iff_exists.1 hsome
    refine ⟨d, hd, ?_⟩
    intro n hn
    -- the first name is listed behind a slash, and comes out from behind it
    obtain ⟨raw, hraw, hdrop⟩ := Option.map_eq_some_iff.1 hn
    rw [← hdrop, h.names m hm d hd raw hraw]
    exact (k.proper hd).dropSlashes_slash

/-- Resolution changes nothing, and yields the container as the engine knows
it. -/
theorem resolve_ok (hserve : e.api.Serves view) {c r : Container} {s s' : σ}
    {d : Stored} (hd : (view s).find? c.id = some d)
    (hname : ∀ n, c.name = some n → n = d.name)
    (h : e.resolve c s = (.ok r, s')) :
    view s' = view s ∧ Known c r d := by
  unfold resolve at h
  split at h
  case h_1 => cases h
  case h_2 i s₁ hinspect =>
    cases h
    obtain ⟨hview, d', hd', htold, hspec⟩ := hserve.inspect_ok hinspect
    have hdd : d' = d := Option.some.inj (hd'.symm.trans hd)
    subst hdd
    refine ⟨hview, ?_⟩
    unfold Known resolved Container.withConfig
    have hshort : i.shortName = d'.name := by
      unfold Inspection.shortName
      rw [htold]
      exact ((view s).proper hd).dropSlashes_slash
    have hslash : i.name ≠ "" := by
      rw [htold]
      intro hempty
      have hlen := congrArg (fun t : String => t.toList.length) hempty
      simp [String.toList_append] at hlen
    cases hc : c.name with
    | none => simp [hslash, hshort, hspec]
    | some n =>
      have hn := hname n hc
      subst hn
      simp [hspec]

/-- A resolution that fails changes nothing. -/
theorem resolve_error (hserve : e.api.Serves view) {c : Container} {f : Fault}
    {s s' : σ} (h : e.resolve c s = (.error f, s')) : view s' = view s := by
  unfold resolve at h
  split at h
  case h_1 hinspect =>
    cases h
    exact hserve.inspect_error hinspect
  case h_2 => cases h

-- ====================================================== creating, checking

/-- A container that was created runs under its free id, with the
configuration asked for and the name asked for if that is a proper one. -/
theorem create_ok (hserve : e.api.Serves view) {c r : Container} {s s' : σ}
    (h : e.create c s = (.ok r, s')) :
    ∃ spec n, c.config = some spec ∧ r = { c with id := r.id }
      ∧ (view s).find? r.id = none
      ∧ (∀ m, c.name = some m → ProperName m → n = m)
      ∧ (view s').containers
        = (view s).containers.insert r.id ⟨n, spec, true⟩ := by
  cases creation_of_create h with
  | @created spec id s₁ s' hspec hcreate hstart =>
    obtain ⟨hfree, n, -, hname, hmade⟩ := hserve.create_ok hcreate
    obtain ⟨d, hd, hrun⟩ := hserve.start_ok hstart
    refine ⟨spec, n, hspec, rfl, hfree, hname, ?_⟩
    unfold Stock.find? at hd
    rw [hmade, Table.find?_insert, if_pos rfl] at hd
    cases hd
    rw [hrun, hmade, Table.insert_insert]

/-- A creation that fails leaves the stock as it was. -/
theorem create_error (hserve : e.api.Serves view) {c : Container} {f : Fault}
    {s s' : σ} (h : e.create c s = (.error f, s')) : view s' = view s := by
  cases creation_of_create h with
  | unconfigured => rfl
  | refused hcreate => exact hserve.create_error hcreate
  | cleaned hcreate hstart hremove =>
    obtain ⟨hfree, n, -, -, hmade⟩ := hserve.create_ok hcreate
    obtain ⟨-, -, herased⟩ := hserve.remove_ok hremove
    refine Stock.eq_of_containers_eq ?_
    rw [herased, hserve.start_error hstart, hmade, Table.erase_insert hfree]
  | uncleaned hcreate hstart hremove =>
    -- what was just created is there, so force removes it
    obtain ⟨hfree, n, -, -, hmade⟩ := hserve.create_ok hcreate
    have hgone := hserve.force_error hremove
    unfold Stock.find? at hgone
    rw [hserve.start_error hstart, hmade, Table.find?_insert, if_pos rfl]
      at hgone
    cases hgone

/-- Waiting for health changes nothing. -/
theorem check_view (hserve : e.api.Serves view) (haside : e.Aside view)
    {c : Container} {s s' : σ} {a : Except Fault Bool}
    (h : e.check c s = (a, s')) : view s' = view s := by
  refine checkFrom_of_steps (R := fun s s' => view s' = view s) ?_ ?_
    haside.log haside.wait h
  · intro s₁ s₂ s₃ h₁ h₂
    rw [h₂, h₁]
  · intro s₁ b s₂ hinspect
    cases b with
    | error => exact hserve.inspect_error hinspect
    | ok => exact (hserve.inspect_ok hinspect).1

-- ============================================== discarding and restoring

/-- A container that was removed by force is not there any more, and nothing
else has changed. -/
theorem expel_ok (hserve : e.api.Serves view) {c : Container} {s s' : σ}
    (h : e.expel c s = (.ok (), s')) :
    (view s').containers = (view s).containers.erase c.id := by
  unfold expel at h
  split at h
  case h_1 hremove =>
    cases h
    obtain ⟨-, -, herased⟩ := hserve.remove_ok hremove
    exact herased
  case h_2 f s₁ hremove =>
    have hkept := hserve.remove_error hremove
    have hnone := hserve.force_error hremove
    split at h
    case isTrue =>
      cases h
      rw [hkept, Table.erase_eq_self hnone]
    case isFalse => cases h

/-- A container that was discarded is not there any more, and nothing else
has changed. -/
theorem discard_ok (hserve : e.api.Serves view) {c : Container} {s s' : σ}
    (h : e.discard c s = (.ok (), s')) :
    (view s').containers = (view s).containers.erase c.id := by
  unfold discard at h
  split at h
  case h_1 s₁ hstop =>
    obtain ⟨d, -, hstopped⟩ := hserve.stop_ok hstop
    rw [expel_ok hserve h, hstopped, Table.erase_insert_self]
  case h_2 f s₁ hstop =>
    split at h
    case isTrue => rw [expel_ok hserve h, hserve.stop_error hstop]
    case isFalse => cases h

/-- A container that was created again runs under a free id, with its
configuration and, if that is a proper one, its name. -/
theorem recreate_ok (hserve : e.api.Serves view) (haside : e.Aside view)
    {former : Container} {s s' : σ}
    (h : e.recreate former s = (.ok (), s')) :
    ∃ spec id n, former.config = some spec ∧ (view s).find? id = none
      ∧ (∀ m, former.name = some m → ProperName m → n = m)
      ∧ (view s').containers
        = (view s).containers.insert id ⟨n, spec, true⟩ := by
  unfold recreate at h
  split at h
  case h_1 => cases h
  case h_2 spec hspec =>
    split at h
    case h_1 => cases h
    case h_2 id s₁ hcreate =>
      split at h
      case h_1 => cases h
      case h_2 s₂ hstart =>
        cases h
        obtain ⟨hfree, n, -, hname, hmade⟩ := hserve.create_ok hcreate
        obtain ⟨d, hd, hrun⟩ := hserve.start_ok hstart
        refine ⟨spec, id, n, hspec, hfree, hname, ?_⟩
        unfold Stock.find? at hd
        rw [hmade, Table.find?_insert, if_pos rfl] at hd
        cases hd
        rw [haside.log, hrun, hmade, Table.insert_insert]

/-- What is left when the replacement of a container, if it has one, has been
discarded. -/
def leftOf (t : Table Stored) : Option Container → Table Stored
  | none => t
  | some r => t.erase r.id

/-- A restoration discards the replacement and then revives the former
container. -/
theorem restore_ok (hserve : e.api.Serves view) {former : Container}
    {replacement : Option Container} {removed : Bool} {s s' : σ}
    (h : e.restore former replacement removed s = (.ok (), s')) :
    ∃ s₁, (view s₁).containers = leftOf (view s).containers replacement
      ∧ e.revive former removed s₁ = (.ok (), s') := by
  unfold restore at h
  split at h
  case h_1 => exact ⟨s, rfl, h⟩
  case h_2 r =>
    split at h
    case h_1 => cases h
    case h_2 s₁ hdiscard => exact ⟨s₁, discard_ok hserve hdiscard, h⟩

/-- A container that was still there is started. -/
theorem restore_kept (hserve : e.api.Serves view) {former : Container}
    {replacement : Option Container} {s s' : σ}
    (h : e.restore former replacement false s = (.ok (), s')) :
    ∃ d, (leftOf (view s).containers replacement).find? former.id = some d
      ∧ (view s').containers
        = (leftOf (view s).containers replacement).insert former.id
            { d with running := true } := by
  obtain ⟨s₁, hleft, hrevive⟩ := restore_ok hserve h
  obtain ⟨d, hd, hrun⟩ := hserve.start_ok hrevive
  unfold Stock.find? at hd
  rw [hleft] at hd hrun
  exact ⟨d, hd, hrun⟩

/-- A container that had been removed is created again and started. -/
theorem restore_removed (hserve : e.api.Serves view) (haside : e.Aside view)
    {former : Container} {replacement : Option Container} {s s' : σ}
    (h : e.restore former replacement true s = (.ok (), s')) :
    ∃ spec id n, former.config = some spec
      ∧ (leftOf (view s).containers replacement).find? id = none
      ∧ (∀ m, former.name = some m → ProperName m → n = m)
      ∧ (view s').containers
        = (leftOf (view s).containers replacement).insert id
          ⟨n, spec, true⟩ := by
  obtain ⟨s₁, hleft, hrevive⟩ := restore_ok hserve h
  obtain ⟨spec, id, n, hspec, hfree, hname, hmade⟩ :=
    recreate_ok hserve haside hrevive
  unfold Stock.find? at hfree
  rw [hleft] at hfree hmade
  exact ⟨spec, id, n, hspec, hfree, hname, hmade⟩

end Fleetkeeper.Site
