/-
One configuration in two forms. A create request carries it as one object; an
inspection shows the part of the container and the part of the host side by
side, and is read by readers of its own. Whoever replaces a container or puts
one back relies on the two forms being the same configuration.

Both forms are read member by member, so the proofs say once what stands under
each name (`Inspection.Shows`), and the laws of the readers do the rest. An
inspection may show more than that, in any order.

Labels and port bindings are tables, and whoever writes a table writes its
entries in any order. So nothing here is about the one object that `toJson`
gives: it is about that object in every order (`Reordered`), in the create
request and in both parts of an inspection.

What comes back is the configuration settled: a host name, user or working
directory that is empty is unset. It was that before the second time, so it
stays (`recreated_iff`).
-/
import Mathlib.Logic.Relation
import Fleetkeeper.Proofs.Engine.Stock
import Fleetkeeper.Proofs.Json.Codec
import Fleetkeeper.Proofs.Json.Order

namespace Fleetkeeper

open Json (Denotes Lossless Reordered Steady under)
open Json (steady_text steady_bool steady_i64 steady_list steady_table
  steady_record)
open Json.Record (read_map read_seq read_required read_orElse read_omittable
  read_optional)
open Json.Record (steady_map steady_seq steady_required steady_orElse
  steady_omittable steady_optional)

-- ============================================================ host settings

@[simp] theorem under_memberIfSet {α : Type} (name key : String) (f : α → Json)
    (o : Option α) :
    under name (memberIfSet key f o)
      = if key = name then (o.map f).toList else [] := by
  cases o <;> simp [memberIfSet]

theorem PortBinding.denotes (p : PortBinding) : Denotes ofJson p.toJson p :=
  Json.denotes_obj (read_seq
    (read_map mk (read_orElse (by simp) (Json.denotes_text p.hostIp)))
    (read_orElse (by simp) (Json.denotes_text p.hostPort)))

/-- The count is a number of 64 bits. -/
def RestartPolicy.Fits (p : RestartPolicy) : Prop :=
  -9223372036854775808 ≤ p.maximumRetryCount
    ∧ p.maximumRetryCount ≤ 9223372036854775807

theorem RestartPolicy.denotes {p : RestartPolicy} (h : p.Fits) :
    Denotes ofJson p.toJson p :=
  Json.denotes_obj (read_seq
    (read_map mk (read_orElse (by simp) (Json.denotes_text p.name)))
    (read_orElse (by simp) (Json.denotes_i64 h.1 h.2)))

namespace HostConfig

/-- All counts are numbers of 64 bits. -/
def Fits (h : HostConfig) : Prop := ∀ p, h.restartPolicy = some p → p.Fits

theorem denotes {h : HostConfig} (hfits : h.Fits) :
    Denotes ofJson h.toJson h := by
  refine Json.denotes_obj
    (read_seq (read_seq (read_seq (read_seq (read_map mk ?_) ?_) ?_) ?_) ?_)
  · exact read_omittable (by simp) fun _ _ => Json.denotes_text _
  · exact read_omittable (by simp) fun _ _ => Json.denotes_texts _
  · exact read_orElse (by simp) (Json.denotes_bool _)
  · refine read_omittable (f := .ofTable (.ofList PortBinding.toJson))
      (by simp) fun t _ => ?_
    exact Json.denotes_table fun e _ => Json.denotes_list fun p _ => p.denotes
  · exact read_omittable (by simp) fun p hp =>
      RestartPolicy.denotes (hfits p hp)

end HostConfig

-- ============================================================ create requests

namespace ContainerSpec

/-- All counts are numbers of 64 bits. -/
def Fits (s : ContainerSpec) : Prop := ∀ h, s.hostConfig = some h → h.Fits

theorem denotes {s : ContainerSpec} (hfits : s.Fits) :
    Denotes ofJson s.toJson s := by
  refine Json.denotes_obj
    (read_seq (read_seq (read_seq (read_seq (read_seq (read_seq (read_seq
      (read_seq (read_map mk ?_) ?_) ?_) ?_) ?_) ?_) ?_) ?_) ?_)
  · exact read_required (by simp [ownMembers]) (Json.denotes_text _)
  · exact read_omittable (by simp [ownMembers]) fun _ _ => Json.denotes_text _
  · exact read_omittable (by simp [ownMembers]) fun _ _ => Json.denotes_text _
  · exact read_omittable (by simp [ownMembers]) fun _ _ => Json.denotes_texts _
  · exact read_omittable (by simp [ownMembers]) fun _ _ => Json.denotes_texts _
  · exact read_omittable (by simp [ownMembers]) fun _ _ => Json.denotes_texts _
  · exact read_omittable (by simp [ownMembers]) fun _ _ => Json.denotes_text _
  · exact read_orElse (by simp [ownMembers]) (Json.denotes_textTable _)
  · exact read_omittable (by simp [ownMembers]) fun h hh =>
      HostConfig.denotes (hfits h hh)

end ContainerSpec

-- ==================================================================== texts

/-- A member that is left out is lossless, and one that is set if its value
is. -/
theorem lossless_memberIfSet {α : Type} {key : String} {f : α → Json}
    {o : Option α} (h : ∀ a, o = some a → Lossless (f a)) :
    ∀ m ∈ memberIfSet key f o, Lossless m.2 := by
  cases o with
  | none => exact nofun
  | some a => simpa [memberIfSet] using h a rfl

theorem PortBinding.lossless (p : PortBinding) : Lossless p.toJson := by
  refine .obj ?_
  simp [Lossless.str]

theorem RestartPolicy.lossless {p : RestartPolicy} (h : p.Fits) :
    Lossless p.toJson := by
  refine .obj ?_
  have hcount : Lossless (.int p.maximumRetryCount) :=
    .int h.1 (Int.le_trans h.2 (by decide))
  simp [Lossless.str, hcount]

theorem HostConfig.lossless {h : HostConfig} (hfits : h.Fits) :
    Lossless h.toJson := by
  refine .obj ?_
  simp only [List.forall_mem_append]
  refine ⟨⟨⟨⟨?_, ?_⟩, ?_⟩, ?_⟩, ?_⟩
  · exact lossless_memberIfSet fun _ _ => .str _
  · exact lossless_memberIfSet fun _ _ => Json.lossless_texts _
  · simp [Lossless.bool]
  · exact lossless_memberIfSet fun t _ =>
      Json.lossless_ofTable fun e _ => Json.lossless_ofList fun p _ =>
        p.lossless
  · exact lossless_memberIfSet fun p hp => RestartPolicy.lossless (hfits p hp)

/-- The object of a create request loses nothing as text. -/
theorem ContainerSpec.lossless {s : ContainerSpec} (hfits : s.Fits) :
    Lossless s.toJson := by
  refine .obj ?_
  simp only [ownMembers, List.forall_mem_append, List.forall_mem_cons]
  refine ⟨⟨?_, ⟨⟨⟨⟨⟨⟨?_, ?_⟩, ?_⟩, ?_⟩, ?_⟩, ?_⟩, ?_⟩⟩, ?_⟩
  · exact .str _
  · exact lossless_memberIfSet fun _ _ => .str _
  · exact lossless_memberIfSet fun _ _ => .str _
  · exact lossless_memberIfSet fun _ _ => Json.lossless_texts _
  · exact lossless_memberIfSet fun _ _ => Json.lossless_texts _
  · exact lossless_memberIfSet fun _ _ => Json.lossless_texts _
  · exact lossless_memberIfSet fun _ _ => .str _
  · exact ⟨Json.lossless_ofTable fun e _ => .str _, nofun⟩
  · exact lossless_memberIfSet fun h hh => HostConfig.lossless (hfits h hh)

-- =================================================================== orders

theorem RestartPolicy.steady : Steady ofJson :=
  steady_record (steady_seq (steady_map (steady_orElse steady_text) mk)
    (steady_orElse steady_i64))

theorem HostConfig.steady : Steady ofJson :=
  steady_record (steady_seq (steady_seq (steady_seq (steady_seq
    (steady_map (steady_omittable steady_text) mk)
    (steady_omittable (steady_list _))) (steady_orElse steady_bool))
    (steady_omittable (steady_table (steady_list _))))
    (steady_omittable RestartPolicy.steady))

theorem ContainerSpec.steady : Steady ofJson :=
  steady_record (steady_seq (steady_seq (steady_seq (steady_seq (steady_seq
    (steady_seq (steady_seq (steady_seq
    (steady_map (steady_required steady_text) mk)
    (steady_omittable steady_text)) (steady_omittable steady_text))
    (steady_omittable (steady_list _))) (steady_omittable (steady_list _)))
    (steady_omittable (steady_list _))) (steady_omittable steady_text))
    (steady_orElse (steady_table steady_text)))
    (steady_omittable HostConfig.steady))

theorem InspectConfig.steady : Steady ofJson :=
  steady_record (steady_seq (steady_seq (steady_seq (steady_seq (steady_seq
    (steady_seq (steady_seq
    (steady_map (steady_orElse steady_text) mk)
    (steady_optional steady_text)) (steady_optional steady_text))
    (steady_optional (steady_list _))) (steady_optional (steady_list _)))
    (steady_optional (steady_list _))) (steady_optional steady_text))
    (steady_omittable (steady_table steady_text)))

-- ================================================================ inspections

/-- The configuration part of an inspection, where it is the object of a create
request. -/
def InspectConfig.ofSpec (s : ContainerSpec) : InspectConfig :=
  { image := s.image, hostname := s.hostname, user := s.user, cmd := s.cmd,
    entrypoint := s.entrypoint, env := s.env, workingDir := s.workingDir,
    labels := some s.labels }

open ContainerSpec (ownMembers) in
/-- The reader of inspections takes the object of a create request as it is;
what it says about the host is skipped there. -/
theorem InspectConfig.denotes (s : ContainerSpec) :
    Denotes ofJson s.toJson (.ofSpec s) := by
  refine Json.denotes_obj
    (read_seq (read_seq (read_seq (read_seq (read_seq (read_seq
      (read_seq (read_map mk ?_) ?_) ?_) ?_) ?_) ?_) ?_) ?_)
  · exact read_orElse (by simp [ownMembers]) (Json.denotes_text _)
  · exact read_optional rfl (by simp [ownMembers]) fun _ _ =>
      Json.denotes_text _
  · exact read_optional rfl (by simp [ownMembers]) fun _ _ =>
      Json.denotes_text _
  · exact read_optional rfl (by simp [ownMembers]) fun _ _ =>
      Json.denotes_texts _
  · exact read_optional rfl (by simp [ownMembers]) fun _ _ =>
      Json.denotes_texts _
  · exact read_optional rfl (by simp [ownMembers]) fun _ _ =>
      Json.denotes_texts _
  · exact read_optional rfl (by simp [ownMembers]) fun _ _ =>
      Json.denotes_text _
  · exact read_omittable (f := .ofTable .str) (by simp [ownMembers]) fun _ _ =>
      Json.denotes_textTable _

namespace Inspection

/-- An inspection shows a container of this id and name with this
configuration: the object of the create request, beside it that of the host,
which is left out when it is unset, either of them in any order. What it shows
of the state is up to the engine, as long as it is a state, and so is all
else. -/
structure Shows (id name : String) (s : ContainerSpec)
    (members : List (String × Json)) : Prop where
  id : under "Id" members = [.str id]
  name : under "Name" members = [.str name]
  config : ∃ j, under "Config" members = [j] ∧ Reordered s.toJson j
  hostConfig : List.Forall₂ Reordered
    (s.hostConfig.map HostConfig.toJson).toList (under "HostConfig" members)
  state : under "State" members = []
    ∨ ∃ j state, under "State" members = [j]
      ∧ InspectState.ofJson j = .ok state

/-- The part of the host is read back from any order, and as unset where it is
left out. -/
theorem read_hostConfig {s : ContainerSpec} {fs : Json.Fields} (hfits : s.Fits)
    (h : List.Forall₂ Reordered (s.hostConfig.map HostConfig.toJson).toList
      (under "HostConfig" fs.members)) :
    (Json.omittable "HostConfig" HostConfig.ofJson).read fs
      = .ok s.hostConfig := by
  cases hhost : s.hostConfig with
  | none =>
    rw [hhost] at h
    exact Json.Record.read_field_absent (List.forall₂_nil_left_iff.1 h)
  | some c =>
    rw [hhost] at h
    obtain ⟨j, rest, hreordered, hrest, hunder⟩ :=
      List.forall₂_cons_left_iff.1 h
    rw [List.forall₂_nil_left_iff.1 hrest] at hunder
    refine read_omittable (f := fun _ => j) hunder fun c' hc' => ?_
    cases hc'
    exact (HostConfig.denotes (hfits c hhost)).reordered
      HostConfig.steady hreordered

/-- What an inspection shows is read back. -/
theorem ofJson_of_shows {id name : String} {s : ContainerSpec}
    {members : List (String × Json)} (hfits : s.Fits)
    (h : Shows id name s members) :
    ∃ state, ofJson (.obj members)
      = .ok { id, name, config := .ofSpec s, hostConfig := s.hostConfig,
              state } := by
  have hstate : ∃ state, (Json.orElse "State" InspectState.ofJson {}).read
      ⟨members, false, "struct ContainerInspect",
        ["Id", "Name", "Config", "HostConfig", "State"]⟩ = .ok state := by
    rcases h.state with hnone | ⟨j, state, hone, hread⟩
    · exact ⟨_, Json.Record.read_field_absent hnone⟩
    · exact ⟨state, Json.Record.read_field hone hread⟩
  obtain ⟨state, hstate⟩ := hstate
  obtain ⟨config, hconfig, hreordered⟩ := h.config
  refine ⟨state, (Json.denotes_obj (read_seq (read_seq (read_seq (read_seq
    (read_map mk ?_) ?_) ?_) ?_) hstate)).reads⟩
  · exact read_required h.id (Json.denotes_text id)
  · exact read_orElse h.name (Json.denotes_text name)
  · exact read_orElse hconfig
      ((InspectConfig.denotes s).reordered InspectConfig.steady hreordered)
  · exact read_hostConfig hfits h.hostConfig

/-- The shortest inspection that shows a configuration. -/
def members (id name : String) (s : ContainerSpec) : List (String × Json) :=
  [("Id", .str id), ("Name", .str name), ("Config", s.toJson)]
    ++ memberIfSet "HostConfig" HostConfig.toJson s.hostConfig

/-- The shortest inspection does show its configuration, in the order that
tables have. -/
theorem shows_members (id name : String) (s : ContainerSpec) :
    Shows id name s (members id name s) where
  id := by simp [members]
  name := by simp [members]
  config := ⟨s.toJson, by simp [members], .refl _⟩
  hostConfig := by
    have hunder : under "HostConfig" (members id name s)
        = (s.hostConfig.map HostConfig.toJson).toList := by simp [members]
    rw [hunder]
    exact List.forall₂_same.2 fun j _ => .refl j
  state := .inl (by simp [members])

end Inspection

namespace ContainerSpec

/-- A container is created from `s`, and its inspection gives `s'`. -/
def Recreated (s s' : ContainerSpec) : Prop :=
  ∃ id name members i, Inspection.Shows id name s members
    ∧ Inspection.ofJson (.obj members) = .ok i ∧ i.toSpec = s'

theorem settled_fits {s : ContainerSpec} (hfits : s.Fits) : s.settled.Fits :=
  hfits

/-- One round settles a configuration, and does nothing else to it. -/
theorem recreated_iff {s s' : ContainerSpec} (hfits : s.Fits) :
    s.Recreated s' ↔ s' = s.settled := by
  constructor
  · rintro ⟨id, name, members, i, hshows, hread, rfl⟩
    obtain ⟨state, hstate⟩ := Inspection.ofJson_of_shows hfits hshows
    rw [Except.ok.inj (hread.symm.trans hstate)]
    rfl
  · rintro rfl
    have hshows := Inspection.shows_members "" "" s
    obtain ⟨state, hstate⟩ := Inspection.ofJson_of_shows hfits hshows
    exact ⟨_, _, _, _, hshows, hstate, rfl⟩

open Relation (TransGen)

/-- Any number of rounds does what one does. -/
theorem transGen_recreated_iff {s s' : ContainerSpec} (hfits : s.Fits) :
    TransGen Recreated s s' ↔ s' = s.settled := by
  constructor
  · intro h
    induction h with
    | single h => exact (recreated_iff hfits).1 h
    | tail _ h ih =>
      subst ih
      rw [(recreated_iff (settled_fits hfits)).1 h, settled_settled]
  · rintro rfl
    exact .single ((recreated_iff hfits).2 rfl)

/-- A create request is read as the configuration it was written for, from its
text too, whatever order its tables are written in. An inspection that shows
this configuration gives it settled, and from then on creating and inspecting
never changes it. -/
theorem configuration_agrees {s : ContainerSpec} (hfits : s.Fits) :
    (∀ j, Reordered s.toJson j →
      Json.parse j.render = some j ∧ ofJson j = .ok s)
    ∧ (∀ id name, Inspection.Shows id name s (Inspection.members id name s)
      ∧ ∀ members, Inspection.Shows id name s members →
        ∃ i, Inspection.ofJson (.obj members) = .ok i
          ∧ i.id = id ∧ i.name = name ∧ i.toSpec = s.settled)
    ∧ ∀ s', TransGen Recreated s s' ↔ s' = s.settled := by
  refine ⟨fun j hreordered => ⟨?_, ?_⟩, fun id name =>
    ⟨Inspection.shows_members id name s, fun members hshows => ?_⟩,
    fun s' => transGen_recreated_iff hfits⟩
  · exact Json.parse_render (hreordered.lossless (lossless hfits))
  · exact steady.run hreordered (denotes hfits).reads
  · obtain ⟨state, hread⟩ := Inspection.ofJson_of_shows hfits hshows
    exact ⟨_, hread, rfl, rfl, rfl⟩

/-- A configuration with every part set, some to an empty text or list, and a
count at its bound. -/
def elaborate : ContainerSpec where
  image := "web:1"
  hostname := some ""
  user := some "www"
  cmd := some []
  entrypoint := some ["/run", "\"quoted\"\n"]
  env := some ["A=1", "A=2"]
  workingDir := some ""
  labels := ⟨[("", "é"), ("app", "web")], by decide +kernel⟩
  hostConfig := some
    { networkMode := some "", binds := some ["/a:/b:ro"], privileged := true
      portBindings := some
        (.ofList [("80/tcp", [{ hostPort := "8080" }, {}]), ("81/udp", [])])
      restartPolicy := some
        { name := "always", maximumRetryCount := -9223372036854775808 } }

theorem elaborate_fits : elaborate.Fits := by
  rintro h ⟨⟩ p ⟨⟩
  exact ⟨by decide, by decide⟩

/-- The create request for it, the later label written first. -/
def elaborateShuffled : Json :=
  .obj
    ([("Image", .str "web:1"), ("Hostname", .str ""), ("User", .str "www"),
      ("Cmd", .arr []),
      ("Entrypoint", .arr [.str "/run", .str "\"quoted\"\n"]),
      ("Env", .arr [.str "A=1", .str "A=2"]), ("WorkingDir", .str ""),
      ("Labels", .obj [("app", .str "web"), ("", .str "é")])]
      ++ memberIfSet "HostConfig" HostConfig.toJson elaborate.hostConfig)

theorem elaborateShuffled_reordered :
    Reordered elaborate.toJson elaborateShuffled := by
  have hlabels :
      [("", "é"), ("app", "web")].Perm [("app", "web"), ("", "é")] :=
    .swap _ _ []
  exact (Json.reordered_ofTable .str elaborate.labels hlabels).member
    (elaborate.ownMembers.take 7) "Labels" _

/-- An inspection of it that shows the labels in that order. -/
def elaborateInspected : List (String × Json) :=
  [("Config", elaborateShuffled), ("Id", .str "c1"), ("Name", .str "/web")]
    ++ memberIfSet "HostConfig" HostConfig.toJson elaborate.hostConfig

theorem elaborateInspected_shows :
    Inspection.Shows "c1" "/web" elaborate elaborateInspected where
  id := rfl
  name := rfl
  config := ⟨elaborateShuffled, rfl, elaborateShuffled_reordered⟩
  hostConfig := .cons (.refl _) .nil
  state := .inl rfl

/-- The law at this configuration: the request and the inspection are read in
that order of labels, the empty host name is unset from the first round on. -/
theorem configuration_of_elaborate :
    elaborate.Fits ∧ elaborate.hostname = some ""
    ∧ elaborate.settled.hostname = none
    ∧ elaborateShuffled.render ≠ elaborate.toJson.render
    ∧ Json.parse elaborateShuffled.render = some elaborateShuffled
    ∧ ofJson elaborateShuffled = .ok elaborate
    ∧ (∃ i, Inspection.ofJson (.obj elaborateInspected) = .ok i
      ∧ i.toSpec = elaborate.settled)
    ∧ TransGen Recreated elaborate elaborate.settled := by
  obtain ⟨hrequest, hinspection, hrounds⟩ :=
    configuration_agrees elaborate_fits
  obtain ⟨hparse, hread⟩ := hrequest _ elaborateShuffled_reordered
  obtain ⟨i, hi, -, -, hspec⟩ :=
    (hinspection "c1" "/web").2 _ elaborateInspected_shows
  refine ⟨elaborate_fits, rfl, rfl, ?_, hparse, hread, ⟨i, hi, hspec⟩,
    (hrounds _).2 rfl⟩
  decide +kernel

end ContainerSpec

end Fleetkeeper
