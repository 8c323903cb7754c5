/-
Settings as text and back. The printed text is that of an outline, a group for
each section and a setting for each field, and so is what the reader finds in
it (`print_outline`, `ofYaml_outline`). Whatever the reader accepts is within
the bounds of its fields and has passed `validate`, so settings in force can
always be printed and loaded again.

Three of the sections hold two whole numbers each, which differ in their names,
bounds and defaults. What is true of such a section is said once
(`WholePair`); a section is then a pair of fields, and that it is read as such
holds by definition.
-/
import Fleetkeeper.CommandLine.Program
import Fleetkeeper.Proofs.Yaml.Decode

namespace Fleetkeeper

open Yaml

-- ================================================================== bounds

/-- The largest number of 64 bits. -/
def most64 : Nat := 18446744073709551615

/-- The largest number of 32 bits. -/
def most32 : Nat := 4294967295

/-- Settings of polling within the bounds of their fields. -/
structure PollConfig.Fits (c : PollConfig) : Prop where
  initialDelay : c.initialDelaySecs ≤ most64
  period : c.periodSecs ≤ most64

structure NodesConfig.Fits (c : NodesConfig) : Prop where
  minTtl : c.minTtlSecs ≤ most64
  healthCapacity : c.healthCapacity ≤ most64

structure HealthCheckConfig.Fits (c : HealthCheckConfig) : Prop where
  attempts : c.attempts ≤ most32
  interval : c.intervalSecs ≤ most64

structure UpgradeConfig.Fits (c : UpgradeConfig) : Prop where
  healthCheck : c.healthCheck.Fits
  stopTimeout : c.stopTimeoutSecs ≤ most64

/-- Settings within the bounds of their fields. -/
structure ClusterConfig.Fits (c : ClusterConfig) : Prop where
  polling : c.polling.Fits
  nodes : c.nodes.Fits
  upgrade : c.upgrade.Fits

-- ===================================================== pairs of numbers

theorem isWord_numeral (n : Nat) : IsWord (toString n) := by
  have htext := Text.toList_toString n
  refine ⟨fun hempty => ?_, List.all_eq_true.2 fun c hc => ?_⟩
  · rw [hempty] at htext
    exact Nat.toDigits_ne_nil htext.symm
  · rw [htext] at hc
    simp [isWordChar, Char.isAlphanum, Text.isDigit_of_mem_numeral hc]

/-- A field that takes whole numbers up to a bound. Its name is a key that can
be printed, and its default is a number that it takes. -/
structure WholeField where
  name : String
  most : Nat
  default : Nat
  isWord : IsWord name := by decide
  short : name.toList.length ≤ 1024 := by decide
  within : default ≤ most := by decide

/-- A section of two such fields, and what is made of their numbers. -/
structure WholePair (α : Type) where
  first : WholeField
  second : WholeField
  make : Nat → Nat → α
  distinct : first.name ≠ second.name := by decide

namespace WholePair

variable {α : Type} (p : WholePair α)

/-- A section is read field by field. -/
def ofYaml : Decoder α := fun d node => do
  let fs ← fields [p.first.name, p.second.name] d node
  let m ← fs.orElse d p.first.name (asWhole p.first.most) p.first.default
  let n ← fs.orElse d p.second.name (asWhole p.second.most) p.second.default
  pure (p.make m n)

/-- A section with these numbers. -/
def outline (m n : Nat) : Outline :=
  .setting p.first.name (toString m)
    (.setting p.second.name (toString n) .done)

theorem plain_outline (m n : Nat) : (p.outline m n).Plain :=
  ⟨p.first.isWord, p.first.short, isWord_numeral m,
    p.second.isWord, p.second.short, isWord_numeral n, trivial⟩

/-- Numbers within their bounds are read from the outline. -/
theorem ofYaml_outline (d : Document) {m n : Nat} (hm : m ≤ p.first.most)
    (hn : n ≤ p.second.most) :
    p.ofYaml d (p.outline m n).node = .ok (p.make m n) := by
  have hne : (p.second.name == p.first.name) = false := by
    simpa using p.distinct.symm
  have hfields : fields [p.first.name, p.second.name] d (p.outline m n).node
      = .ok (p.outline m n).members := by
    refine fields_entries (by simp [outline, Outline.members]) ?_ d {}
    simp [outline, Outline.members, Yaml.distinct, p.distinct]
  have hfirst : Fields.orElse (p.outline m n).members d p.first.name
      (asWhole p.first.most) p.first.default = .ok m := by
    refine (Fields.orElse_eq ?_).trans (asWhole_numeral hm d)
    simp [outline, Outline.members]
  have hsecond : Fields.orElse (p.outline m n).members d p.second.name
      (asWhole p.second.most) p.second.default = .ok n := by
    refine (Fields.orElse_eq ?_).trans (asWhole_numeral hn d)
    simp [outline, Outline.members, List.lookup_cons, hne]
  simp only [ofYaml, hfields, hfirst, hsecond, bind, Except.bind, pure,
    Except.pure]

/-- Whatever is read is made of numbers within their bounds. -/
theorem bounds_of_ofYaml {d : Document} {node : Node} {a : α}
    (h : p.ofYaml d node = .ok a) :
    ∃ m n, a = p.make m n ∧ m ≤ p.first.most ∧ n ≤ p.second.most := by
  obtain ⟨fs, -, h⟩ := exists_of_bind_ok h
  obtain ⟨m, hm, h⟩ := exists_of_bind_ok h
  obtain ⟨n, hn, h⟩ := exists_of_bind_ok h
  cases h
  exact ⟨m, n, rfl, Fields.le_of_orElse hm p.first.within,
    Fields.le_of_orElse hn p.second.within⟩

end WholePair

def PollConfig.numbers : WholePair PollConfig where
  first := { name := "initial_delay_secs", most := most64, default := 5 }
  second := { name := "period_secs", most := most64, default := 30 }
  make := mk

def NodesConfig.numbers : WholePair NodesConfig where
  first := { name := "min_ttl_secs", most := most64, default := 10 }
  second := { name := "health_bus_capacity", most := most64, default := 2000 }
  make := mk

def HealthCheckConfig.numbers : WholePair HealthCheckConfig where
  first := { name := "attempts", most := most32, default := 10 }
  second := { name := "interval_secs", most := most64, default := 2 }
  make := mk

-- ================================================================= outlines

def PollConfig.outline (c : PollConfig) : Outline :=
  numbers.outline c.initialDelaySecs c.periodSecs

def NodesConfig.outline (c : NodesConfig) : Outline :=
  numbers.outline c.minTtlSecs c.healthCapacity

def HealthCheckConfig.outline (c : HealthCheckConfig) : Outline :=
  numbers.outline c.attempts c.intervalSecs

def UpgradeConfig.outline (c : UpgradeConfig) : Outline :=
  .setting "rollback_enable" (ClusterConfig.boolText c.rollbackEnable)
    (.setting "rollback_scope" c.rollbackScope.toText
      (.group "health_check" c.healthCheck.outline
        (.setting "stop_timeout_secs" (toString c.stopTimeoutSecs) .done)))

def ClusterConfig.outline (c : ClusterConfig) : Outline :=
  .group "docker_events" c.polling.outline
    (.group "nodes" c.nodes.outline (.group "upgrade" c.upgrade.outline .done))

theorem isWord_boolText (b : Bool) : IsWord (ClusterConfig.boolText b) := by
  cases b <;> decide

theorem isWord_scope (s : RollbackScope) : IsWord s.toText := by
  cases s <;> decide

theorem UpgradeConfig.plain_outline (c : UpgradeConfig) : c.outline.Plain :=
  ⟨by decide, by decide, isWord_boolText _, by decide, by decide,
    isWord_scope _, by decide, by decide, nofun,
    HealthCheckConfig.numbers.plain_outline _ _, by decide, by decide,
    isWord_numeral _, trivial⟩

namespace ClusterConfig

theorem plain_outline (c : ClusterConfig) : c.outline.Plain :=
  ⟨by decide, by decide, nofun, PollConfig.numbers.plain_outline _ _,
    by decide, by decide, nofun, NodesConfig.numbers.plain_outline _ _,
    by decide, by decide, nofun, c.upgrade.plain_outline, trivial⟩

theorem toList_pushn (c : Char) (n : Nat) :
    ("".pushn c n).toList = List.replicate n c := by
  unfold String.pushn
  induction n with
  | zero => rfl
  | succ n ih =>
    rw [Nat.repeat, String.toList_push, ih, ← List.replicate_succ']

theorem toList_line (level : Nat) (key value : String) :
    (line level key value).toList
      = Line.text { column := 2 * level, key, value } := by
  by_cases hvalue : value = ""
  · simp [line, Line.text, Line.content, toList_pushn, hvalue]
  · simp [line, Line.text, Line.content, toList_pushn, hvalue]

/-- Settings are printed as their outline. -/
theorem print_outline (c : ClusterConfig) :
    c.print.toList = (c.outline.lines 0).flatMap Line.text := by
  simp only [print, String.toList_join, List.flatMap_cons, List.flatMap_nil,
    toList_line, outline, PollConfig.outline, PollConfig.numbers,
    NodesConfig.outline, NodesConfig.numbers, UpgradeConfig.outline,
    HealthCheckConfig.outline, HealthCheckConfig.numbers, WholePair.outline,
    Outline.lines, List.cons_append, List.nil_append]

theorem not_blank_print (c : ClusterConfig) : Text.blank c.print = false := by
  have hfirst : { column := 0, key := "docker_events" } ∈ c.outline.lines 0 :=
    List.mem_cons_self
  have hletter : 'd' ∈ Line.text { column := 0, key := "docker_events" } := by
    decide
  unfold Text.blank
  rw [print_outline]
  exact List.all_eq_false.2
    ⟨'d', List.mem_flatMap_of_mem hfirst hletter, by decide⟩

end ClusterConfig

-- ================================================================= decoding

section Decoding

variable (d : Document)

theorem PollConfig.ofYaml_outline {c : PollConfig} (h : c.Fits) :
    ofYaml d c.outline.node = .ok c :=
  numbers.ofYaml_outline d h.initialDelay h.period

theorem NodesConfig.ofYaml_outline {c : NodesConfig} (h : c.Fits) :
    ofYaml d c.outline.node = .ok c :=
  numbers.ofYaml_outline d h.minTtl h.healthCapacity

theorem HealthCheckConfig.ofYaml_outline {c : HealthCheckConfig} (h : c.Fits) :
    ofYaml d c.outline.node = .ok c :=
  numbers.ofYaml_outline d h.attempts h.interval

theorem asBool_boolText (b : Bool) :
    asBool d (Outline.leaf (ClusterConfig.boolText b)) = .ok b := by
  cases b <;> rfl

theorem asVariant_scope (s : RollbackScope) :
    asVariant RollbackScope.words d (Outline.leaf s.toText) = .ok s :=
  asVariant_word (by cases s <;> rfl) d

/-- The section of upgrades is read from its outline, the one of health checks
in it by its own law. -/
theorem UpgradeConfig.ofYaml_outline {c : UpgradeConfig} (h : c.Fits) :
    ofYaml d c.outline.node = .ok c := by
  have hfields :
      fields ["rollback_enable", "rollback_scope", "health_check",
        "stop_timeout_secs"] d c.outline.node = .ok c.outline.members :=
    fields_entries (by simp [outline, Outline.members]) rfl d {}
  have henable :
      Fields.orElse c.outline.members d "rollback_enable" asBool true
        = .ok c.rollbackEnable :=
    (Fields.orElse_eq rfl).trans (asBool_boolText d _)
  have hscope :
      Fields.orElse c.outline.members d "rollback_scope"
        (asVariant RollbackScope.words) .batch = .ok c.rollbackScope :=
    (Fields.orElse_eq rfl).trans (asVariant_scope d _)
  have hcheck :
      Fields.orElse c.outline.members d "health_check"
        HealthCheckConfig.ofYaml {}
        = .ok c.healthCheck :=
    (Fields.orElse_eq rfl).trans
      (HealthCheckConfig.ofYaml_outline d h.healthCheck)
  have hstop : Fields.orElse c.outline.members d "stop_timeout_secs" asU64 10
      = .ok c.stopTimeoutSecs :=
    (Fields.orElse_eq rfl).trans (asWhole_numeral h.stopTimeout d)
  simp only [ofYaml, hfields, henable, hscope, hcheck, hstop, bind,
    Except.bind, pure, Except.pure]

/-- Settings are read from their outline. -/
theorem ClusterConfig.ofYaml_outline {c : ClusterConfig} (h : c.Fits) :
    ofYaml d c.outline.node = .ok c := by
  have hfields : fields ["docker_events", "nodes", "upgrade"] d c.outline.node
      = .ok c.outline.members :=
    fields_entries (by simp [outline, Outline.members]) rfl d {}
  have hpolling :
      Fields.orElse c.outline.members d "docker_events" PollConfig.ofYaml {}
        = .ok c.polling :=
    (Fields.orElse_eq rfl).trans (PollConfig.ofYaml_outline d h.polling)
  have hnodes : Fields.orElse c.outline.members d "nodes" NodesConfig.ofYaml {}
      = .ok c.nodes :=
    (Fields.orElse_eq rfl).trans (NodesConfig.ofYaml_outline d h.nodes)
  have hupgrade :
      Fields.orElse c.outline.members d "upgrade" UpgradeConfig.ofYaml {}
        = .ok c.upgrade :=
    (Fields.orElse_eq rfl).trans (UpgradeConfig.ofYaml_outline d h.upgrade)
  simp only [ofYaml, hfields, hpolling, hnodes, hupgrade, bind, Except.bind,
    pure, Except.pure]

-- =========================================================== what is read

variable {d : Document} {node : Node}

theorem PollConfig.fits_of_ofYaml {c : PollConfig}
    (h : ofYaml d node = .ok c) : c.Fits := by
  obtain ⟨delay, period, rfl, hdelay, hperiod⟩ := numbers.bounds_of_ofYaml h
  exact ⟨hdelay, hperiod⟩

theorem NodesConfig.fits_of_ofYaml {c : NodesConfig}
    (h : ofYaml d node = .ok c) : c.Fits := by
  obtain ⟨minTtl, capacity, rfl, hminTtl, hcapacity⟩ :=
    numbers.bounds_of_ofYaml h
  exact ⟨hminTtl, hcapacity⟩

theorem HealthCheckConfig.fits_of_ofYaml {c : HealthCheckConfig}
    (h : ofYaml d node = .ok c) : c.Fits := by
  obtain ⟨attempts, interval, rfl, hattempts, hinterval⟩ :=
    numbers.bounds_of_ofYaml h
  exact ⟨hattempts, hinterval⟩

/-- What is read of that section fits; what is missing has a default that fits.
-/
theorem UpgradeConfig.fits_of_ofYaml {c : UpgradeConfig}
    (h : ofYaml d node = .ok c) :
    c.Fits := by
  obtain ⟨fs, -, h⟩ := exists_of_bind_ok h
  obtain ⟨enable, -, h⟩ := exists_of_bind_ok h
  obtain ⟨scope, -, h⟩ := exists_of_bind_ok h
  obtain ⟨check, hcheck, h⟩ := exists_of_bind_ok h
  obtain ⟨stop, hstop, h⟩ := exists_of_bind_ok h
  cases h
  have hdefault : HealthCheckConfig.Fits {} := ⟨by decide, by decide⟩
  exact ⟨Fields.orElse_all hcheck hdefault fun _ _ =>
    HealthCheckConfig.fits_of_ofYaml, Fields.le_of_orElse hstop (by decide)⟩

theorem ClusterConfig.fits_default : ({} : ClusterConfig).Fits :=
  ⟨⟨by decide, by decide⟩, ⟨by decide, by decide⟩,
    ⟨by decide, by decide⟩, by decide⟩

/-- Whatever is read is within the bounds of its fields. -/
theorem ClusterConfig.fits_of_ofYaml {c : ClusterConfig}
    (h : ofYaml d node = .ok c) :
    c.Fits := by
  obtain ⟨fs, -, h⟩ := exists_of_bind_ok h
  obtain ⟨polling, hpolling, h⟩ := exists_of_bind_ok h
  obtain ⟨nodes, hnodes, h⟩ := exists_of_bind_ok h
  obtain ⟨upgrade, hupgrade, h⟩ := exists_of_bind_ok h
  cases h
  exact ⟨Fields.orElse_all hpolling fits_default.polling fun _ _ =>
    PollConfig.fits_of_ofYaml,
    Fields.orElse_all hnodes fits_default.nodes fun _ _ =>
      NodesConfig.fits_of_ofYaml,
    Fields.orElse_all hupgrade fits_default.upgrade fun _ _ =>
      UpgradeConfig.fits_of_ofYaml⟩

end Decoding

namespace ClusterConfig

/-- What is printed is read. -/
theorem read_print {c : ClusterConfig} (h : c.Fits) :
    read c.print = .ok c := by
  have hdocument :=
    Outline.ofText_outline c.plain_outline nofun (print_outline c)
  unfold read
  simp only [hdocument, ofYaml_outline _ h]

/-- What is printed loads again, if a run can work with it. -/
theorem parse_print {c : ClusterConfig} (h : c.Fits)
    (hvalid : c.validate = .ok ()) :
    parse c.print = .ok c := by
  unfold parse
  rw [not_blank_print, if_neg Bool.false_ne_true, read_print h]
  simp only [bind, Except.bind, hvalid, pure, Except.pure]

/-- Settings that a run can work with. -/
structure Usable (c : ClusterConfig) : Prop where
  fits : c.Fits
  valid : c.validate = .ok ()

theorem usable_default : Usable {} := ⟨fits_default, rfl⟩

/-- Whatever text is accepted gives settings that a run can work with. -/
theorem usable_of_parse {text : String} {c : ClusterConfig}
    (h : parse text = .ok c) :
    c.Usable := by
  unfold parse at h
  split at h
  · cases h
    exact usable_default
  · obtain ⟨c', hread, h⟩ := exists_of_bind_ok h
    obtain ⟨_, hvalid, h⟩ := exists_of_bind_ok h
    cases h
    unfold read at hread
    split at hread
    · cases hread
    · split at hread
      · cases hread
      · cases hread
        rename_i hyaml
        exact ⟨fits_of_ofYaml hyaml, hvalid⟩

/-- So does whatever file is loaded: one that is missing, a directory or no
text gives none. -/
theorem usable_of_load {file : File} {c : ClusterConfig}
    (h : load file = .ok c) : c.Usable := by
  cases file with
  | absent => cases h
  | directory => cases h
  | bytes content =>
    unfold load at h
    dsimp only at h
    split at h
    · cases h
    · exact usable_of_parse h

/-- Where the file is missing the defaults are loaded, and a run can work with
them. -/
theorem usable_of_loadOrDefault {file : File} {c : ClusterConfig}
    (h : loadOrDefault file = .ok c) :
    c.Usable := by
  cases file with
  | absent =>
    cases h
    exact usable_default
  | directory =>
    have hload : load .directory = .ok c := h
    exact usable_of_load hload
  | bytes content =>
    have hload : load (.bytes content) = .ok c := h
    exact usable_of_load hload

open CommandLine in
/-- The text that shows the settings in force loads as these settings, and
whatever loads is what a run can work with. -/
theorem shown_settings_load :
    (∀ c : ClusterConfig, c.Fits → c.validate = .ok () →
      parse c.print = .ok c
      ∧ ∀ (σ : Type) (h : Host σ) (course : Course σ) (s : σ),
        carryOut h course c .showConfig s = (.ok (), h.print c.print s))
    ∧ (∀ text c, parse text = .ok c → c.Fits ∧ c.validate = .ok ())
    ∧ (∀ file c, load file = .ok c → c.Fits ∧ c.validate = .ok ())
    ∧ (∀ file c, loadOrDefault file = .ok c →
      c.Fits ∧ c.validate = .ok ()) := by
  refine ⟨fun c hfits hvalid => ⟨parse_print hfits hvalid, fun _ _ _ _ => rfl⟩,
    fun text c h => ?_, fun file c h => ?_, fun file c h => ?_⟩
  · exact ⟨(usable_of_parse h).fits, (usable_of_parse h).valid⟩
  · exact ⟨(usable_of_load h).fits, (usable_of_load h).valid⟩
  · exact ⟨(usable_of_loadOrDefault h).fits, (usable_of_loadOrDefault h).valid⟩

end ClusterConfig

end Fleetkeeper
