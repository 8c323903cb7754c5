/-
Health reports may be regrouped: what comes of a list of them does not depend
on which of them were merged before they were sent.

# Field by field

Merging is the same thing for each field, the later of two set values. So the
fields are listed once (`Metrics.Field`), reports that agree in all of them are
equal (`ext_fields`), and the laws of merging are those of `Option.or`. A field
of a merged list is the last value that the list sets for it
(`field_mergeAll`); zero, `false` and the empty disk map are values there, and
a disk map is one value.

# Grouping

Merging is associative and has an identity, so a report that is merged from
several does to what it is laid over what they do one after the other
(`foldl_merge`), and merging merged groups is merging all of them
(`mergeAll_flatten`). A registration lays each granted report over its health
and looks at nothing else of it (`performAll_reports`).
-/
import Mathlib.Data.List.Induction
import Fleetkeeper.Proofs.Node.Request

namespace Fleetkeeper

namespace Metrics

-- ================================================================== fields

/-- What can be set in a report. -/
inductive Field : {α : Type} → (Metrics → Option α) → Prop where
  | time : Field Metrics.time
  | healthy : Field Metrics.healthy
  | state : Field Metrics.state
  | memAvail : Field Metrics.memAvail
  | memTotal : Field Metrics.memTotal
  | memUsed : Field Metrics.memUsed
  | cpuLoad : Field Metrics.cpuLoad
  | netRx : Field Metrics.netRx
  | netTx : Field Metrics.netTx
  | disks : Field Metrics.disks

/-- There is nothing to a report but its fields. -/
theorem ext_fields {a b : Metrics}
    (h : ∀ {α : Type} {field : Metrics → Option α}, Field field →
      field a = field b) :
    a = b := by
  have htime := h .time
  have hhealthy := h .healthy
  have hstate := h .state
  have hmemAvail := h .memAvail
  have hmemTotal := h .memTotal
  have hmemUsed := h .memUsed
  have hcpuLoad := h .cpuLoad
  have hnetRx := h .netRx
  have hnetTx := h .netTx
  have hdisks := h .disks
  cases a
  cases b
  simp_all only

variable {α : Type} {field : Metrics → Option α}

theorem field_merge (hfield : Field field) (known update : Metrics) :
    field (known.merge update) = (field update).or (field known) := by
  cases hfield <;> rfl

theorem field_unset (hfield : Field field) : field unset = none := by
  cases hfield <;> rfl

-- ================================================================= merging

theorem merge_assoc (a b c : Metrics) :
    (a.merge b).merge c = a.merge (b.merge c) := by
  refine ext_fields fun hfield => ?_
  simp only [field_merge hfield, Option.or_assoc]

theorem unset_merge (a : Metrics) : unset.merge a = a := by
  refine ext_fields fun hfield => ?_
  rw [field_merge hfield, field_unset hfield, Option.or_none]

theorem merge_unset (a : Metrics) : a.merge unset = a := by
  refine ext_fields fun hfield => ?_
  rw [field_merge hfield, field_unset hfield, Option.none_or]

theorem merge_self (a : Metrics) : a.merge a = a := by
  refine ext_fields fun hfield => ?_
  rw [field_merge hfield, Option.or_self]

instance : Std.Associative merge := ⟨merge_assoc⟩

/-- Several reports as one. -/
def mergeAll (reports : List Metrics) : Metrics := reports.foldl merge unset

/-- Reports do one after the other what they do merged. -/
theorem foldl_merge (reports : List Metrics) (known : Metrics) :
    reports.foldl merge known = known.merge (mergeAll reports) := by
  have hassoc : reports.foldl merge (known.merge unset)
      = known.merge (reports.foldl merge unset) :=
    List.foldl_assoc
  rw [merge_unset] at hassoc
  exact hassoc

theorem mergeAll_append (xs ys : List Metrics) :
    mergeAll (xs ++ ys) = (mergeAll xs).merge (mergeAll ys) := by
  rw [mergeAll, List.foldl_append, foldl_merge]
  rfl

/-- Groups can be merged first. -/
theorem mergeAll_flatten (groups : List (List Metrics)) :
    mergeAll (groups.map mergeAll) = mergeAll groups.flatten := by
  induction groups with
  | nil => rfl
  | cons group rest ih =>
    rw [List.flatten_cons, mergeAll_append, ← ih, List.map_cons,
      ← List.singleton_append, mergeAll_append]
    exact congrArg (merge · _) (unset_merge _)

/-- The value that a list of reports sets last for a field, if it sets one. -/
def lastSet (field : Metrics → Option α) (reports : List Metrics) : Option α :=
  (reports.filterMap field).getLast?

/-- By induction on the reports, the last one apart. -/
theorem field_mergeAll (hfield : Field field) (reports : List Metrics) :
    field (mergeAll reports) = lastSet field reports := by
  unfold lastSet
  induction reports using List.reverseRecOn with
  | nil => exact field_unset hfield
  | append_singleton reports last ih =>
    rw [mergeAll_append, field_merge hfield, ih, List.filterMap_append,
      List.getLast?_append]
    show (field (unset.merge last)).or _ = _
    rw [unset_merge]
    cases hlast : field last with
    | none => simp [hlast]
    | some a => simp [hlast]

end Metrics

namespace Registration

open Metrics (Field mergeAll lastSet)

-- ================================================================= reports

/-- A report, who makes it, and what the registration finds around it. -/
structure Report where
  env : Services
  caller : Caller
  metrics : Metrics

namespace Report

def request (report : Report) : Services × Request :=
  (report.env, .updateHealth report.caller report.metrics)

/-- Whether whoever makes the report may make it. -/
def Granted (r : Registration) (report : Report) : Prop :=
  r.checkUpdate report.env report.caller = .ok ()

end Report

/-- A registration of which another health is known, and no snapshot. -/
def withHealth (health : Metrics) (r : Registration) : Registration :=
  { r with draft := r.draft.setHealth health, cache := none }

theorem perform_report {r : Registration} {report : Report}
    (hgranted : report.Granted r) :
    (report.request.2.perform report.request.1 r).state
      = r.withHealth (r.draft.health.merge report.metrics) := by
  show (r.updateHealth report.env report.caller report.metrics).state = _
  unfold updateHealth
  rw [hgranted]
  rfl

/-- Reports that are granted leave the health that comes of them, and no
snapshot. By induction on the reports: no report changes who may make the
next. -/
theorem performAll_reports (reports : List Report) {r : Registration}
    (hsome : reports ≠ []) (hgranted : ∀ report ∈ reports, report.Granted r) :
    (performAll (reports.map Report.request) r).state
      = r.withHealth
        (r.draft.health.merge (mergeAll (reports.map Report.metrics))) := by
  rw [← Metrics.foldl_merge]
  induction reports generalizing r with
  | nil => exact absurd rfl hsome
  | cons report rest ih =>
    have hfirst := perform_report (hgranted report List.mem_cons_self)
    show (performAll (rest.map Report.request)
      (report.request.2.perform report.request.1 r).state).state = _
    rw [hfirst]
    cases rest with
    | nil => rfl
    | cons next rest =>
      exact ih (List.cons_ne_nil _ _) fun other hother =>
        hgranted other (List.mem_cons_of_mem _ hother)

/-- Merging reports is associative, leaves everything as it is where one of
the two says nothing, and saying the same twice is saying it once.

So let a registration in any state be told a list of reports, one at least,
each by somebody who may make it. However the list is cut into consecutive
groups, telling what each group comes to when merged, again by anybody who may
and at any time, leaves the same registration. A field of its health is then
the value that the list set last for it, whatever that value is; where no
report set one, it is what it was before. -/
theorem reports_regroup :
    (∀ a b c : Metrics, (a.merge b).merge c = a.merge (b.merge c))
      ∧ (∀ a : Metrics, Metrics.unset.merge a = a ∧ a.merge .unset = a
        ∧ a.merge a = a)
      ∧ ∀ (r : Registration) (reports : List Report), reports ≠ [] →
          (∀ report ∈ reports, report.Granted r) →
          let told := (performAll (reports.map Report.request) r).state
          (∀ (groups : List (List Metrics)) (merged : List Report),
              groups.flatten = reports.map Report.metrics →
              merged.map Report.metrics = groups.map mergeAll →
              (∀ report ∈ merged, report.Granted r) →
              (performAll (merged.map Report.request) r).state = told)
            ∧ ∀ (α : Type) (field : Metrics → Option α), Field field →
                field told.draft.health
                  = (lastSet field (reports.map Report.metrics)).or
                    (field r.draft.health) := by
  refine ⟨Metrics.merge_assoc,
    fun a => ⟨Metrics.unset_merge a, Metrics.merge_unset a,
      Metrics.merge_self a⟩, fun r reports hsome hgranted => ?_⟩
  rw [performAll_reports reports hsome hgranted]
  refine ⟨fun groups merged hgroups hmerged hallowed => ?_,
    fun α field hfield => ?_⟩
  · have hsome' : merged ≠ [] := by
      rintro rfl
      have hnone : groups = [] := List.map_eq_nil_iff.1 hmerged.symm
      rw [hnone] at hgroups
      exact hsome (List.map_eq_nil_iff.1 hgroups.symm)
    rw [performAll_reports merged hsome' hallowed, hmerged,
      Metrics.mergeAll_flatten, hgroups]
  · show field (r.draft.health.merge _) = _
    rw [Metrics.field_merge hfield, Metrics.field_mergeAll hfield]

/-- A healthy node with some memory and a disk in use. -/
def busy : Registration :=
  .ofInfo { NodeInfo.bare "n1" with
    health := { healthy := some true, memUsed := some 512,
                disks := some (.ofList [("/", ⟨8, 4⟩)]) } }

/-- A report of the system, some time into 1970. -/
def systemReport (secs : Int) (metrics : Metrics) : Report :=
  ⟨surroundingsAt secs, .system, metrics⟩

/-- Reports of nothing in use: zero, `false` and no disks. -/
def idleReports : List Report :=
  [systemReport 0 { healthy := some false },
    systemReport 1 { memUsed := some 0 },
   systemReport 2 { disks := some ∅ }]

/-- The first two of them merged, the third by itself: what the node was before
is overwritten. -/
theorem reports_of_busy :
    let told := (performAll (idleReports.map Report.request) busy).state
    let merged := [systemReport 3 { healthy := some false, memUsed := some 0 },
      systemReport 4 { disks := some ∅ }]
    (performAll (merged.map Report.request) busy).state = told
      ∧ told.draft.health.healthy = some false
      ∧ told.draft.health.memUsed = some 0
      ∧ told.draft.health.disks = some ∅
      ∧ told.draft.health.memTotal = none := by
  intro told merged
  have hgranted : ∀ report : Report, report.env.access = .allowAll →
      report.Granted busy := by
    intro report hopen
    show report.env.access.check _ _ _ = _
    rw [hopen]
    rfl
  have hidle : ∀ report ∈ idleReports, report.Granted busy := by
    simp [idleReports, systemReport, hgranted, surroundingsAt]
  have hmerged : ∀ report ∈ merged, report.Granted busy := by
    simp [merged, systemReport, hgranted, surroundingsAt]
  obtain ⟨hregroup, hfields⟩ :=
    reports_regroup.2.2 busy idleReports (by decide) hidle
  exact ⟨hregroup [[{ healthy := some false }, { memUsed := some 0 }],
    [{ disks := some ∅ }]]
      merged rfl rfl hmerged,
    hfields _ _ .healthy, hfields _ _ .memUsed, hfields _ _ .disks,
    hfields _ _ .memTotal⟩

end Registration

end Fleetkeeper
