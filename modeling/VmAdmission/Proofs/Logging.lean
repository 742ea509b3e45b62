import VmAdmission.Proofs.HostedEngine
import VmAdmission.Proofs.Paths

/-!
# What the log tells

The records of a decision tell which checks ran and what came of them. `Operation.Ran` says the same
without the log: what was loaded, which rules were run one after another, and how that ended. The
two agree, whatever the services answer (`log_follows_decision`): one record for each check that
ran, one for the check that stopped the others, if one did, and a last one for the verdict, if there
is one.
-/

namespace VmAdmission

variable {services : Services} {asked : List Query}

/-! ## Rules that are run -/

/-- Rules run one after another, behind the queries asked so far: those that accepted, the one that
stopped the others, if one did, the result, and all the queries asked by then. A rule that does not
apply is passed over, and no rule is run behind one that stops. -/
inductive Step.Ran (services : Services) :
    List Query → List Step → List Step → Option Step → Except Fault Verdict → List Query → Prop
  | finished {asked : List Query} : Ran services asked [] [] none (.ok .accepted) asked
  | skipped {asked after : List Query} {s : Step} {steps passed : List Step} {stop? : Option Step}
    {result : Except Fault Verdict} (happlies : s.applies = false)
    (h : Ran services asked steps passed stop? result after) :
    Ran services asked (s :: steps) passed stop? result after
  | passed {asked before after : List Query} {s : Step} {steps passed : List Step}
    {stop? : Option Step} {result : Except Fault Verdict} (happlies : s.applies = true)
    (hrule : s.rule.run services asked = (.ok .accepted, before))
    (h : Ran services before steps passed stop? result after) :
    Ran services asked (s :: steps) (s :: passed) stop? result after
  | stopped {asked after : List Query} {s : Step} {steps : List Step}
    {result : Except Fault Verdict} (happlies : s.applies = true)
    (hrule : s.rule.run services asked = (result, after)) (hresult : result ≠ .ok .accepted) :
    Ran services asked (s :: steps) [] (some s) result after

/-- The rules that ran are the first of those that apply. -/
theorem Step.Ran.isPrefix {steps passed : List Step} {stop? : Option Step}
    {result : Except Fault Verdict} {after : List Query}
    (h : Ran services asked steps passed stop? result after) :
    passed ++ stop?.toList <+: steps.filter Step.applies := by
  induction h with
  | finished => exact List.prefix_refl _
  | skipped happlies _ ih => rwa [List.filter_cons_of_neg (by simp [happlies])]
  | passed happlies _ _ ih =>
    rw [List.filter_cons_of_pos happlies, List.cons_append, List.cons_prefix_cons]
    exact ⟨rfl, ih⟩
  | @stopped _ _ s steps _ happlies _ _ =>
    rw [List.filter_cons_of_pos happlies]
    exact List.prefix_append [s] _

/-! ## Lines -/

/-- How a record reads: its level, its wording, and its values by name. -/
abbrev LogLine := String × String × List (String × String)

/-- The line of a record. -/
def LogRecord.line (r : LogRecord) : LogLine := (r.event.level, r.event.message, r.fields)

namespace LogLine

variable (context : List (String × String))

/-- The line of a check that is run. -/
def running (s : Step) : LogLine := ("DEBUG", "running check", context ++ [("check", s.name)])

/-- The line about the check that stopped the others. -/
def stopping : Option Step → Except Fault Verdict → List LogLine
  | some s, .ok (.rejected r) => [("INFO", "check rejected operation",
      context ++ [("check", s.name), ("reason", "Some(" ++ r.reason.label ++ ")")])]
  | some s, .error fault => [("WARNING", "check could not complete",
      context ++ [("check", s.name), ("error", fault.message)])]
  | _, _ => []

/-- The last line, which a fault does not have. -/
def closing : Except Fault Verdict → List LogLine
  | .ok .accepted => [("INFO", "operation accepted", context)]
  | .ok (.rejected r) => [("INFO", "operation rejected", context ++ [("reason", r.reason.code)])]
  | .error _ => []

end LogLine

namespace Step

variable (context : List (String × String)) (events : List Event) {s : Step} {before : List Query}

/-- A rule that accepts is logged as run. -/
theorem perform_of_accepted (hrule : s.rule.run services asked = (.ok .accepted, before)) :
    Checklist.Progress.perform ⟨none, asked, events⟩ (toCheck services s) =
      ⟨none, before, events ++ [.running s.name]⟩ := by
  simp only [Checklist.Progress.perform, toCheck, hrule]

/-- A rule that does not accept is logged as run and as what stopped the checklist. -/
theorem exists_perform_of_stopped {result : Except Fault Verdict}
    (hrule : s.rule.run services asked = (result, before)) (hresult : result ≠ .ok .accepted) :
    ∃ added, Checklist.Progress.perform ⟨none, asked, events⟩ (toCheck services s) =
        ⟨some result, before, events ++ added⟩ ∧
      added.map (LogRecord.line ⟨context, ·⟩) =
        LogLine.running context s :: LogLine.stopping context (some s) result := by
  simp only [Checklist.Progress.perform, toCheck, hrule]
  rcases result with fault | (_ | r)
  · exact ⟨[.running s.name, .incomplete s.name fault], rfl, rfl⟩
  · exact absurd rfl hresult
  · exact ⟨[.running s.name, .objected s.name r.reason], rfl, rfl⟩

/-- The events of a checklist that has not stopped tell which of its rules are run. -/
theorem exists_ran (steps : List Step) (asked : List Query) :
    let progress := (steps.map (toCheck services)).foldl Checklist.Progress.step
      ⟨none, asked, events⟩
    ∃ passed stop?, Ran services asked steps passed stop? progress.result progress.state ∧
      progress.events.map (LogRecord.line ⟨context, ·⟩) =
        events.map (LogRecord.line ⟨context, ·⟩) ++
          (passed ++ stop?.toList).map (LogLine.running context) ++
          LogLine.stopping context stop? progress.result := by
  induction steps generalizing asked events with
  | nil => exact ⟨[], none, .finished, by simp [LogLine.stopping]⟩
  | cons s steps ih =>
    rw [List.map_cons, List.foldl_cons]
    by_cases ha : s.applies = true
    · rw [step_of_applies ha]
      rcases hrule : s.rule.run services asked with ⟨result, before⟩
      by_cases hresult : result = .ok .accepted
      · subst hresult
        rw [perform_of_accepted events hrule]
        obtain ⟨passed, stop?, hran, hlines⟩ := ih (events ++ [.running s.name]) before
        refine ⟨s :: passed, stop?, .passed ha hrule hran, ?_⟩
        have hrunning : LogRecord.line ⟨context, .running s.name⟩ = LogLine.running context s := rfl
        rw [hlines]
        simp [hrunning]
      · obtain ⟨added, hperform, hadded⟩ :=
          exists_perform_of_stopped context events hrule hresult
        rw [hperform, Checklist.Progress.foldl_step_of_stopped rfl]
        refine ⟨[], some s, .stopped ha hrule hresult, ?_⟩
        rw [List.map_append, hadded]
        simp [Checklist.Progress.result]
    · rw [step_of_not_applies ha]
      obtain ⟨passed, stop?, hran, hlines⟩ := ih events asked
      exact ⟨passed, stop?, .skipped (by simpa using ha) hran, hlines⟩

end Step

/-! ## The checks of an operation -/

namespace Operation

/-- The checks of an operation, in their fixed order. -/
def checkNames : Operation → List String
  | .updateVm _ => ["name", "memory", "monitors", "cpu_topology", "name_unique",
    "cluster_unchanged", "dedicated_hosts", "cpu_supported", "virtio_scsi_disable",
    "virtio_scsi_enable", "hosted_engine_editable", "scsi_reservation_migration"]
  | .attachDisk _ _ _ => ["not_infrastructure_store", "not_protected_infrastructure_disk",
    "snapshot_storage_type", "not_already_attached", "read_only_interface",
    "interface_compatibility", "interface_supported_for_vm", "scsi_reservation"]
  | .updateDisk _ _ => ["not_infrastructure_store", "not_protected_infrastructure_disk",
    "read_only_interface", "interface_compatibility", "interface_supported_for_vm",
    "scsi_reservation", "plugged_only_to_down_vms"]
  | .detachDisk _ _ | .removeDisk _ => ["not_infrastructure_store", "removable_protected_disks",
    "plugged_only_to_down_vms"]
  | .removeDiskSnapshots _ => ["not_infrastructure_store", "plugged_only_to_down_vms"]

/-- The checks among them that do not always apply. -/
def conditionalChecks : Operation → List String
  | .updateVm _ => ["virtio_scsi_disable", "virtio_scsi_enable"]
  | .attachDisk _ _ _ => ["snapshot_storage_type"]
  | .updateDisk _ _ => ["interface_supported_for_vm", "plugged_only_to_down_vms"]
  | .detachDisk _ _ | .removeDisk _ | .removeDiskSnapshots _ => []

/-- What a plan holds: a rejection, or the operation's checks, of which only conditional ones may
not apply. -/
def Lists (op : Operation) : Plan → Prop
  | .settled verdict => ∃ reason, verdict = .reject reason
  | .checks steps => steps.map Step.name = op.checkNames ∧
      ∀ s ∈ steps, s.applies = false → s.name ∈ op.conditionalChecks

/-- Whatever is answered, the plan holds the operation's checks if it holds any. -/
theorem keeps_lists (op : Operation) :
    op.plan.Keeps (fun _ _ => True) (fun _ => True) op.Lists := by
  have hrejected (reason : Reason) : op.Lists (.rejected reason) := ⟨reason, rfl⟩
  cases op with
  | updateVm u =>
    refine keeps_updateVmPlan hrejected trivial (fun _ _ => trivial) fun current cluster _ =>
      ⟨rfl, ?_⟩
    simp [vmSteps, conditionalChecks]
  | attachDisk disk vmId snapshotId =>
    refine keeps_attachPlan hrejected trivial trivial trivial fun vm stored attachments _ =>
      ⟨rfl, ?_⟩
    simp [attachSteps, conditionalChecks]
  | updateDisk disk vmId? =>
    refine keeps_updateDiskPlan hrejected trivial trivial (fun _ _ => trivial)
      fun stored vm? attachments _ _ => ⟨rfl, ?_⟩
    simp [updateDiskSteps, conditionalChecks]
  | detachDisk diskId vmId =>
    refine keeps_detachPlan hrejected trivial trivial trivial fun disk joined => ⟨rfl, ?_⟩
    simp [detachSteps, conditionalChecks]
  | removeDisk diskId =>
    refine keeps_removePlan hrejected trivial trivial fun disk attachments => ⟨rfl, ?_⟩
    simp [removeSteps, conditionalChecks]
  | removeDiskSnapshots diskId =>
    refine keeps_removeSnapshotsPlan hrejected trivial fun disk _ => ⟨rfl, ?_⟩
    simp [removeSnapshotsSteps, conditionalChecks]

/-- What is done for an operation, behind the queries asked so far: nothing is run where loading
meets a fault or finds something missing, and otherwise the checks on the operation's list are run
one after another. -/
inductive Ran (services : Services) (asked : List Query) (op : Operation) :
    List Step → Option Step → Except Fault Verdict → List Query → Prop
  | unloaded {fault : Fault} {after : List Query}
    (hload : op.plan.run services asked = (.error fault, after)) :
    Ran services asked op [] none (.error fault) after
  | settled {reason : Reason} {after : List Query}
    (hload : op.plan.run services asked = (.ok (.rejected reason), after)) :
    Ran services asked op [] none (.ok (.reject reason)) after
  | checked {steps passed : List Step} {stop? : Option Step} {result : Except Fault Verdict}
    {loaded after : List Query}
    (hload : op.plan.run services asked = (.ok (.checks steps), loaded))
    (hlists : op.Lists (.checks steps))
    (h : Step.Ran services loaded steps passed stop? result after) :
    Ran services asked op passed stop? result after

/-- The checks that ran stand in the operation's order. -/
theorem Ran.names_sublist {op : Operation} {passed : List Step} {stop? : Option Step}
    {result : Except Fault Verdict} {after : List Query}
    (h : op.Ran services asked passed stop? result after) :
    ((passed ++ stop?.toList).map Step.name).Sublist op.checkNames := by
  cases h with
  | unloaded _ | settled _ => exact List.nil_sublist _
  | checked _ hlists h =>
    rw [← hlists.1]
    exact (h.isPrefix.sublist.trans List.filter_sublist).map Step.name

/-- The log of a decision tells what was done for the operation, whatever the services answer: each
check that ran is logged in its order, then what stopped them, then the verdict. -/
theorem log_follows_decision (op : Operation) (services : Services) (asked : List Query) :
    let decision := op.decision services asked
    ∃ passed stop?, op.Ran services asked passed stop? decision.result decision.asked ∧
      ((passed ++ stop?.toList).map Step.name).Sublist op.checkNames ∧
      decision.log.map LogRecord.line =
        (passed ++ stop?.toList).map (LogLine.running op.checkContext) ++
          LogLine.stopping op.checkContext stop? decision.result ++
          LogLine.closing op.context decision.result := by
  have hclosing (result : Except Fault Verdict) :
      (op.closingLog result).map LogRecord.line = LogLine.closing op.context result := by
    rcases result with fault | (_ | r) <;>
      simp [closingLog, LogLine.closing, LogRecord.line, LogRecord.fields, Event.ofVerdict,
        Event.level, Event.message, Event.fields]
  rcases hload : op.plan.run services asked with ⟨fault | plan, loaded⟩
  · have hdecision : op.decision services asked = ⟨.error fault, loaded, []⟩ := by
      simp [decision, hload]
    rw [hdecision]
    exact ⟨[], none, .unloaded hload, List.nil_sublist _, rfl⟩
  · have hlists : op.Lists plan := op.keeps_lists.of_run (fun _ _ _ _ => trivial) hload
    cases plan with
    | settled verdict =>
      obtain ⟨reason, rfl⟩ := hlists
      have hdecision : op.decision services asked =
          ⟨.ok (.reject reason), loaded, op.closingLog (.ok (.reject reason))⟩ := by
        simp [decision, hload, Plan.run]
      rw [hdecision]
      exact ⟨[], none, .settled hload, List.nil_sublist _, by rw [hclosing]; rfl⟩
    | checks steps =>
      obtain ⟨passed, stop?, hran, hlines⟩ :=
        Step.exists_ran op.checkContext [] steps loaded
      have hran : op.Ran services asked passed stop? _ _ := .checked hload hlists hran
      simp only [decision, hload]
      refine ⟨passed, stop?, hran, hran.names_sublist, ?_⟩
      rw [List.map_append, List.map_map, hclosing]
      exact congrArg (· ++ _) hlines

/-- The log of a detachment from the hosted-engine machine: two checks run, of which the second
rejects. -/
example :
    let context := [("operation", "detach_disk"),
      ("disk_id", "44444444-4444-4444-4444-444444444444"),
      ("vm_id", "11111111-1111-1111-1111-111111111111")]
    ((detachDisk HostedEngine.data.id HostedEngine.engine.id).decision
        (Answers.ofTables HostedEngine.inventory .builtIn).toServices []).log.map LogRecord.line =
      [("DEBUG", "running check", context ++ [("check", "not_infrastructure_store")]),
        ("DEBUG", "running check", context ++ [("check", "removable_protected_disks")]),
        ("INFO", "check rejected operation",
          context ++ [("check", "removable_protected_disks"),
            ("reason", "Some(ActionTypeFailedHostedEngineDisk)")]),
        ("INFO", "operation rejected",
          [("operation", "detach_disk"),
            ("reason", "ACTION_TYPE_FAILED_HOSTED_ENGINE_DISK")])] := by
  decide +kernel

end Operation

end VmAdmission
