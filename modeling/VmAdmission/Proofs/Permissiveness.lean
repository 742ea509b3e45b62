import VmAdmission.Proofs.Judgement
import VmAdmission.Proofs.Paths
import VmAdmission.Proofs.Usability

/-!
# More permissive capabilities

Services are no stricter than others if they hold the same inventory, answer whatever these answer,
and answer it at least as permissively (`Services.NoStricter`). A rule is upheld if an acceptance by
the stricter services is one by the others (`Consult.UpheldBy`): along each path to an acceptance
the more permissive answers lead to one as well. Every rule is, so
`permissiveness_keeps_acceptance`: what is accepted by some services is accepted by all that are no
stricter. It is so with the same queries and the same log. Tables that are at least as permissive,
entry by entry and setting by setting, make such services (`Capabilities.Relaxes.noStricter`).
-/

namespace VmAdmission

/-! ## Answers -/

/-- The second answer of the catalog is at least as permissive as the first. -/
def OsQuery.Relaxes : (q : OsQuery) → q.Answer → q.Answer → Prop
  | .supportsInterface _ _ _, a, b => a = true → b = true
  | .name _, _, _ => True
  | .isWindows _, a, b => b = a
  | .memoryBounds _ _, a, b => b.1 ≤ a.1 ∧ a.2 ≤ b.2
  | .supportsCpu _ _ _, a, b => a = true → b = true

/-- The second answer of the settings is at least as permissive as the first. -/
def SettingsQuery.Relaxes : (q : SettingsQuery) → q.Answer → q.Answer → Prop
  | .supportsFeature _ _, a, b => a = true → b = true
  | .limit _ _, a, b => a ≤ b
  | .maxNameLength _, a, b => a ≤ b
  | .minMemory, a, b => b ≤ a
  | .monitorCounts, a, b => a ⊆ b
  | .allowsProtectedEditing, a, b => a = true → b = true

/-- The second answer is at least as permissive as the first; of the inventory it is the same. -/
def Query.Relaxes : (q : Query) → q.Answer → q.Answer → Prop
  | .inventory _, a, b => b = a
  | .os q, a, b => q.Relaxes a b
  | .settings q, a, b => q.Relaxes a b

/-- With the same inventory, the services `t` answer whatever `s` answer, and at least as
permissively. -/
structure Services.NoStricter (s t : Services) : Prop where
  inventory : ∀ asked q, t asked (.inventory q) = s asked (.inventory q)
  os : ∀ asked q a, s asked (.os q) = .ok a → ∃ b, t asked (.os q) = .ok b ∧ q.Relaxes a b
  settings : ∀ asked q a, s asked (.settings q) = .ok a →
    ∃ b, t asked (.settings q) = .ok b ∧ q.Relaxes a b

variable {s t : Services} {asked after : List Query}

theorem Services.NoStricter.exists_answer (hst : s.NoStricter t) {q : Query} {a : q.Answer}
    (h : s asked q = .ok a) : ∃ b, t asked q = .ok b ∧ q.Relaxes a b := by
  cases q with
  | inventory q => exact ⟨a, (hst.inventory asked q).trans h, rfl⟩
  | os q => exact hst.os asked q a h
  | settings q => exact hst.settings asked q a h

/-! ## Rules that are upheld -/

namespace Consult

/-- The rule accepts on no path. -/
def Bars (c : Consult Verdict) : Prop := c.Keeps (fun _ _ => True) (fun _ => True) (· ≠ .accepted)

@[simp] theorem bars_done {v : Verdict} : (Consult.done v).Bars ↔ v ≠ .accepted := Iff.rfl

/-- Along each path of answers on which the first rule accepts, the second accepts as well, behind
answers that are at least as permissive. -/
inductive UpheldBy : Consult Verdict → Consult Verdict → Prop
  | accepted : UpheldBy (.done .accepted) (.done .accepted)
  | ask {q : Query} {next next' : q.Answer → Consult Verdict}
      (h : ∀ a b, q.Relaxes a b → UpheldBy (next a) (next' b)) :
    UpheldBy (.ask q next) (.ask q next')
  | barred {c c' : Consult Verdict} (h : c.Bars) : UpheldBy c c'

/-- An acceptance by services is one by any that are no stricter, behind the same queries. -/
theorem UpheldBy.run_eq {c c' : Consult Verdict} (h : c.UpheldBy c') (hst : s.NoStricter t)
    (hrun : c.run s asked = (.ok .accepted, after)) : c'.run t asked = (.ok .accepted, after) := by
  induction h generalizing asked with
  | accepted => exact hrun
  | @ask q next next' _ ih =>
    rw [run] at hrun
    cases hq : s asked q with
    | error fault =>
      rw [hq] at hrun
      cases hrun
    | ok a =>
      obtain ⟨b, hb, hab⟩ := hst.exists_answer hq
      rw [hq] at hrun
      rw [run, hb]
      exact ih a b hab hrun
  | barred hbars =>
    exact absurd rfl (hbars.of_run (fun _ _ _ _ => trivial) hrun)

variable {v v' : Verdict}

theorem upheldBy_done (h : v = .accepted → v' = .accepted) :
    (Consult.done v).UpheldBy (.done v') := by
  cases v with
  | accepted =>
    rw [h rfl]
    exact .accepted
  | rejected r => exact .barred (Verdict.noConfusion)

theorem upheldBy_query {q : Query} {f f' : q.Answer → Consult Verdict}
    (h : ∀ a b, q.Relaxes a b → (f a).UpheldBy (f' b)) :
    (query q >>= f).UpheldBy (query q >>= f') :=
  .ask h

/-- Where the inventory is asked, both rules go on with the same answer. -/
theorem upheldBy_inventory {q : InventoryQuery} {f : q.Answer → Consult Verdict}
    (h : ∀ a, (f a).UpheldBy (f a)) :
    (query (.inventory q) >>= f).UpheldBy (query (.inventory q) >>= f) :=
  .ask fun a b hab => by
    rw [show b = a from hab]
    exact h a

/-- An objection on a condition that holds less often under more permissive answers. -/
theorem upheldBy_unless {p p' : Prop} [Decidable p] [Decidable p'] {r r' c c' : Consult Verdict}
    (hr : r.Bars) (hp : p' → p) (hc : c.UpheldBy c') :
    (if p then r else c).UpheldBy (if p' then r' else c') := by
  by_cases h : p
  · rw [if_pos h]
    exact .barred hr
  · rw [if_neg h, if_neg fun h' => h (hp h')]
    exact hc

end Consult

open Consult

/-! ## The rules about disks -/

namespace DiskRule

variable {disk : Disk} {vm : Vm}

theorem upheld_osSupportsInterface {i : DiskInterface} :
    (osSupportsInterface i vm).UpheldBy (osSupportsInterface i vm) := by
  refine upheldBy_query fun a b hab => upheldBy_done fun hacc => ?_
  have ha : a = true := by simpa using hacc
  simp [show b = true from hab ha]

theorem upheld_interfaceCompatibility {vm? : Option Vm} :
    (interfaceCompatibility disk vm?).UpheldBy (interfaceCompatibility disk vm?) := by
  unfold interfaceCompatibility
  split_ifs
  · exact upheldBy_done id
  · exact upheldBy_done id
  · cases vm? with
    | none => exact upheldBy_done id
    | some vm =>
      refine upheldBy_query fun provided provided' hprovided => ?_
      have hprovided : provided = true → provided' = true := hprovided
      refine upheldBy_unless (by simp) (by grind) ?_
      refine upheldBy_inventory fun carried => ?_
      exact upheldBy_unless (by simp) id upheld_osSupportsInterface

theorem upheld_interfaceSupportedForVm {vm? : Option Vm} :
    (interfaceSupportedForVm disk vm?).UpheldBy (interfaceSupportedForVm disk vm?) := by
  unfold interfaceSupportedForVm
  cases vm? with
  | none => exact upheldBy_done id
  | some vm =>
    refine upheldBy_query fun a b hab => ?_
    cases a with
    | false => exact .barred (by simp [Bars, osName, query])
    | true =>
      obtain rfl : b = true := hab rfl
      exact upheldBy_done id

theorem upheld_pluggedOnlyToDownVms {onlyThroughSnapshots : Bool}
    {attachments? : Option (List (Vm × Attachment))} :
    (pluggedOnlyToDownVms disk onlyThroughSnapshots attachments?).UpheldBy
      (pluggedOnlyToDownVms disk onlyThroughSnapshots attachments?) := by
  cases attachments? with
  | none => exact upheldBy_inventory fun attachments => upheldBy_done id
  | some attachments => exact upheldBy_done id

end DiskRule

/-! ## The rules about updates of machines -/

namespace VmChange

variable {ch : VmChange}

theorem upheld_name : ch.name.UpheldBy ch.name := by
  simp only [name]
  split_ifs
  · exact upheldBy_done id
  · exact upheldBy_done id
  · refine upheldBy_query fun windows windows' hwindows => ?_
    obtain rfl : windows' = windows := hwindows
    refine upheldBy_query fun greatest greatest' hle => ?_
    have hle : greatest.toNat ≤ greatest'.toNat := UInt64.le_iff_toNat_le.1 hle
    exact upheldBy_unless (by simp) (fun hlong => by omega) (upheldBy_done id)

theorem upheld_nameUnique : ch.nameUnique.UpheldBy ch.nameUnique := by
  unfold nameUnique
  split_ifs
  · exact upheldBy_done id
  · exact upheldBy_inventory fun inUse => upheldBy_done id

/-- Neither of the two least sizes has grown, so neither has the larger of them. -/
theorem upheld_memory : ch.memory.UpheldBy ch.memory := by
  refine upheldBy_query fun bounds bounds' hbounds => ?_
  obtain ⟨hosLeast, hgreatest⟩ : bounds'.1 ≤ bounds.1 ∧ bounds.2 ≤ bounds'.2 := hbounds
  refine upheldBy_query fun least least' hleast => ?_
  have hleast : least' ≤ least := hleast
  have hmax : max bounds'.1 least' ≤ max bounds.1 least := by
    rw [UInt64.le_iff_toNat_le] at hosLeast hleast ⊢
    rw [UInt64.toNat_max, UInt64.toNat_max]
    omega
  refine upheldBy_unless (by simp) ?_ (upheldBy_done id)
  rintro (hlow | hhigh)
  · exact .inl (UInt64.lt_of_lt_of_le hlow hmax)
  · exact .inr (UInt64.lt_of_le_of_lt hgreatest hhigh)

theorem upheld_monitors : ch.monitors.UpheldBy ch.monitors := by
  refine upheldBy_query fun counts counts' hsub => upheldBy_done fun hacc => ?_
  have hcounts : counts ⊆ counts' := hsub
  have hmem : ch.proposed.numOfMonitors ∈ counts := by simpa using hacc
  simpa using hcounts hmem

theorem upheld_withinLimits {topology : CpuTopology} {v : Version} {limits : List CpuLimit} :
    (withinLimits topology v limits).UpheldBy (withinLimits topology v limits) := by
  induction limits with
  | nil => exact upheldBy_done id
  | cons l limits ih =>
    refine upheldBy_query fun greatest greatest' hle => ?_
    have hle : greatest.toNat ≤ greatest'.toNat := UInt32.le_iff_toNat_le.1 hle
    refine upheldBy_unless (by simp) (fun hexceeds => ?_) ih
    rw [UInt64.lt_iff_toNat_lt, UInt32.toNat_toUInt64] at hexceeds ⊢
    omega

theorem upheld_cpuTopology : ch.cpuTopology.UpheldBy ch.cpuTopology := by
  unfold cpuTopology
  split_ifs
  · exact upheldBy_done id
  · exact upheld_withinLimits

theorem upheld_hostsInCluster {cluster : Uuid} {ids : List Uuid} :
    (hostsInCluster cluster ids).UpheldBy (hostsInCluster cluster ids) := by
  induction ids with
  | nil => exact upheldBy_done id
  | cons first ids ih =>
    refine upheldBy_inventory fun found => ?_
    cases found with
    | none => exact upheldBy_done id
    | some host => exact upheldBy_unless (by simp) id ih

theorem upheld_cpuSupported : ch.cpuSupported.UpheldBy ch.cpuSupported := by
  unfold cpuSupported
  cases ch.proposed.cpuName.or ch.cluster.cpuName with
  | none => exact upheldBy_done id
  | some cpu =>
    refine upheldBy_query fun a b hab => ?_
    cases a with
    | false => exact .barred (by simp [Bars, osName, query])
    | true =>
      obtain rfl : b = true := hab rfl
      exact upheldBy_done id

theorem upheld_migrationWithReservation :
    ch.migrationWithReservation.UpheldBy ch.migrationWithReservation := by
  unfold migrationWithReservation
  split_ifs
  · exact upheldBy_done id
  · exact upheldBy_inventory fun disks => upheldBy_done id

theorem upheld_virtioScsiUnused : ch.virtioScsiUnused.UpheldBy ch.virtioScsiUnused :=
  upheldBy_inventory fun _ => upheldBy_done id

theorem upheld_virtioScsiSupported : ch.virtioScsiSupported.UpheldBy ch.virtioScsiSupported := by
  refine upheldBy_query fun a b hab => upheldBy_done fun hacc => ?_
  have ha : a = true := by simpa using hacc
  simp [show b = true from hab ha]

theorem upheld_hostedEngineEditable :
    ch.hostedEngineEditable.UpheldBy ch.hostedEngineEditable := by
  unfold hostedEngineEditable
  split_ifs
  · exact upheldBy_done id
  · refine upheldBy_query fun a b hab => upheldBy_done fun hacc => ?_
    have ha : a = true := by simpa using hacc
    simp [show b = true from hab ha]

end VmChange

/-! ## Plans and decisions -/

/-- Every rule of a plan is upheld. -/
abbrev Plan.Upheld : Plan → Prop := Plan.EachRule fun rule => rule.UpheldBy rule

namespace Operation

/-- While a plan is loaded, only the inventory is asked; and whatever it answers, the rules of the
plan are upheld. -/
theorem upheld_plan (op : Operation) :
    op.plan.Keeps (fun _ _ => True) (fun q => q.service = .inventory) Plan.Upheld := by
  have hrejected (reason : Reason) : Plan.Upheld (.rejected reason) := trivial
  have hdone (verdict : Verdict) : (Consult.done verdict).UpheldBy (.done verdict) :=
    upheldBy_done id
  cases op with
  | updateVm u =>
    exact keeps_updateVmPlan hrejected rfl (fun _ _ => rfl) fun _ _ _ =>
      eachRule_vmSteps hdone VmChange.upheld_name VmChange.upheld_memory VmChange.upheld_monitors
        VmChange.upheld_cpuTopology VmChange.upheld_nameUnique VmChange.upheld_hostsInCluster
        VmChange.upheld_cpuSupported VmChange.upheld_virtioScsiUnused
        VmChange.upheld_virtioScsiSupported VmChange.upheld_hostedEngineEditable
        VmChange.upheld_migrationWithReservation
  | attachDisk disk vmId snapshotId =>
    exact keeps_attachPlan hrejected rfl rfl rfl fun _ _ _ _ => eachRule_attachSteps hdone
      DiskRule.upheld_interfaceCompatibility DiskRule.upheld_interfaceSupportedForVm
  | updateDisk disk vmId =>
    exact keeps_updateDiskPlan hrejected rfl rfl (fun _ _ => rfl)
      fun _ _ _ _ _ => eachRule_updateDiskSteps hdone DiskRule.upheld_interfaceCompatibility
        DiskRule.upheld_interfaceSupportedForVm
  | detachDisk diskId vmId =>
    exact keeps_detachPlan hrejected rfl rfl rfl fun _ _ => eachRule_detachSteps hdone
  | removeDisk diskId =>
    exact keeps_removePlan hrejected rfl rfl fun _ _ => eachRule_removeSteps hdone
  | removeDiskSnapshots diskId =>
    exact keeps_removeSnapshotsPlan hrejected rfl fun _ _ =>
      eachRule_removeSnapshotsSteps hdone DiskRule.upheld_pluggedOnlyToDownVms

end Operation

/-! ## Runs -/

/-- A checklist of upheld rules that accepts runs the same by services that are no stricter: the
first rule is upheld and leaves the same queries behind, and the others go on from there. -/
theorem Step.foldl_eq_of_accepted {steps : List Step} (hst : s.NoStricter t)
    (hsteps : ∀ step ∈ steps, step.rule.UpheldBy step.rule) (events : List Event)
    (hacc : ((steps.map (toCheck s)).foldl Checklist.Progress.step ⟨none, asked, events⟩).result =
      .ok .accepted) :
    (steps.map (toCheck t)).foldl Checklist.Progress.step ⟨none, asked, events⟩ =
      (steps.map (toCheck s)).foldl Checklist.Progress.step ⟨none, asked, events⟩ := by
  induction steps generalizing asked events with
  | nil => rfl
  | cons first steps ih =>
    rw [List.forall_mem_cons] at hsteps
    rw [List.map_cons, List.foldl_cons] at hacc
    rw [List.map_cons, List.map_cons, List.foldl_cons, List.foldl_cons]
    by_cases ha : first.applies = true
    · rw [step_of_applies ha] at hacc
      rw [step_of_applies ha, step_of_applies ha]
      simp only [Checklist.Progress.perform, toCheck] at hacc ⊢
      rcases hrun : first.rule.run s asked with ⟨fault | verdict, after⟩
      · rw [hrun] at hacc
        rw [Checklist.Progress.foldl_step_of_stopped rfl] at hacc
        cases hacc
      · cases verdict with
        | accepted =>
          rw [hrun] at hacc
          rw [hsteps.1.run_eq hst hrun]
          exact ih hsteps.2 _ hacc
        | rejected r =>
          rw [hrun] at hacc
          rw [Checklist.Progress.foldl_step_of_stopped rfl] at hacc
          cases hacc
    · rw [step_of_not_applies ha] at hacc
      rw [step_of_not_applies ha, step_of_not_applies ha]
      exact ih hsteps.2 events hacc

theorem Plan.Upheld.run_eq {plan : Plan} (h : plan.Upheld) (hst : s.NoStricter t)
    (hacc : (plan.run s asked).1 = .ok .accepted) : plan.run t asked = plan.run s asked := by
  cases plan with
  | settled verdict => rfl
  | checks steps =>
    have hrun : Checklist.run (steps.map (Step.toCheck t)) asked =
        Checklist.run (steps.map (Step.toCheck s)) asked :=
      Step.foldl_eq_of_accepted hst h [] hacc
    simp only [run, hrun]

/-- A decision to accept is the same by services that are no stricter: what was asked and what was
logged included. -/
theorem Operation.decision_eq_of_noStricter {op : Operation} (hst : s.NoStricter t)
    (hacc : (op.decision s asked).result = .ok .accepted) :
    op.decision t asked = op.decision s asked := by
  have hload : op.plan.run t asked = op.plan.run s asked := by
    refine (op.upheld_plan.run_congr (fun _ _ _ _ => trivial) fun asked q hq => ?_).symm
    cases q with
    | inventory q => exact (hst.inventory asked q).symm
    | os q => simp [Query.service, Service.os, Service.inventory] at hq
    | settings q => simp [Query.service, Service.settings, Service.inventory] at hq
  unfold decision at hacc ⊢
  rw [hload]
  rcases hplan : op.plan.run s asked with ⟨fault | plan, after⟩
  · rfl
  · rw [hplan] at hacc
    have hupheld : plan.Upheld := op.upheld_plan.of_run (fun _ _ _ _ => trivial) hplan
    simp only [hupheld.run_eq hst hacc]

/-- **Permissiveness.** An operation that is accepted is accepted as well where, with the same
inventory, the catalog of operating systems and the settings answer whatever they answered, and at
least as permissively. -/
theorem permissiveness_keeps_acceptance {s t : Services} (hst : s.NoStricter t) (op : Operation)
    (asked : List Query) (hacc : (op.decision s asked).result = .ok .accepted) :
    (op.decision t asked).result = .ok .accepted := by
  rw [Operation.decision_eq_of_noStricter hst hacc]
  exact hacc

/-! ## More permissive tables -/

/-- The second entry of an operating system is at least as permissive as the first, at every
version. -/
structure OsEntry.Relaxes (os os' : OsEntry) : Prop where
  isWindows : os'.isWindows = os.isWindows
  interfaces : ∀ v, os.diskInterfacesAt v ⊆ os'.diskInterfacesAt v
  minMemory : ∀ v, os'.minMemoryMbAt v ≤ os.minMemoryMbAt v
  maxMemory : ∀ v, os.maxMemoryMbAt v ≤ os'.maxMemoryMbAt v
  cpus : ∀ v, os'.unsupportedCpusAt v ⊆ os.unsupportedCpusAt v

/-- The second tables are at least as permissive as the first: they know each operating system and
set each limit that the first do. -/
structure Capabilities.Relaxes (c c' : Capabilities) : Prop where
  os : ∀ id os, c.os? id = some os → ∃ os', c'.os? id = some os' ∧ os.Relaxes os'
  features : ∀ f v, c.isFeatureSupported f v = true → c'.isFeatureSupported f v = true
  limits : ∀ setting v n, c.settings.limit? setting v = some n →
    ∃ n', c'.settings.limit? setting v = some n' ∧ n ≤ n'
  nameLengths : ∀ isWindows,
    c.settings.maxVmNameLength isWindows ≤ c'.settings.maxVmNameLength isWindows
  minMemory : c'.settings.vmMinMemoryMb ≤ c.settings.vmMinMemoryMb
  monitors : c.settings.validNumOfMonitors ⊆ c'.settings.validNumOfMonitors
  editing : c.settings.allowEditingHostedEngine = true →
    c'.settings.allowEditingHostedEngine = true

theorem OsEntry.Relaxes.refl (os : OsEntry) : os.Relaxes os where
  isWindows := rfl
  interfaces := fun _ => List.Subset.refl _
  minMemory := fun _ => UInt64.le_refl _
  maxMemory := fun _ => UInt64.le_refl _
  cpus := fun _ => List.Subset.refl _

namespace Capabilities.Relaxes

variable {c c' : Capabilities} (h : c.Relaxes c')

include h

theorem answerOs {q : OsQuery} {a : q.Answer} (ha : c.answerOs q = .ok a) :
    ∃ b, c'.answerOs q = .ok b ∧ q.Relaxes a b := by
  -- the answer is read off an entry, and there is an entry to read the other one off
  have hentry {β : Type} {id : OsId} {f : OsEntry → β} {x : β} (hx : (c.os id).map f = .ok x) :
      ∃ os os', f os = x ∧ os.Relaxes os' ∧ (c'.os id).map f = .ok (f os') := by
    obtain ⟨os, hos, hx⟩ := map_eq_ok_iff.1 hx
    obtain ⟨os', hos', hrelaxes⟩ := h.os id os (os_eq_ok_iff.1 hos)
    exact ⟨os, os', hx, hrelaxes, map_eq_ok_iff.2 ⟨os', os_eq_ok_iff.2 hos', rfl⟩⟩
  cases q with
  | supportsInterface id v i =>
    obtain ⟨os, os', rfl, hrelaxes, hb⟩ := hentry ha
    refine ⟨_, hb, fun hi => ?_⟩
    rw [List.contains_iff_mem] at hi ⊢
    exact hrelaxes.interfaces v hi
  | name id =>
    obtain ⟨os, os', rfl, -, hb⟩ := hentry ha
    exact ⟨_, hb, trivial⟩
  | isWindows id =>
    obtain ⟨os, os', rfl, hrelaxes, hb⟩ := hentry ha
    exact ⟨_, hb, hrelaxes.isWindows⟩
  | memoryBounds id v =>
    obtain ⟨os, os', rfl, hrelaxes, hb⟩ := hentry ha
    exact ⟨_, hb, hrelaxes.minMemory v, hrelaxes.maxMemory v⟩
  | supportsCpu id v cpu =>
    obtain ⟨os, os', rfl, hrelaxes, hb⟩ := hentry ha
    refine ⟨_, hb, fun hcpu => ?_⟩
    simp only [Bool.not_eq_true', List.contains_eq_mem, decide_eq_false_iff_not] at hcpu ⊢
    exact fun hmem => hcpu (hrelaxes.cpus v hmem)

theorem answerSettings {q : SettingsQuery} {a : q.Answer} (ha : c.answerSettings q = .ok a) :
    ∃ b, c'.answerSettings q = .ok b ∧ q.Relaxes a b := by
  cases q with
  | supportsFeature f v =>
    cases ha
    exact ⟨_, rfl, h.features f v⟩
  | limit setting v =>
    obtain ⟨n', hn', hle⟩ := h.limits setting v a (answerSettings_limit_eq_ok_iff.1 ha)
    exact ⟨n', answerSettings_limit_eq_ok_iff.2 hn', hle⟩
  | maxNameLength isWindows =>
    cases ha
    exact ⟨_, rfl, h.nameLengths isWindows⟩
  | minMemory =>
    cases ha
    exact ⟨_, rfl, h.minMemory⟩
  | monitorCounts =>
    cases ha
    exact ⟨_, rfl, h.monitors⟩
  | allowsProtectedEditing =>
    cases ha
    exact ⟨_, rfl, h.editing⟩

/-- With one inventory, the more permissive tables make services that are no stricter. -/
theorem noStricter (inv : Inventory) :
    (Answers.ofTables inv c).toServices.NoStricter (Answers.ofTables inv c').toServices where
  inventory := fun _ _ => rfl
  os := fun _ _ _ ha => h.answerOs ha
  settings := fun _ _ _ ha => h.answerSettings ha

end Capabilities.Relaxes

namespace Permissiveness

/-- The built-in tables with another operating system, longer names, less memory, three monitors and
protected editing. -/
def generous : Capabilities :=
  { Capabilities.builtIn with
    settings :=
      { Capabilities.builtIn.settings with
        maxVmNameLengthWindows := 63
        maxVmNameLengthNonWindows := 255
        vmMinMemoryMb := 1
        validNumOfMonitors := 3 :: Capabilities.builtIn.settings.validNumOfMonitors
        allowEditingHostedEngine := true }
    operatingSystems := Capabilities.builtIn.operatingSystems ++
      [{ id := 12
         name := "Windows Vista"
         isWindows := true
         architecture := .x86_64
         minMemoryMb := 512
         maxMemoryMb := 4096
         diskInterfaces := [.ide]
         unsupportedCpus := []
         versions := [] }] }

theorem builtIn_relaxes_generous : Capabilities.builtIn.Relaxes generous where
  os := by
    intro id os hos
    refine ⟨os, ?_, .refl os⟩
    unfold Capabilities.os? at hos ⊢
    rw [generous, List.find?_append, hos]
    rfl
  features := fun _ _ => id
  limits := fun _ _ n hn => ⟨n, hn, UInt32.le_refl n⟩
  nameLengths := by decide
  minMemory := by decide
  monitors := List.subset_cons_self _ _
  editing := fun _ => rfl

end Permissiveness

open Usability Permissiveness in
/-- A machine's update that the built-in tables admit is admitted by the generous ones. -/
theorem permissiveness_keeps_update :
    (Operation.updateVm ⟨linux, some true⟩).judge (alone older) .builtIn = .ok .accepted ∧
    (Operation.updateVm ⟨linux, some true⟩).judge (alone older) generous = .ok .accepted := by
  have hacc : (Operation.updateVm ⟨linux, some true⟩).judge (alone older) .builtIn =
      .ok .accepted := by
    decide +kernel
  have hst : (Answers.ofTables (alone older) .builtIn).toServices.NoStricter
      (Answers.ofTables (alone older) generous).toServices :=
    builtIn_relaxes_generous.noStricter (alone older)
  exact ⟨hacc, permissiveness_keeps_acceptance hst (.updateVm ⟨linux, some true⟩) [] hacc⟩

end VmAdmission
