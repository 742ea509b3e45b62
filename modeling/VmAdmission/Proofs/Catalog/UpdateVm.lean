import VmAdmission.Proofs.Loading
import VmAdmission.Proofs.Rule.Objections
import VmAdmission.Proofs.Rule.VmUpdate

/-!
# The catalog for updates of machines

`VmChange.Admissible` is the list of everything that an update must satisfy, said of the rows and
tables alone. `updateVm_decided_by_catalog`: an update is accepted exactly if its machine and the
machine's cluster are stored and the change is admissible; otherwise the first rule that does not
pass decides. Which reason that gives, and with which values, is read off the objections in order
(`updateVm_settled_by_objections`).
-/

namespace VmAdmission

variable {inv : Inventory} {c : Capabilities}

/-- A change of a machine that breaks no rule, for the entry of the proposed guest operating
system. -/
structure VmChange.Admissible (inv : Inventory) (c : Capabilities) (os : OsEntry) (ch : VmChange)
    (virtioScsiEnabled : Option Bool) : Prop where
  name : LegalName c os ch.proposed.name
  memory : LegalMemory c os ch.version ch.proposed.memoryMb
  monitors : ch.proposed.numOfMonitors ∈ c.settings.validNumOfMonitors
  topology : LegalTopology c ch.version ch.proposed.cpuTopology
  name_free : ch.proposed.name = ch.current.name ∨
    ∀ vm ∈ inv.vms, vm.storagePoolId = ch.current.storagePoolId → vm.name ≠ ch.proposed.name
  cluster_kept : ch.proposed.clusterId = ch.current.clusterId
  hosts : ∀ id ∈ ch.proposed.dedicatedHosts,
    ∃ host, inv.host? id = some host ∧ host.clusterId = ch.cluster.id
  /-- The proposed processor model, or else the cluster's, runs the guest operating system. -/
  cpu : ∀ cpu, ch.proposed.cpuName.or ch.cluster.cpuName = some cpu →
    cpu ∉ os.unsupportedCpusAt ch.version
  /-- Turned off, VirtIO-SCSI is on no disk plugged into the machine, and each of these exists. -/
  virtioScsi_unused : virtioScsiEnabled = some false → ∀ a, inv.IsPluggedInto ch.current.id a →
    ∃ disk, inv.disk? a.diskId = some disk ∧ disk.interface ≠ .virtioScsi
  virtioScsi_supported : virtioScsiEnabled = some true →
    .virtioScsi ∈ os.diskInterfacesAt ch.version
  editable :
    ch.current.origin = .managedHostedEngine ∨ ch.proposed.origin = .managedHostedEngine →
      c.settings.allowEditingHostedEngine = true
  /-- A machine that is to be migratable has no reservation through a disk plugged into it, and each
  of these exists. -/
  reservation_free : ch.proposed.migrationSupport = .migratable →
    ∀ a, inv.IsPluggedInto ch.current.id a →
      (∃ disk, inv.disk? a.diskId = some disk) ∧ a.usingScsiReservation = false

/-- The rules pass together exactly if the change is admissible. -/
theorem Operation.vmSteps_pass_iff {ch : VmChange} {virtioScsiEnabled : Option Bool} :
    (∀ s ∈ vmSteps ch virtioScsiEnabled, s.Passes (.ofTables inv c)) ↔
      ∃ os, c.os? ch.proposed.osId = some os ∧
        ch.Admissible inv c os virtioScsiEnabled := by
  simp only [vmSteps, List.forall_mem_cons, List.not_mem_nil, false_implies, implies_true,
    and_true, Step.Passes, Consult.pure_eq_done, Consult.accepts_done, decide_eq_true_eq,
    true_implies]
  constructor
  · rintro ⟨hname, hmemory, hmonitors, htopology, hunique, hcluster, hhosts, hcpu, hunused,
      hsupported, heditable, hreservation⟩
    -- the name is looked at first, and passes only with an entry for the operating system
    obtain ⟨os, hos, hname⟩ := VmChange.accepts_name_iff.1 hname
    refine ⟨os, hos, ?_⟩
    exact
      { name := hname
        memory := (VmChange.accepts_memory_iff hos).1 hmemory
        monitors := VmChange.accepts_monitors_iff.1 hmonitors
        topology := VmChange.accepts_cpuTopology_iff.1 htopology
        name_free := VmChange.accepts_nameUnique_iff.1 hunique
        cluster_kept := VmChange.clusterUnchanged_eq_accepted_iff.1 hcluster
        hosts := VmChange.accepts_hostsInCluster_iff.1 hhosts
        cpu := (VmChange.accepts_cpuSupported_iff hos).1 hcpu
        virtioScsi_unused := fun h => VmChange.accepts_virtioScsiUnused_iff.1 (hunused h)
        virtioScsi_supported := fun h =>
          (VmChange.accepts_virtioScsiSupported_iff hos).1 (hsupported h)
        editable := VmChange.accepts_hostedEngineEditable_iff.1 heditable
        reservation_free := VmChange.accepts_migrationWithReservation_iff.1 hreservation }
  · rintro ⟨os, hos, h⟩
    exact ⟨VmChange.accepts_name_iff.2 ⟨os, hos, h.name⟩,
      (VmChange.accepts_memory_iff hos).2 h.memory,
      VmChange.accepts_monitors_iff.2 h.monitors,
      VmChange.accepts_cpuTopology_iff.2 h.topology,
      VmChange.accepts_nameUnique_iff.2 h.name_free,
      VmChange.clusterUnchanged_eq_accepted_iff.2 h.cluster_kept,
      VmChange.accepts_hostsInCluster_iff.2 h.hosts,
      (VmChange.accepts_cpuSupported_iff hos).2 h.cpu,
      fun hv => VmChange.accepts_virtioScsiUnused_iff.2 (h.virtioScsi_unused hv),
      fun hv => (VmChange.accepts_virtioScsiSupported_iff hos).2 (h.virtioScsi_supported hv),
      VmChange.accepts_hostedEngineEditable_iff.2 h.editable,
      VmChange.accepts_migrationWithReservation_iff.2 h.reservation_free⟩

theorem Operation.updateVm_accepted_iff {u : VmUpdate} :
    (updateVm u).judge inv c = .ok .accepted ↔
      ∃ current cluster os, inv.vm? u.vm.id = some current ∧
        inv.cluster? current.clusterId = some cluster ∧ c.os? u.vm.osId = some os ∧
        VmChange.Admissible inv c os ⟨current, u.vm, cluster⟩ u.virtioScsiEnabled := by
  rw [judge_updateVm]
  cases hvm : inv.vm? u.vm.id with
  | none => simp
  | some current =>
    cases hcluster : inv.cluster? current.clusterId with
    | none => simp [hcluster]
    | some cluster => simp [hcluster, Step.answer_eq_accepted_iff, vmSteps_pass_iff]

namespace Operation

open Objection Step VmChange

/-- The objections to an update of a machine, in the order in which they are looked at. -/
def updateVmObjections (inv : Inventory) (c : Capabilities) (u : VmUpdate) : List Objection :=
  match inv.vm? u.vm.id with
  | none => [.reject True ⟨.vmNotFound, []⟩]
  | some current =>
    match inv.cluster? current.clusterId with
    | none => [.reject True ⟨.clusterNotFound, []⟩]
    | some cluster =>
      let ch : VmChange := ⟨current, u.vm, cluster⟩
      List.flatten [
        nameObjections c ch,
        memoryObjections c ch,
        [.reject (u.vm.numOfMonitors ∉ c.settings.validNumOfMonitors) ⟨.illegalNumOfMonitors, []⟩],
        topologyObjections c ch.version u.vm.cpuTopology,
        [.reject (u.vm.name ≠ current.name ∧ ∃ vm ∈ inv.vms,
          vm.storagePoolId = current.storagePoolId ∧ vm.name = u.vm.name) ⟨.nameAlreadyUsed, []⟩],
        [.reject (u.vm.clusterId ≠ current.clusterId) ⟨.clusterChanged, []⟩],
        hostObjections inv cluster.id u.vm.dedicatedHosts,
        cpuObjections c ch,
        if u.virtioScsiEnabled = some false then unusedObjections inv ch else [],
        if u.virtioScsiEnabled = some true then supportedObjections c ch else [],
        [.reject ((current.origin = .managedHostedEngine ∨ u.vm.origin = .managedHostedEngine) ∧
          c.settings.allowEditingHostedEngine = false) ⟨.hostedEngineEditingDisabled, []⟩],
        migrationObjections inv ch]

theorem settle_updateVmObjections {u : VmUpdate} :
    Settle (updateVmObjections inv c u) ((updateVm u).judge inv c) := by
  rw [judge_updateVm]
  unfold updateVmObjections
  cases inv.vm? u.vm.id with
  | none => exact .raised ⟨trivial, rfl⟩
  | some current =>
    simp only
    cases inv.cluster? current.clusterId with
    | none => exact .raised ⟨trivial, rfl⟩
    | some cluster =>
      let ch : VmChange := ⟨current, u.vm, cluster⟩
      refine settle_answer ?_
      -- one entry for each rule, in the order of the plan
      exact
        .cons (settle_answer_singleton rfl (settle_name ch)) <|
        .cons (settle_answer_singleton rfl (settle_memory ch)) <|
        .cons (settle_answer_singleton rfl (settle_monitors ch)) <|
        .cons (settle_answer_singleton rfl (settle_cpuTopology ch)) <|
        .cons (settle_answer_singleton rfl (settle_nameUnique ch)) <|
        .cons (settle_answer_singleton rfl (settle_clusterUnchanged ch)) <|
        .cons (settle_answer_singleton rfl settle_hostsInCluster) <|
        .cons (settle_answer_singleton rfl (settle_cpuSupported ch)) <|
        .cons (settle_answer_singleton_ite decide_eq_true_iff fun _ =>
          settle_virtioScsiUnused ch) <|
        .cons (settle_answer_singleton_ite decide_eq_true_iff fun _ =>
          settle_virtioScsiSupported ch) <|
        .cons (settle_answer_singleton rfl (settle_hostedEngineEditable ch)) <|
        .cons (settle_answer_singleton rfl (settle_migrationWithReservation ch)) .nil

end Operation

/-- **Why a machine is not updated.** The result of an update is the answer of its first objection
that is raised, and an acceptance if none is. -/
theorem updateVm_settled_by_objections (inv : Inventory) (c : Capabilities) (u : VmUpdate)
    (result : Except Fault Verdict) :
    (Operation.updateVm u).judge inv c = result ↔
      Objection.Settle (Operation.updateVmObjections inv c u) result :=
  Operation.settle_updateVmObjections.eq_iff

end VmAdmission
