import VmAdmission.Proofs.Course
import VmAdmission.Proofs.Paths

/-!
# What an operation reads

An operation looks at few rows. `Operation.Reads` lists the questions to the inventory that may be
put for one; which they are depends on the operation, and for an update of a machine on the
machine's row. `Operation.asksOnly_reads`: no others are put, on no path through the plan and the
rules. So inventories that answer these alike come to the same decision
(`Operation.decision_eq_of_reads`).
-/

namespace VmAdmission

open Consult

variable {given : (q : Query) → q.Answer → Prop} {reads : InventoryQuery → Prop}

/-! ## What the rules ask -/

namespace DiskRule

variable {disk : Disk}

theorem asksOnly_osSupportsInterface {i : DiskInterface} {vm : Vm} :
    (osSupportsInterface i vm).AsksOnly given reads := by
  simp [osSupportsInterface, supportsInterface, query]

theorem asksOnly_interfaceCompatibility {vm? : Option Vm}
    (h : ∀ vm, vm? = some vm → reads (.hasController vm.id .virtioScsi)) :
    (interfaceCompatibility disk vm?).AsksOnly given reads := by
  unfold interfaceCompatibility
  cases vm? with
  | none => simp
  | some vm => simp [supportsFeature, hasController, query, h vm rfl, asksOnly_osSupportsInterface]

theorem asksOnly_interfaceSupportedForVm {vm? : Option Vm} :
    (interfaceSupportedForVm disk vm?).AsksOnly given reads := by
  unfold interfaceSupportedForVm
  cases vm? <;> simp [supportsInterface, osName, query]

theorem asksOnly_pluggedOnlyToDownVms {onlyThroughSnapshots : Bool}
    {attachments? : Option (List (Vm × Attachment))}
    (h : attachments? = none → reads (.attachmentsOf disk.id)) :
    (pluggedOnlyToDownVms disk onlyThroughSnapshots attachments?).AsksOnly given reads := by
  unfold pluggedOnlyToDownVms
  cases attachments? with
  | none => simp [attachmentsOf, query, h rfl]
  | some attachments => simp

end DiskRule

namespace VmChange

variable {ch : VmChange}

theorem asksOnly_name : ch.name.AsksOnly given reads := by
  simp [name, isWindows, maxNameLength, query]

theorem asksOnly_nameUnique
    (h : reads (.isNameInUse ch.proposed.name ch.current.storagePoolId)) :
    ch.nameUnique.AsksOnly given reads := by
  simp [nameUnique, isNameInUse, query, h]

theorem asksOnly_memory : ch.memory.AsksOnly given reads := by
  simp [memory, memoryBounds, minMemory, query]

theorem asksOnly_monitors : ch.monitors.AsksOnly given reads := by
  simp [monitors, monitorCounts, query]

theorem asksOnly_withinLimits {topology : CpuTopology} {v : Version} {limits : List CpuLimit} :
    (withinLimits topology v limits).AsksOnly given reads := by
  induction limits with
  | nil => trivial
  | cons l limits ih => simp [withinLimits, limit, query, ih]

theorem asksOnly_cpuTopology : ch.cpuTopology.AsksOnly given reads := by
  simp [cpuTopology, asksOnly_withinLimits]

theorem asksOnly_hostsInCluster {cluster : Uuid} {ids : List Uuid}
    (h : ∀ id ∈ ids, reads (.host id)) :
    (hostsInCluster cluster ids).AsksOnly given reads := by
  induction ids with
  | nil => trivial
  | cons id ids ih =>
    rw [List.forall_mem_cons] at h
    simp only [hostsInCluster, query, host?, ask_bind, done_bind, keeps_ask]
    refine ⟨h.1, fun found _ => ?_⟩
    cases found with
    | none => trivial
    | some host => simp [ih h.2]

theorem asksOnly_cpuSupported : ch.cpuSupported.AsksOnly given reads := by
  unfold cpuSupported
  cases ch.proposed.cpuName.or ch.cluster.cpuName <;> simp [supportsCpu, osName, query]

theorem asksOnly_migrationWithReservation (h : reads (.disksOf ch.current.id true)) :
    ch.migrationWithReservation.AsksOnly given reads := by
  simp [migrationWithReservation, pluggedDisksOf, query, h]

theorem asksOnly_virtioScsiUnused (h : reads (.disksOf ch.current.id true)) :
    ch.virtioScsiUnused.AsksOnly given reads := by
  simp [virtioScsiUnused, pluggedDisksOf, query, h]

theorem asksOnly_virtioScsiSupported : ch.virtioScsiSupported.AsksOnly given reads := by
  simp [virtioScsiSupported, supportsInterface, query]

theorem asksOnly_hostedEngineEditable : ch.hostedEngineEditable.AsksOnly given reads := by
  simp [hostedEngineEditable, allowsProtectedEditing, query]

end VmChange

/-! ## What is asked for an operation -/

namespace Operation

/-- The machine that an operation on a disk names. -/
def vmId? : Operation → Option Uuid
  | .attachDisk _ vmId _ | .detachDisk _ vmId => some vmId
  | .updateDisk _ vmId => vmId
  | .updateVm _ | .removeDisk _ | .removeDiskSnapshots _ => none

/-- The questions to an inventory that may be put for an operation. -/
inductive Reads (inv : Inventory) : Operation → InventoryQuery → Prop
  /-- An update of a machine looks at the machine's row, and at the cluster of that row. -/
  | updated (u : VmUpdate) : Reads inv (.updateVm u) (.vm u.vm.id)
  | cluster {u : VmUpdate} {current : Vm} (h : inv.vm? u.vm.id = some current) :
    Reads inv (.updateVm u) (.cluster current.clusterId)
  /-- It looks at the hosts that the proposed machine is pinned to. -/
  | host {u : VmUpdate} {id : Uuid} (h : id ∈ u.vm.dedicatedHosts) :
    Reads inv (.updateVm u) (.host id)
  /-- It looks for the proposed name in the stored machine's storage pool. -/
  | name {u : VmUpdate} {current : Vm} (h : inv.vm? u.vm.id = some current) :
    Reads inv (.updateVm u) (.isNameInUse u.vm.name current.storagePoolId)
  /-- It looks at the disks plugged into the machine itself. -/
  | plugged (u : VmUpdate) : Reads inv (.updateVm u) (.disksOf u.vm.id true)
  /-- An operation on a disk looks at the disk's row, and at all its attachments. -/
  | disk {op : Operation} {id : Uuid} (h : op.disk? = some id) : Reads inv op (.disk id)
  | attachments {op : Operation} {id : Uuid} (h : op.disk? = some id) :
    Reads inv op (.attachmentsOf id)
  /-- It looks at the machine that it names, and for that machine's VirtIO-SCSI controller. -/
  | named {op : Operation} {id : Uuid} (h : op.vmId? = some id) : Reads inv op (.vm id)
  | controller {op : Operation} {id : Uuid} (h : op.vmId? = some id) :
    Reads inv op (.hasController id .virtioScsi)

variable {inv : Inventory} {c : Capabilities}

/-- The answers that an inventory and capability tables give. -/
def Given (inv : Inventory) (c : Capabilities) (q : Query) (a : q.Answer) : Prop :=
  Answers.ofTables inv c q = .ok a

theorem vm?_of_given {id : Uuid} {found : Option Vm}
    (h : Given inv c (.inventory (.vm id)) found) : inv.vm? id = found :=
  Except.ok.inj h

theorem asksOnly_updateVm (u : VmUpdate) :
    (updateVm u).AsksOnly (Given inv c) (Reads inv (.updateVm u)) := by
  refine keeps_updateVmPlan (fun _ => trivial) (.updated u) (fun current hvm => ?_) ?_
  · exact .cluster (vm?_of_given hvm)
  · intro current cluster hvm
    have hcurrent : inv.vm? u.vm.id = some current := vm?_of_given hvm
    have hplugged : Reads inv (.updateVm u) (.disksOf current.id true) := by
      rw [Inventory.id_of_vm? hcurrent]
      exact .plugged u
    exact eachRule_vmSteps (fun _ => trivial) VmChange.asksOnly_name VmChange.asksOnly_memory
      VmChange.asksOnly_monitors VmChange.asksOnly_cpuTopology
      (VmChange.asksOnly_nameUnique (.name hcurrent))
      (VmChange.asksOnly_hostsInCluster fun _ hid => .host hid) VmChange.asksOnly_cpuSupported
      (VmChange.asksOnly_virtioScsiUnused hplugged) VmChange.asksOnly_virtioScsiSupported
      VmChange.asksOnly_hostedEngineEditable
      (VmChange.asksOnly_migrationWithReservation hplugged)

theorem asksOnly_attachDisk (disk : Disk) (vmId : Uuid) (snapshotId : Option Uuid) :
    (attachDisk disk vmId snapshotId).AsksOnly (Given inv c)
      (Reads inv (.attachDisk disk vmId snapshotId)) := by
  refine keeps_attachPlan (fun _ => trivial) (.named rfl) (.disk rfl) (.attachments rfl) ?_
  intro vm stored attachments hvm
  refine eachRule_attachSteps (fun _ => trivial) (DiskRule.asksOnly_interfaceCompatibility ?_)
    DiskRule.asksOnly_interfaceSupportedForVm
  rintro _ ⟨⟩
  rw [Inventory.id_of_vm? (vm?_of_given hvm)]
  exact .controller rfl

theorem asksOnly_updateDisk (disk : Disk) (vmId : Option Uuid) :
    (updateDisk disk vmId).AsksOnly (Given inv c) (Reads inv (.updateDisk disk vmId)) := by
  refine keeps_updateDiskPlan (fun _ => trivial) (.disk rfl) (.attachments rfl)
    (fun _ hvm => .named hvm) ?_
  intro stored vm? attachments _ hnamed
  exact eachRule_updateDiskSteps (fun _ => trivial)
    (DiskRule.asksOnly_interfaceCompatibility fun vm hvm => .controller (hnamed vm hvm).1)
    DiskRule.asksOnly_interfaceSupportedForVm

theorem asksOnly_detachDisk (diskId vmId : Uuid) :
    (detachDisk diskId vmId).AsksOnly (Given inv c) (Reads inv (.detachDisk diskId vmId)) :=
  keeps_detachPlan (fun _ => trivial) (.disk rfl) (.attachments rfl) (.named rfl)
    fun _ _ => eachRule_detachSteps fun _ => trivial

theorem asksOnly_removeDisk (diskId : Uuid) :
    (removeDisk diskId).AsksOnly (Given inv c) (Reads inv (.removeDisk diskId)) :=
  keeps_removePlan (fun _ => trivial) (.disk rfl) (.attachments rfl)
    fun _ _ => eachRule_removeSteps fun _ => trivial

theorem asksOnly_removeDiskSnapshots (diskId : Uuid) :
    (removeDiskSnapshots diskId).AsksOnly (Given inv c)
      (Reads inv (.removeDiskSnapshots diskId)) := by
  refine keeps_removeSnapshotsPlan (fun _ => trivial) (.disk rfl) fun disk hdisk => ?_
  obtain rfl : disk.id = diskId := Inventory.id_of_disk? (Except.ok.inj hdisk)
  exact eachRule_removeSnapshotsSteps (fun _ => trivial)
    (DiskRule.asksOnly_pluggedOnlyToDownVms fun _ => .attachments rfl)

/-- On no path is anything else asked of the inventory than the operation reads. -/
theorem asksOnly_reads (op : Operation) : op.AsksOnly (Given inv c) (op.Reads inv) := by
  cases op with
  | updateVm u => exact asksOnly_updateVm u
  | attachDisk disk vmId snapshotId => exact asksOnly_attachDisk disk vmId snapshotId
  | updateDisk disk vmId => exact asksOnly_updateDisk disk vmId
  | detachDisk diskId vmId => exact asksOnly_detachDisk diskId vmId
  | removeDisk diskId => exact asksOnly_removeDisk diskId
  | removeDiskSnapshots diskId => exact asksOnly_removeDiskSnapshots diskId

/-- Inventories that answer alike what the operation reads come to the same decision, by any
capability tables. -/
theorem decision_eq_of_reads {inv' : Inventory} {op : Operation} (c : Capabilities)
    (asked : List Query) (h : ∀ q, op.Reads inv q → inv.answer q = inv'.answer q) :
    op.decision (Answers.ofTables inv c).toServices asked =
      op.decision (Answers.ofTables inv' c).toServices asked := by
  refine AsksOnly.decision_congr (fun _ q a ha => ha) (fun _ q hq => ?_) (asksOnly_reads op)
  cases q with
  | inventory q => exact h q hq
  | os q => rfl
  | settings q => rfl

end Operation

end VmAdmission
