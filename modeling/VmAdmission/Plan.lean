import VmAdmission.Checklist
import VmAdmission.Operation
import VmAdmission.Rule.Disk
import VmAdmission.Rule.VmUpdate

/-!
# Plans

Judging an operation starts with loading what it is about. If something is missing the verdict is
settled at once; otherwise the rules that apply are put down in a fixed order. `Operation.plan`
is the one place where the order of the rules is written.
-/

namespace VmAdmission

/-- A rule on the list, with the name it is logged by. -/
structure Step where
  name : String
  applies : Bool := true
  rule : Consult Verdict

/-- What there is to do once everything is loaded. -/
inductive Plan where
  /-- Nothing: the verdict is already clear. -/
  | settled (verdict : Verdict)
  | checks (steps : List Step)

namespace Plan

/-- A plan without rules that rejects for a reason. -/
def rejected (reason : Reason) : Plan := .settled (.reject reason)

end Plan

namespace Operation

open Consult

/-! ## Updates of machines -/

/-- The rules about a change of a machine. -/
def vmSteps (c : VmChange) (virtioScsiEnabled : Option Bool) : List Step := [
  { name := "name", rule := c.name },
  { name := "memory", rule := c.memory },
  { name := "monitors", rule := c.monitors },
  { name := "cpu_topology", rule := c.cpuTopology },
  { name := "name_unique", rule := c.nameUnique },
  { name := "cluster_unchanged", rule := return c.clusterUnchanged },
  { name := "dedicated_hosts", rule := c.dedicatedHosts },
  { name := "cpu_supported", rule := c.cpuSupported },
  { name := "virtio_scsi_disable", applies := virtioScsiEnabled = some false,
    rule := c.virtioScsiUnused },
  { name := "virtio_scsi_enable", applies := virtioScsiEnabled = some true,
    rule := c.virtioScsiSupported },
  { name := "hosted_engine_editable", rule := c.hostedEngineEditable },
  { name := "scsi_reservation_migration", rule := c.migrationWithReservation }]

/-- The plan for an update of a machine. -/
def updateVmPlan (update : VmUpdate) : Consult Plan := do
  match ← vm? update.vm.id with
  | none => return .rejected .vmNotFound
  | some current =>
    match ← cluster? current.clusterId with
    | none => return .rejected .clusterNotFound
    | some cluster =>
      return .checks (vmSteps ⟨current, update.vm, cluster⟩ update.virtioScsiEnabled)

/-! ## Operations on disks -/

/-- The disk is not attached to the machine through this snapshot already, or to the machine itself
if no snapshot is meant. -/
def notAlreadyAttached (vmId : Uuid) (vmName : String) (snapshotId : Option Uuid)
    (attachments : List (Vm × Attachment)) : Verdict :=
  if attachments.any fun (vm, a) => vm.id = vmId && a.snapshotId = snapshotId then
    (Verdict.reject .diskAlreadyAttached).filling "vmName" vmName
  else .accepted

/-- The rules about attaching a disk. What the disk is comes from the stored one; the requested one
only says how it is to be attached. -/
def attachSteps (stored requested : Disk) (vmId : Uuid) (vm : Vm) (snapshotId : Option Uuid)
    (attachments : List (Vm × Attachment)) : List Step := [
  { name := "not_infrastructure_store", rule := return DiskRule.notInfrastructureStore stored },
  { name := "not_protected_infrastructure_disk",
    rule := return DiskRule.notHostedEngineLun stored },
  { name := "snapshot_storage_type", applies := snapshotId.isSome,
    rule := return DiskRule.storageTypeNotIn stored [.lun, .cinder] },
  { name := "not_already_attached",
    rule := return notAlreadyAttached vmId vm.name snapshotId attachments },
  { name := "read_only_interface", rule := return DiskRule.readOnlyCompatible requested },
  { name := "interface_compatibility",
    rule := DiskRule.interfaceCompatibility requested (some vm) },
  { name := "interface_supported_for_vm",
    rule := DiskRule.interfaceSupportedForVm requested (some vm) },
  { name := "scsi_reservation", rule := return DiskRule.scsiReservationValid requested (some vm) }]

/-- The plan for attaching a disk. -/
def attachPlan (disk : Disk) (vmId : Uuid) (snapshotId : Option Uuid) : Consult Plan := do
  match ← vm? vmId with
  | none => return .rejected .vmNotFound
  | some vm =>
    match ← disk? disk.id with
    | none => return .rejected .diskNotFound
    | some stored =>
      let attachments ← attachmentsOf disk.id
      return .checks (attachSteps stored disk vmId vm snapshotId attachments)

/-- The attachment of a disk to a machine itself, among all of the disk's. -/
def activeAttachment? (attachments : List (Vm × Attachment)) (vmId : Uuid) :
    Option (Vm × Attachment) :=
  attachments.find? fun (vm, a) => vm.id = vmId && a.snapshotId.isNone

/-- The plan for a disk that is not attached to the machine itself, which tells a missing machine
from a missing attachment. -/
def notAttachedPlan (vmId : Uuid) : Consult Plan := do
  match ← vm? vmId with
  | none => return .rejected .vmNotFound
  | some _ => return .rejected .diskNotAttached

/-- Whether an update changes what has to reach a running guest. -/
def changesHotFields (stored proposed : Disk) : Bool :=
  stored.interface ≠ proposed.interface || stored.readOnly ≠ proposed.readOnly ||
    stored.sgio ≠ proposed.sgio || stored.scsiPassthrough ≠ proposed.scsiPassthrough

/-- The rules about updating a disk, through a machine where one is named. -/
def updateDiskSteps (stored proposed : Disk) (vm? : Option Vm)
    (attachments : List (Vm × Attachment)) : List Step := [
  { name := "not_infrastructure_store", rule := return DiskRule.notInfrastructureStore stored },
  { name := "not_protected_infrastructure_disk",
    rule := return DiskRule.notHostedEngineLun stored },
  { name := "read_only_interface", rule := return DiskRule.readOnlyCompatible proposed },
  { name := "interface_compatibility", rule := DiskRule.interfaceCompatibility proposed vm? },
  { name := "interface_supported_for_vm", applies := stored.interface ≠ proposed.interface,
    rule := DiskRule.interfaceSupportedForVm proposed vm? },
  { name := "scsi_reservation", rule := return DiskRule.scsiReservationValid proposed vm? },
  { name := "plugged_only_to_down_vms", applies := changesHotFields stored proposed,
    rule := DiskRule.pluggedOnlyToDownVms proposed false (some attachments) }]

/-- The plan for updating a disk. -/
def updateDiskPlan (disk : Disk) (vmId : Option Uuid) : Consult Plan := do
  match ← disk? disk.id with
  | none => return .rejected .diskNotFound
  | some stored =>
    let attachments ← attachmentsOf disk.id
    match vmId with
    | none => return .checks (updateDiskSteps stored disk none attachments)
    | some vmId =>
      match activeAttachment? attachments vmId with
      | none => notAttachedPlan vmId
      | some (vm, _) => return .checks (updateDiskSteps stored disk (some vm) attachments)

/-- The rules about detaching a disk. -/
def detachSteps (disk : Disk) (attachment : Vm × Attachment) : List Step := [
  { name := "not_infrastructure_store", rule := return DiskRule.notInfrastructureStore disk },
  { name := "removable_protected_disks", rule := return DiskRule.removable disk attachment.1 },
  { name := "plugged_only_to_down_vms",
    rule := DiskRule.pluggedOnlyToDownVms disk false (some [attachment]) }]

/-- The plan for detaching a disk. -/
def detachPlan (diskId vmId : Uuid) : Consult Plan := do
  match ← disk? diskId with
  | none => return .rejected .diskNotFound
  | some disk =>
    let attachments ← attachmentsOf diskId
    match activeAttachment? attachments vmId with
    | none => notAttachedPlan vmId
    | some attachment => return .checks (detachSteps disk attachment)

/-- The rules about removing a disk. -/
def removeSteps (disk : Disk) (attachments : List (Vm × Attachment)) : List Step := [
  { name := "not_infrastructure_store", rule := return DiskRule.notInfrastructureStore disk },
  { name := "removable_protected_disks",
    rule := return DiskRule.removableFromAll disk (attachments.map Prod.fst) },
  { name := "plugged_only_to_down_vms",
    rule := DiskRule.pluggedOnlyToDownVms disk false (some attachments) }]

/-- The plan for removing a disk. -/
def removePlan (diskId : Uuid) : Consult Plan := do
  match ← disk? diskId with
  | none => return .rejected .diskNotFound
  | some disk => return .checks (removeSteps disk (← attachmentsOf diskId))

/-- The rules about removing the snapshots of a disk. -/
def removeSnapshotsSteps (disk : Disk) : List Step := [
  { name := "not_infrastructure_store", rule := return DiskRule.notInfrastructureStore disk },
  { name := "plugged_only_to_down_vms", rule := DiskRule.pluggedOnlyToDownVms disk true none }]

/-- The plan for removing the snapshots of a disk. -/
def removeSnapshotsPlan (diskId : Uuid) : Consult Plan := do
  match ← disk? diskId with
  | none => return .rejected .diskNotFound
  | some disk => return .checks (removeSnapshotsSteps disk)

/-- The plan for an operation. -/
def plan : Operation → Consult Plan
  | .updateVm update => updateVmPlan update
  | .attachDisk disk vmId snapshotId => attachPlan disk vmId snapshotId
  | .updateDisk disk vmId => updateDiskPlan disk vmId
  | .detachDisk diskId vmId => detachPlan diskId vmId
  | .removeDisk diskId => removePlan diskId
  | .removeDiskSnapshots diskId => removeSnapshotsPlan diskId

end Operation

end VmAdmission
