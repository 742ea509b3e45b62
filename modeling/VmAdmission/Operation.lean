import VmAdmission.Entity.Disk
import VmAdmission.Entity.Vm

/-!
# Operations

The changes to machines and disks that may be proposed, and their form in documents.
-/

namespace VmAdmission

/-- A proposed change to a machine's properties. -/
structure VmUpdate where
  /-- The machine as it should be after the update; its identifier says which one is meant. -/
  vm : Vm
  /-- Set where the update turns the machine's VirtIO-SCSI controller on or off. -/
  virtioScsiEnabled : Option Bool
deriving DecidableEq

namespace VmUpdate

/-- The fields of an update. -/
def fields : Codec.Fields VmUpdate [Vm, Option Bool] :=
  .cons (.required "vm" Vm.codec VmUpdate.vm) <|
  .cons (.optional "virtio_scsi_enabled" .bool VmUpdate.virtioScsiEnabled) .nil

/-- The codec of updates. -/
def codec : Codec VmUpdate :=
  .record false fields fun (vm, virtioScsiEnabled, _) => { vm, virtioScsiEnabled }

end VmUpdate

/-- A change that may be proposed. -/
inductive Operation where
  | updateVm (update : VmUpdate)
  /-- Attach a stored disk to a machine, or to one of its snapshots. -/
  | attachDisk (disk : Disk) (vmId : Uuid) (snapshotId : Option Uuid)
  /-- Change a disk's properties, through its attachment to a machine where one is named. -/
  | updateDisk (disk : Disk) (vmId : Option Uuid)
  | detachDisk (diskId vmId : Uuid)
  | removeDisk (diskId : Uuid)
  /-- Remove the snapshots of a disk, and leave the active volume in place. -/
  | removeDiskSnapshots (diskId : Uuid)
deriving DecidableEq

namespace Operation

/-- The name of the kind of an operation. -/
def kind : Operation → String
  | .updateVm _ => "update_vm"
  | .attachDisk _ _ _ => "attach_disk"
  | .updateDisk _ _ => "update_disk"
  | .detachDisk _ _ => "detach_disk"
  | .removeDisk _ => "remove_disk"
  | .removeDiskSnapshots _ => "remove_disk_snapshots"

/-- The fields of an attachment to be made. -/
def attachFields : Codec.Fields (Disk × Uuid × Option Uuid) [Disk, Uuid, Option Uuid] :=
  .cons (.required "disk" Disk.codec (·.1)) <|
  .cons (.required "vm_id" .uuid (·.2.1)) <|
  .cons (.optional "snapshot_id" .uuid (·.2.2)) .nil

/-- The fields of a disk's update. -/
def updateDiskFields : Codec.Fields (Disk × Option Uuid) [Disk, Option Uuid] :=
  .cons (.required "disk" Disk.codec (·.1)) <|
  .cons (.optional "vm_id" .uuid (·.2)) .nil

/-- The fields of a detachment. -/
def detachFields : Codec.Fields (Uuid × Uuid) [Uuid, Uuid] :=
  .cons (.required "disk_id" .uuid (·.1)) <|
  .cons (.required "vm_id" .uuid (·.2)) .nil

/-- The field of an operation that only names a disk. -/
def diskIdFields : Codec.Fields Uuid [Uuid] :=
  .cons (.required "disk_id" .uuid id) .nil

/-- The variants of operations. -/
def variants : List (Codec.Variant Operation) := [
  .record "update_vm" false VmUpdate.fields
    (fun (vm, virtioScsiEnabled, _) => .updateVm { vm, virtioScsiEnabled })
    fun
      | .updateVm update => some update
      | _ => none,
  .record "attach_disk" false attachFields
    (fun (disk, vmId, snapshotId, _) => .attachDisk disk vmId snapshotId)
    fun
      | .attachDisk disk vmId snapshotId => some (disk, vmId, snapshotId)
      | _ => none,
  .record "update_disk" false updateDiskFields (fun (disk, vmId, _) => .updateDisk disk vmId)
    fun
      | .updateDisk disk vmId => some (disk, vmId)
      | _ => none,
  .record "detach_disk" false detachFields (fun (diskId, vmId, _) => .detachDisk diskId vmId)
    fun
      | .detachDisk diskId vmId => some (diskId, vmId)
      | _ => none,
  .record "remove_disk" false diskIdFields (fun (diskId, _) => .removeDisk diskId)
    fun
      | .removeDisk diskId => some diskId
      | _ => none,
  .record "remove_disk_snapshots" false diskIdFields
    (fun (diskId, _) => .removeDiskSnapshots diskId)
    fun
      | .removeDiskSnapshots diskId => some diskId
      | _ => none]

/-- The codec of operations. -/
def codec : Codec Operation := .tagged "kind" variants

end Operation

end VmAdmission
