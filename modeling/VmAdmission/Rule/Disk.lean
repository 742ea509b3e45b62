import VmAdmission.Consult
import VmAdmission.Verdict

/-!
# Rules about disks

Each rule judges one snapshot of a disk, some of them together with the machine it is attached to or
about to be. A disk without a machine is a floating one, for which whatever depends on the machine
is passed over.
-/

namespace VmAdmission.DiskRule

open Consult

/-- The machine's guest operating system supports the interface at the machine's version. -/
def osSupportsInterface (interface : DiskInterface) (vm : Vm) : Consult Verdict := do
  let supported ← supportsInterface vm.osId vm.effectiveVersion interface
  return .rejectIf (!supported) .guestOsNotSupported

/-- A VirtIO-SCSI disk can be used at all, and the machine's version, controllers and guest
operating system support it. A disk on another interface passes. -/
def interfaceCompatibility (disk : Disk) (vm? : Option Vm) : Consult Verdict :=
  if disk.interface ≠ .virtioScsi then return .accepted
  else if disk.sgio.isSome ∧ disk.storageType = .image then
    return .reject .scsiGenericIoOnImageDisk
  else
    match vm? with
    | none => return .accepted
    | some vm => do
      if !(← supportsFeature .virtioScsi vm.effectiveVersion) then
        return .reject .virtioScsiNotAvailableAtClusterLevel
      else if !(← hasController vm.id .virtioScsi) then
        return .reject .virtioScsiIsDisabled
      else
        osSupportsInterface .virtioScsi vm

/-- The machine's guest operating system supports the disk's interface. -/
def interfaceSupportedForVm (disk : Disk) (vm? : Option Vm) : Consult Verdict :=
  match vm? with
  | none => return .accepted
  | some vm => do
    if ← supportsInterface vm.osId vm.effectiveVersion disk.interface then
      return .accepted
    else
      return (Verdict.reject .diskInterfaceUnsupported).filling "osName" (← osName vm.osId)

/-- Whether an attachment plugs a disk into a machine that is not down. -/
def isPluggedToRunning (attachment : Vm × Attachment) : Bool :=
  attachment.2.plugged && !attachment.1.isDown

/-- None of the attachments plugs the disk into a machine that is not down; of several that do, the
first is named. If only attachments through snapshots are in question, the others are passed
over. -/
def pluggedOnlyToDown (onlyThroughSnapshots : Bool) (attachments : List (Vm × Attachment)) :
    Verdict :=
  let inQuestion := attachments.filter fun (_, a) => !onlyThroughSnapshots || a.snapshotId.isSome
  match inQuestion.find? isPluggedToRunning with
  | some (vm, _) => (Verdict.reject .vmIsNotDown).filling "vmName" vm.name
  | none => .accepted

/-- The same of the given attachments, or of all that the inventory knows of the disk. -/
def pluggedOnlyToDownVms (disk : Disk) (onlyThroughSnapshots : Bool)
    (attachments? : Option (List (Vm × Attachment))) : Consult Verdict :=
  match attachments? with
  | some attachments => return pluggedOnlyToDown onlyThroughSnapshots attachments
  | none => return pluggedOnlyToDown onlyThroughSnapshots (← attachmentsOf disk.id)

/-- A read-only disk is not on IDE, and does not pass SCSI commands through; the former is reported
if both are broken. -/
def readOnlyCompatible (disk : Disk) : Verdict :=
  if !disk.readOnly then .accepted
  else if disk.interface = .ide then
    (Verdict.reject .interfaceIsNotReadOnlyCapable).filling "interface" disk.interface.displayName
  else .rejectIf disk.scsiPassthrough .scsiPassthroughOnReadOnlyDisk

/-- The disk is no internal volume. -/
def notInfrastructureStore (disk : Disk) : Verdict :=
  .rejectIf disk.infrastructureStore .ovfDiskNotSupported

/-- The disk's storage type is none of those excluded. -/
def storageTypeNotIn (disk : Disk) (excluded : List StorageType) : Verdict :=
  if excluded.contains disk.storageType then
    (Verdict.reject .storageTypeNotSupported).filling "diskStorageType"
      disk.storageType.displayName
  else .accepted

/-- The disk is not the LUN behind the hosted-engine machine. -/
def notHostedEngineLun (disk : Disk) : Verdict :=
  .rejectIf disk.isHostedEngineLun .hostedEngineDisk

/-- A requested SCSI reservation has a machine to reserve for, and SCSI commands are not filtered.
Only a LUN can request one. -/
def scsiReservationValid (disk : Disk) (vm? : Option Vm) : Verdict :=
  match disk.backing.lun? with
  | none => .accepted
  | some lun =>
    if !lun.usingScsiReservation then .accepted
    else if vm?.isNone then .reject .scsiReservationOnFloatingDisk
    else .rejectIf (disk.sgio = some .filtered) .sgioIsFiltered

/-- The disk is not one of the hosted-engine machine, unless it is the LUN behind it. -/
def removable (disk : Disk) (vm : Vm) : Verdict :=
  .rejectIf (!disk.isHostedEngineLun && vm.isHostedEngine) .hostedEngineDisk

/-- The disk may be removed from each of the machines; the first that objects decides. -/
def removableFromAll (disk : Disk) (vms : List Vm) : Verdict :=
  ((vms.map (removable disk)).find? (!·.isAccepted)).getD .accepted

end VmAdmission.DiskRule
