import VmAdmission.Codec.Tagged
import VmAdmission.Text.Words

/-!
# Disks

A disk is what it is, by its backing and its flags, and how it is presented to a guest, by its
interface and its SCSI settings.
-/

namespace VmAdmission

/-! ## Buses and controllers -/

/-- The bus through which a disk is presented to the guest. -/
inductive DiskInterface where
  | ide | virtio | virtioScsi | spaprVscsi | sata
deriving DecidableEq

namespace DiskInterface

/-- All interfaces. -/
def all : List DiskInterface := [.ide, .virtio, .virtioScsi, .spaprVscsi, .sata]

/-- The interface's name in documents. -/
def name : DiskInterface → String
  | .ide => "ide"
  | .virtio => "virtio"
  | .virtioScsi => "virtio-scsi"
  | .spaprVscsi => "spapr-vscsi"
  | .sata => "sata"

/-- The interface's name in messages. -/
def displayName : DiskInterface → String
  | .ide => "IDE"
  | .virtio => "VirtIO"
  | .virtioScsi => "VirtIO_SCSI"
  | .spaprVscsi => "SPAPR_VSCSI"
  | .sata => "SATA"

/-- The interface with a name in messages. -/
def ofDisplayName? (s : String) : Option DiskInterface := all.find? (·.displayName = s)

/-- The name in documents with its words joined by capitals. -/
def label (i : DiskInterface) : String := Text.camelCase i.name

theorem mem_all (i : DiskInterface) : i ∈ all := by cases i <;> decide

/-- The codec of interfaces. -/
def codec : Codec DiskInterface := .enumeration all name

end DiskInterface

/-- The controller devices that a virtual machine may carry. -/
inductive ControllerKind where
  | virtioScsi | spaprVscsi
deriving DecidableEq

namespace ControllerKind

/-- All kinds. -/
def all : List ControllerKind := [.virtioScsi, .spaprVscsi]

/-- The kind's name, in documents and in messages. -/
def name : ControllerKind → String
  | .virtioScsi => "virtio-scsi"
  | .spaprVscsi => "spapr-vscsi"

/-- The codec of controller kinds. -/
def codec : Codec ControllerKind := .enumeration all name

end ControllerKind

/-! ## Backings -/

/-- The kind of storage behind a disk. -/
inductive StorageType where
  | image | lun | cinder
deriving DecidableEq

namespace StorageType

/-- All storage types. -/
def all : List StorageType := [.image, .lun, .cinder]

/-- The storage type's name in documents. -/
def name : StorageType → String
  | .image => "image"
  | .lun => "lun"
  | .cinder => "cinder"

/-- The storage type's name in messages. -/
def displayName : StorageType → String
  | .image => "IMAGE"
  | .lun => "LUN"
  | .cinder => "CINDER"

/-- The codec of storage types. -/
def codec : Codec StorageType := .enumeration all name

end StorageType

/-- Whether raw SCSI commands of the guest reach the LUN. -/
inductive ScsiGenericIo where
  | filtered | unfiltered
deriving DecidableEq

namespace ScsiGenericIo

/-- Both settings. -/
def all : List ScsiGenericIo := [.filtered, .unfiltered]

/-- The setting's name in documents. -/
def name : ScsiGenericIo → String
  | .filtered => "filtered"
  | .unfiltered => "unfiltered"

/-- The setting's name in messages. -/
def displayName : ScsiGenericIo → String
  | .filtered => "FILTERED"
  | .unfiltered => "UNFILTERED"

/-- The codec of the setting. -/
def codec : Codec ScsiGenericIo := .enumeration all name

end ScsiGenericIo

/-- A directly attached LUN. -/
structure Lun where
  lunId : String
  /-- Whether SCSI persistent reservation is requested for the attachment in question. -/
  usingScsiReservation : Bool
deriving DecidableEq

/-- What a disk's data lies on: a volume chain on a storage domain, a LUN, or a volume of an
external block storage service. -/
inductive Backing where
  | image (sizeBytes : UInt64)
  | lun (lun : Lun)
  | cinder (sizeBytes : UInt64)
deriving DecidableEq

namespace Backing

/-- The kind of storage of a backing. -/
def storageType : Backing → StorageType
  | .image _ => .image
  | .lun _ => .lun
  | .cinder _ => .cinder

/-- The provisioned size; a LUN is sized elsewhere. -/
def sizeBytes? : Backing → Option UInt64
  | .image size | .cinder size => some size
  | .lun _ => none

/-- The LUN, if the backing is one. -/
def lun? : Backing → Option Lun
  | .lun l => some l
  | _ => none

/-- The field of a backing that is only a size. -/
def sizeFields : Codec.Fields UInt64 [UInt64] :=
  .cons (.required "size_bytes" .uint64 id) .nil

/-- The fields of a LUN. -/
def lunFields : Codec.Fields Lun [String, Bool] :=
  .cons (.required "lun_id" .text Lun.lunId) <|
  .cons (.defaulting "using_scsi_reservation" .bool Lun.usingScsiReservation false) .nil

/-- The variants of backings. -/
def variants : List (Codec.Variant Backing) := [
  .record "image" true sizeFields (fun (size, _) => .image size)
    fun
      | .image size => some size
      | _ => none,
  .record "lun" true lunFields (fun (id, reservation, _) => .lun ⟨id, reservation⟩) lun?,
  .record "cinder" true sizeFields (fun (size, _) => .cinder size)
    fun
      | .cinder size => some size
      | _ => none]

/-- The codec of backings. -/
def codec : Codec Backing := .tagged "type" variants

end Backing

/-! ## Disks -/

/-- A snapshot of a disk. -/
structure Disk where
  id : Uuid
  diskAlias : String
  interface : DiskInterface
  readOnly : Bool
  /-- Set only where the disk was explicitly configured for SCSI generic IO. -/
  sgio : Option ScsiGenericIo
  scsiPassthrough : Bool
  /-- Whether the disk is an internal volume that users may never operate on. -/
  infrastructureStore : Bool
  backing : Backing
deriving DecidableEq

namespace Disk

/-- The alias that marks the LUN behind the hosted-engine machine. -/
def hostedEngineAlias : String := "hosted_engine"

/-- The kind of storage of a disk. -/
def storageType (d : Disk) : StorageType := d.backing.storageType

/-- Whether this is the LUN behind the hosted-engine machine. -/
def isHostedEngineLun (d : Disk) : Bool :=
  d.backing.lun?.isSome && d.diskAlias = hostedEngineAlias

/-- The fields of a disk. -/
def fields : Codec.Fields Disk
    [Uuid, String, DiskInterface, Bool, Option ScsiGenericIo, Bool, Bool, Backing] :=
  .cons (.required "id" .uuid Disk.id) <|
  .cons (.required "alias" .text Disk.diskAlias) <|
  .cons (.required "interface" DiskInterface.codec Disk.interface) <|
  .cons (.defaulting "read_only" .bool Disk.readOnly false) <|
  .cons (.optional "sgio" ScsiGenericIo.codec Disk.sgio) <|
  .cons (.defaulting "scsi_passthrough" .bool Disk.scsiPassthrough false) <|
  .cons (.defaulting "infrastructure_store" .bool Disk.infrastructureStore false) <|
  .cons (.required "backing" Backing.codec Disk.backing) .nil

/-- The codec of disks. -/
def codec : Codec Disk :=
  .record true fields fun (id, diskAlias, interface, readOnly, sgio, scsiPassthrough,
      infrastructureStore, backing, _) =>
    { id, diskAlias, interface, readOnly, sgio, scsiPassthrough, infrastructureStore, backing }

end Disk

/-! ## Attachments -/

/-- The attachment of a disk to a virtual machine. -/
structure Attachment where
  vmId : Uuid
  diskId : Uuid
  plugged : Bool
  /-- The snapshot of the machine that the disk is attached through, where it is not attached to
  the machine itself. -/
  snapshotId : Option Uuid
  usingScsiReservation : Bool
deriving DecidableEq

namespace Attachment

/-- The fields of an attachment. -/
def fields : Codec.Fields Attachment [Uuid, Uuid, Bool, Option Uuid, Bool] :=
  .cons (.required "vm_id" .uuid Attachment.vmId) <|
  .cons (.required "disk_id" .uuid Attachment.diskId) <|
  .cons (.required "plugged" .bool Attachment.plugged) <|
  .cons (.optional "snapshot_id" .uuid Attachment.snapshotId) <|
  .cons (.defaulting "using_scsi_reservation" .bool Attachment.usingScsiReservation false) .nil

/-- The codec of attachments. -/
def codec : Codec Attachment :=
  .record true fields fun (vmId, diskId, plugged, snapshotId, usingScsiReservation, _) =>
    { vmId, diskId, plugged, snapshotId, usingScsiReservation }

end Attachment

end VmAdmission
