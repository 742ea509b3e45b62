import VmAdmission.Codec.Tagged
import VmAdmission.Text.Words

/-!
# Reasons for a rejection

A reason is a stable code. Whoever shows it looks the code up in a catalog of messages and fills in
the substitutions that come with it.
-/

namespace VmAdmission

/-- Why an operation may not proceed: first the rules about disks, then those about machines. -/
inductive Reason where
  | scsiGenericIoOnImageDisk | virtioScsiNotAvailableAtClusterLevel | virtioScsiIsDisabled
  | guestOsNotSupported | diskInterfaceUnsupported | interfaceIsNotReadOnlyCapable
  | scsiPassthroughOnReadOnlyDisk | vmIsNotDown | ovfDiskNotSupported | storageTypeNotSupported
  | hostedEngineDisk | scsiReservationOnFloatingDisk | sgioIsFiltered | diskNotFound
  | diskAlreadyAttached | diskNotAttached
  | vmNotFound | clusterNotFound | nameIsEmpty | nameHasSpecialChars | nameIsTooLong
  | illegalMemorySize | illegalNumOfMonitors | tooFewCpus | tooManyCpus | tooManySockets
  | tooManyCpusPerSocket | tooManyThreadsPerCpu | nameAlreadyUsed | clusterChanged
  | dedicatedHostNotFound | dedicatedHostInOtherCluster | cpuUnsupportedByGuestOs
  | virtioScsiInUse | virtioScsiUnsupportedByGuestOs | hostedEngineEditingDisabled
  | vmUsesScsiReservation
deriving DecidableEq

namespace Reason

/-- All reasons. -/
def all : List Reason :=
  [.scsiGenericIoOnImageDisk, .virtioScsiNotAvailableAtClusterLevel, .virtioScsiIsDisabled,
   .guestOsNotSupported, .diskInterfaceUnsupported, .interfaceIsNotReadOnlyCapable,
   .scsiPassthroughOnReadOnlyDisk, .vmIsNotDown, .ovfDiskNotSupported, .storageTypeNotSupported,
   .hostedEngineDisk, .scsiReservationOnFloatingDisk, .sgioIsFiltered, .diskNotFound,
   .diskAlreadyAttached, .diskNotAttached, .vmNotFound, .clusterNotFound, .nameIsEmpty,
   .nameHasSpecialChars, .nameIsTooLong, .illegalMemorySize, .illegalNumOfMonitors, .tooFewCpus,
   .tooManyCpus, .tooManySockets, .tooManyCpusPerSocket, .tooManyThreadsPerCpu, .nameAlreadyUsed,
   .clusterChanged, .dedicatedHostNotFound, .dedicatedHostInOtherCluster,
   .cpuUnsupportedByGuestOs, .virtioScsiInUse, .virtioScsiUnsupportedByGuestOs,
   .hostedEngineEditingDisabled, .vmUsesScsiReservation]

/-- The code of a reason. -/
def code : Reason → String
  | .scsiGenericIoOnImageDisk => "SCSI_GENERIC_IO_IS_NOT_SUPPORTED_FOR_IMAGE_DISK"
  | .virtioScsiNotAvailableAtClusterLevel =>
    "VIRTIO_SCSI_INTERFACE_IS_NOT_AVAILABLE_FOR_CLUSTER_LEVEL"
  | .virtioScsiIsDisabled => "CANNOT_PERFORM_ACTION_VIRTIO_SCSI_IS_DISABLED"
  | .guestOsNotSupported => "ACTION_TYPE_FAILED_GUEST_OS_VERSION_IS_NOT_SUPPORTED"
  | .diskInterfaceUnsupported => "ACTION_TYPE_DISK_INTERFACE_UNSUPPORTED"
  | .interfaceIsNotReadOnlyCapable => "ACTION_TYPE_FAILED_INTERFACE_DOES_NOT_SUPPORT_READ_ONLY_ATTR"
  | .scsiPassthroughOnReadOnlyDisk => "SCSI_PASSTHROUGH_IS_NOT_SUPPORTED_FOR_READ_ONLY_DISK"
  | .vmIsNotDown => "ACTION_TYPE_FAILED_VM_IS_NOT_DOWN"
  | .ovfDiskNotSupported => "ACTION_TYPE_FAILED_OVF_DISK_NOT_SUPPORTED"
  | .storageTypeNotSupported => "ACTION_TYPE_FAILED_NOT_SUPPORTED_DISK_STORAGE_TYPE"
  | .hostedEngineDisk => "ACTION_TYPE_FAILED_HOSTED_ENGINE_DISK"
  | .scsiReservationOnFloatingDisk =>
    "ACTION_TYPE_FAILED_SCSI_RESERVATION_NOT_VALID_FOR_FLOATING_DISK"
  | .sgioIsFiltered => "ACTION_TYPE_FAILED_SGIO_IS_FILTERED"
  | .diskNotFound => "ACTION_TYPE_FAILED_DISK_NOT_EXIST"
  | .diskAlreadyAttached => "ACTION_TYPE_FAILED_DISK_ALREADY_ATTACHED_TO_VM"
  | .diskNotAttached => "ACTION_TYPE_FAILED_DISK_NOT_ATTACHED_TO_VM"
  | .vmNotFound => "ACTION_TYPE_FAILED_VM_NOT_FOUND"
  | .clusterNotFound => "ACTION_TYPE_FAILED_CLUSTER_CAN_NOT_BE_EMPTY"
  | .nameIsEmpty => "ACTION_TYPE_FAILED_NAME_MAY_NOT_BE_EMPTY"
  | .nameHasSpecialChars => "ACTION_TYPE_FAILED_NAME_MAY_NOT_CONTAIN_SPECIAL_CHARS"
  | .nameIsTooLong => "ACTION_TYPE_FAILED_NAME_LENGTH_IS_TOO_LONG"
  | .illegalMemorySize => "ACTION_TYPE_FAILED_ILLEGAL_MEMORY_SIZE"
  | .illegalNumOfMonitors => "ACTION_TYPE_FAILED_ILLEGAL_NUM_OF_MONITORS"
  | .tooFewCpus => "ACTION_TYPE_FAILED_MIN_CPU_COUNT"
  | .tooManyCpus => "ACTION_TYPE_FAILED_MAX_NUM_CPU"
  | .tooManySockets => "ACTION_TYPE_FAILED_MAX_NUM_SOCKETS"
  | .tooManyCpusPerSocket => "ACTION_TYPE_FAILED_MAX_CPU_PER_SOCKET"
  | .tooManyThreadsPerCpu => "ACTION_TYPE_FAILED_MAX_THREADS_PER_CPU"
  | .nameAlreadyUsed => "ACTION_TYPE_FAILED_NAME_ALREADY_USED"
  | .clusterChanged => "VM_CANNOT_UPDATE_CLUSTER"
  | .dedicatedHostNotFound => "ACTION_TYPE_FAILED_DEDICATED_VDS_DOES_NOT_EXIST"
  | .dedicatedHostInOtherCluster => "ACTION_TYPE_FAILED_DEDICATED_VDS_NOT_IN_SAME_CLUSTER"
  | .cpuUnsupportedByGuestOs => "CPU_TYPE_UNSUPPORTED_FOR_THE_GUEST_OS"
  | .virtioScsiInUse => "CANNOT_DISABLE_VIRTIO_SCSI_PLUGGED_DISKS"
  | .virtioScsiUnsupportedByGuestOs =>
    "ACTION_TYPE_FAILED_ILLEGAL_OS_TYPE_DOES_NOT_SUPPORT_VIRTIO_SCSI"
  | .hostedEngineEditingDisabled => "ACTION_TYPE_FAILED_EDITING_HOSTED_ENGINE_IS_DISABLED"
  | .vmUsesScsiReservation => "ACTION_TYPE_FAILED_VM_USES_SCSI_RESERVATION"

/-- The code with its words joined by capitals. -/
def label (r : Reason) : String := Text.camelCase r.code

/-- The reason with a code. -/
def ofCode? (code : String) : Option Reason := all.find? (·.code = code)

theorem mem_all (r : Reason) : r ∈ all := by cases r <;> decide

/-- The codec of reasons, by their codes. -/
def codec : Codec Reason := .enumeration all code

end Reason

end VmAdmission
