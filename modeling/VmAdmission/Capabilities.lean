import VmAdmission.Entity.Cluster
import VmAdmission.Entity.Disk
import VmAdmission.Entity.Vm
import VmAdmission.NameSet
import VmAdmission.VersionTable

/-!
# Capability tables

What the cluster versions provide, what the guest operating systems support and which limits the
operator has set. The tables answer for a version exactly: nothing is inherited from one version to
another, and each setting that a version overrides is overridden by itself.
-/

namespace VmAdmission

/-! ## Features -/

/-- A capability that only some compatibility versions provide. -/
inductive Feature where
  | virtioScsi
deriving DecidableEq

/-- The name of a feature in traces. -/
def Feature.label : Feature → String
  | .virtioScsi => "VirtioScsi"

/-- The first version that provides each feature; none means that no version does. -/
structure Features where
  virtioScsi : Option Version
deriving DecidableEq

namespace Features

/-- The first version that provides a feature. -/
def since? (fs : Features) : Feature → Option Version
  | .virtioScsi => fs.virtioScsi

/-- The fields of the feature table. -/
def fields : Codec.Fields Features [Option Version] :=
  .cons (.optionalByKey "virtio-scsi" .version Features.virtioScsi) .nil

/-- The codec of the feature table. -/
def codec : Codec Features := .record true fields fun (virtioScsi, _) => { virtioScsi }

end Features

/-! ## Settings -/

/-- A limit that depends on the compatibility version. -/
inductive VersionedSetting where
  | maxNumOfVmCpus | maxNumOfVmSockets | maxNumOfCpuPerSocket | maxNumOfThreadsPerCpu
deriving DecidableEq

namespace VersionedSetting

/-- All limits. -/
def all : List VersionedSetting :=
  [.maxNumOfVmCpus, .maxNumOfVmSockets, .maxNumOfCpuPerSocket, .maxNumOfThreadsPerCpu]

/-- The name of a limit in messages and traces. -/
def label : VersionedSetting → String
  | .maxNumOfVmCpus => "MaxNumOfVmCpus"
  | .maxNumOfVmSockets => "MaxNumOfVmSockets"
  | .maxNumOfCpuPerSocket => "MaxNumOfCpuPerSocket"
  | .maxNumOfThreadsPerCpu => "MaxNumOfThreadsPerCpu"

end VersionedSetting

/-- The limits at one version. -/
structure VersionLimits where
  maxNumOfVmCpus : Option UInt32
  maxNumOfVmSockets : Option UInt32
  maxNumOfCpuPerSocket : Option UInt32
  maxNumOfThreadsPerCpu : Option UInt32
deriving DecidableEq

namespace VersionLimits

/-- The value of a limit, if it is set. -/
def get? (l : VersionLimits) : VersionedSetting → Option UInt32
  | .maxNumOfVmCpus => l.maxNumOfVmCpus
  | .maxNumOfVmSockets => l.maxNumOfVmSockets
  | .maxNumOfCpuPerSocket => l.maxNumOfCpuPerSocket
  | .maxNumOfThreadsPerCpu => l.maxNumOfThreadsPerCpu

/-- The fields of the limits at one version. -/
def fields : Codec.Fields VersionLimits
    [Option UInt32, Option UInt32, Option UInt32, Option UInt32] :=
  .cons (.optionalByKey "max-num-of-vm-cpus" .uint32 VersionLimits.maxNumOfVmCpus) <|
  .cons (.optionalByKey "max-num-of-vm-sockets" .uint32 VersionLimits.maxNumOfVmSockets) <|
  .cons (.optionalByKey "max-num-of-cpu-per-socket" .uint32
    VersionLimits.maxNumOfCpuPerSocket) <|
  .cons (.optionalByKey "max-num-of-threads-per-cpu" .uint32
    VersionLimits.maxNumOfThreadsPerCpu) .nil

/-- The codec of the limits at one version. -/
def codec : Codec VersionLimits :=
  .record true fields fun (maxNumOfVmCpus, maxNumOfVmSockets, maxNumOfCpuPerSocket,
      maxNumOfThreadsPerCpu, _) =>
    { maxNumOfVmCpus, maxNumOfVmSockets, maxNumOfCpuPerSocket, maxNumOfThreadsPerCpu }

end VersionLimits

/-- The operator's settings. -/
structure Settings where
  maxVmNameLengthWindows : UInt64
  maxVmNameLengthNonWindows : UInt64
  vmMinMemoryMb : UInt64
  validNumOfMonitors : List UInt32
  /-- Whether the managed hosted-engine machine may be edited. -/
  allowEditingHostedEngine : Bool
  versions : VersionTable VersionLimits
deriving DecidableEq

namespace Settings

/-- The settings of an operator who has set nothing. -/
def default : Settings where
  maxVmNameLengthWindows := 15
  maxVmNameLengthNonWindows := 64
  vmMinMemoryMb := 256
  validNumOfMonitors := [1, 2, 4]
  allowEditingHostedEngine := false
  versions := []

/-- The greatest length of a machine's name, by the family of its operating system. -/
def maxVmNameLength (s : Settings) (isWindows : Bool) : UInt64 :=
  if isWindows then s.maxVmNameLengthWindows else s.maxVmNameLengthNonWindows

/-- The value of a limit at exactly a version. -/
def limit? (s : Settings) (setting : VersionedSetting) (v : Version) : Option UInt32 :=
  (s.versions.find? v).bind (·.get? setting)

/-- The fields of the settings. -/
def fields : Codec.Fields Settings
    [UInt64, UInt64, UInt64, List UInt32, Bool, VersionTable VersionLimits] :=
  .cons (.defaulting "max-vm-name-length-windows" .uint64 Settings.maxVmNameLengthWindows
    default.maxVmNameLengthWindows) <|
  .cons (.defaulting "max-vm-name-length-non-windows" .uint64 Settings.maxVmNameLengthNonWindows
    default.maxVmNameLengthNonWindows) <|
  .cons (.defaulting "vm-min-memory-mb" .uint64 Settings.vmMinMemoryMb default.vmMinMemoryMb) <|
  .cons (.defaulting "valid-num-of-monitors" (.list .uint32) Settings.validNumOfMonitors
    default.validNumOfMonitors) <|
  .cons (.defaulting "allow-editing-hosted-engine" .bool Settings.allowEditingHostedEngine
    default.allowEditingHostedEngine) <|
  .cons (.defaulting "versions" (VersionTable.codec VersionLimits.codec) Settings.versions
    default.versions) .nil

/-- The codec of the settings. -/
def codec : Codec Settings :=
  .record true fields fun (maxVmNameLengthWindows, maxVmNameLengthNonWindows, vmMinMemoryMb,
      validNumOfMonitors, allowEditingHostedEngine, versions, _) =>
    { maxVmNameLengthWindows, maxVmNameLengthNonWindows, vmMinMemoryMb, validNumOfMonitors,
      allowEditingHostedEngine, versions }

end Settings

/-! ## Guest operating systems -/

/-- What one version overrides of an operating system's entry. -/
structure OsOverride where
  minMemoryMb : Option UInt64
  maxMemoryMb : Option UInt64
  diskInterfaces : Option (List DiskInterface)
  unsupportedCpus : Option NameSet
deriving DecidableEq

namespace OsOverride

/-- The fields of an override. -/
def fields : Codec.Fields OsOverride
    [Option UInt64, Option UInt64, Option (List DiskInterface), Option NameSet] :=
  .cons (.optionalByKey "min-memory-mb" .uint64 OsOverride.minMemoryMb) <|
  .cons (.optionalByKey "max-memory-mb" .uint64 OsOverride.maxMemoryMb) <|
  .cons (.optionalByKey "disk-interfaces" (.list DiskInterface.codec)
    OsOverride.diskInterfaces) <|
  .cons (.optionalByKey "unsupported-cpus" NameSet.codec OsOverride.unsupportedCpus) .nil

/-- The codec of overrides. -/
def codec : Codec OsOverride :=
  .record true fields fun (minMemoryMb, maxMemoryMb, diskInterfaces, unsupportedCpus, _) =>
    { minMemoryMb, maxMemoryMb, diskInterfaces, unsupportedCpus }

end OsOverride

/-- A guest operating system of the catalog. -/
structure OsEntry where
  id : OsId
  /-- The name to show where a problem with this system is reported. -/
  name : String
  isWindows : Bool
  architecture : Architecture
  minMemoryMb : UInt64
  maxMemoryMb : UInt64
  diskInterfaces : List DiskInterface
  /-- The processor models that the system cannot run on. -/
  unsupportedCpus : NameSet
  versions : VersionTable OsOverride
deriving DecidableEq

namespace OsEntry

/-- What a version says of the part of the entry that `part` picks, or else what the entry says. -/
def resolve {α : Type} (os : OsEntry) (v : Version) (part : OsOverride → Option α) (base : α) : α :=
  ((os.versions.find? v).bind part).getD base

/-- The least memory at a version. -/
def minMemoryMbAt (os : OsEntry) (v : Version) : UInt64 :=
  os.resolve v OsOverride.minMemoryMb os.minMemoryMb

/-- The greatest memory at a version. -/
def maxMemoryMbAt (os : OsEntry) (v : Version) : UInt64 :=
  os.resolve v OsOverride.maxMemoryMb os.maxMemoryMb

/-- The disk interfaces at a version. -/
def diskInterfacesAt (os : OsEntry) (v : Version) : List DiskInterface :=
  os.resolve v OsOverride.diskInterfaces os.diskInterfaces

/-- The processor models that the system cannot run on at a version. -/
def unsupportedCpusAt (os : OsEntry) (v : Version) : NameSet :=
  os.resolve v OsOverride.unsupportedCpus os.unsupportedCpus

/-- The fields of an entry. -/
def fields : Codec.Fields OsEntry
    [OsId, String, Bool, Architecture, UInt64, UInt64, List DiskInterface, NameSet,
     VersionTable OsOverride] :=
  .cons (.required "id" .uint32 OsEntry.id) <|
  .cons (.required "name" .text OsEntry.name) <|
  .cons (.defaulting "windows" .bool OsEntry.isWindows false) <|
  .cons (.defaulting "architecture" Architecture.codec OsEntry.architecture .x86_64) <|
  .cons (.defaulting "min-memory-mb" .uint64 OsEntry.minMemoryMb 0) <|
  .cons (.required "max-memory-mb" .uint64 OsEntry.maxMemoryMb) <|
  .cons (.required "disk-interfaces" (.list DiskInterface.codec) OsEntry.diskInterfaces) <|
  .cons (.defaulting "unsupported-cpus" NameSet.codec OsEntry.unsupportedCpus []) <|
  .cons (.defaulting "versions" (VersionTable.codec OsOverride.codec) OsEntry.versions []) .nil

/-- The codec of entries. -/
def codec : Codec OsEntry :=
  .record true fields fun (id, name, isWindows, architecture, minMemoryMb, maxMemoryMb,
      diskInterfaces, unsupportedCpus, versions, _) =>
    { id, name, isWindows, architecture, minMemoryMb, maxMemoryMb, diskInterfaces,
      unsupportedCpus, versions }

end OsEntry

/-! ## All tables -/

/-- The capability tables. -/
structure Capabilities where
  features : Features
  settings : Settings
  operatingSystems : List OsEntry
deriving DecidableEq

namespace Capabilities

/-- Whether a version provides a feature. -/
def isFeatureSupported (c : Capabilities) (f : Feature) (v : Version) : Bool :=
  (c.features.since? f).any fun since => since ≤ v

/-- The first entry with a number. -/
def os? (c : Capabilities) (id : OsId) : Option OsEntry :=
  c.operatingSystems.find? fun os => os.id = id

/-- The fields of the tables. -/
def fields : Codec.Fields Capabilities [Features, Settings, List OsEntry] :=
  .cons (.defaulting "features" Features.codec Capabilities.features ⟨none⟩) <|
  .cons (.defaulting "settings" Settings.codec Capabilities.settings .default) <|
  .cons (.defaulting "os" (.list OsEntry.codec) Capabilities.operatingSystems []) .nil

/-- The codec of the tables. -/
def codec : Codec Capabilities :=
  .record true fields fun (features, settings, operatingSystems, _) =>
    { features, settings, operatingSystems }

end Capabilities

end VmAdmission
