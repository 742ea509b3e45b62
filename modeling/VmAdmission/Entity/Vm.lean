import VmAdmission.Codec.Record

/-!
# Virtual machines

The same type describes a machine as stored and the state that an update proposes for it; of a
proposal the fields that only the running system knows are not looked at. `CpuTopology.vcpus_toNat`
says that the count of virtual processors is the exact product, cut off at the greatest 64-bit
number.
-/

namespace VmAdmission

/-- The number of a guest operating system in the catalog. -/
abbrev OsId := UInt32

/-! ## States and kinds -/

/-- A machine's status as its host last reported it. -/
inductive VmStatus where
  | down | up | poweringUp | paused | suspended | migratingFrom | migratingTo | rebootInProgress
  | poweringDown | imageLocked | notResponding | unknown
deriving DecidableEq

namespace VmStatus

/-- All statuses. -/
def all : List VmStatus :=
  [.down, .up, .poweringUp, .paused, .suspended, .migratingFrom, .migratingTo, .rebootInProgress,
   .poweringDown, .imageLocked, .notResponding, .unknown]

/-- The status's name in documents. -/
def name : VmStatus → String
  | .down => "down"
  | .up => "up"
  | .poweringUp => "powering_up"
  | .paused => "paused"
  | .suspended => "suspended"
  | .migratingFrom => "migrating_from"
  | .migratingTo => "migrating_to"
  | .rebootInProgress => "reboot_in_progress"
  | .poweringDown => "powering_down"
  | .imageLocked => "image_locked"
  | .notResponding => "not_responding"
  | .unknown => "unknown"

/-- The codec of statuses. -/
def codec : Codec VmStatus := .enumeration all name

end VmStatus

/-- Where a machine came from. The two hosted-engine origins mark the machine that runs the
management stack itself. -/
inductive Origin where
  | ovirt | hostedEngine | managedHostedEngine | external | vmware | xen | kvm
deriving DecidableEq

namespace Origin

/-- All origins. -/
def all : List Origin :=
  [.ovirt, .hostedEngine, .managedHostedEngine, .external, .vmware, .xen, .kvm]

/-- The origin's name in documents. -/
def name : Origin → String
  | .ovirt => "ovirt"
  | .hostedEngine => "hosted_engine"
  | .managedHostedEngine => "managed_hosted_engine"
  | .external => "external"
  | .vmware => "vmware"
  | .xen => "xen"
  | .kvm => "kvm"

/-- The codec of origins. -/
def codec : Codec Origin := .enumeration all name

end Origin

/-- Whether a machine may move to another host while it runs. -/
inductive MigrationSupport where
  | migratable | implicitlyNonMigratable | pinnedToHost
deriving DecidableEq

namespace MigrationSupport

/-- All kinds of support. -/
def all : List MigrationSupport := [.migratable, .implicitlyNonMigratable, .pinnedToHost]

/-- The name in documents. -/
def name : MigrationSupport → String
  | .migratable => "migratable"
  | .implicitlyNonMigratable => "implicitly_non_migratable"
  | .pinnedToHost => "pinned_to_host"

/-- The codec of migration support. -/
def codec : Codec MigrationSupport := .enumeration all name

end MigrationSupport

/-! ## Processor layout -/

/-- The product of two 64-bit numbers, or the greatest such number if the product is beyond it. -/
def saturatingMul (a b : UInt64) : UInt64 :=
  if a.toNat * b.toNat < UInt64.size then a * b else .ofNat (UInt64.size - 1)

theorem saturatingMul_toNat (a b : UInt64) :
    (saturatingMul a b).toNat = min (a.toNat * b.toNat) (UInt64.size - 1) := by
  unfold saturatingMul
  split
  · rename_i h
    have hs : UInt64.size = 2 ^ 64 := rfl
    rw [UInt64.toNat_mul, Nat.mod_eq_of_lt (by omega)]
    omega
  · rename_i h
    have : (UInt64.ofNat (UInt64.size - 1)).toNat = UInt64.size - 1 := rfl
    omega

/-- The processor layout that a guest sees. -/
structure CpuTopology where
  sockets : UInt32
  coresPerSocket : UInt32
  threadsPerCore : UInt32
deriving DecidableEq

namespace CpuTopology

/-- The number of virtual processors, or the greatest 64-bit number if there are more. -/
def vcpus (t : CpuTopology) : UInt64 :=
  saturatingMul (saturatingMul t.sockets.toUInt64 t.coresPerSocket.toUInt64)
    t.threadsPerCore.toUInt64

/-- The exact number of virtual processors. -/
def product (t : CpuTopology) : Nat :=
  t.sockets.toNat * t.coresPerSocket.toNat * t.threadsPerCore.toNat

theorem vcpus_toNat (t : CpuTopology) : t.vcpus.toNat = min t.product (UInt64.size - 1) := by
  have hs : t.sockets.toNat < 4294967296 := t.sockets.toNat_lt
  have hc : t.coresPerSocket.toNat < 4294967296 := t.coresPerSocket.toNat_lt
  -- two of the numbers never reach the cut; only the third may
  have h : t.sockets.toNat * t.coresPerSocket.toNat ≤ UInt64.size - 1 :=
    Nat.le_trans (Nat.mul_le_mul (Nat.le_of_lt_succ hs) (Nat.le_of_lt_succ hc)) (by decide)
  unfold vcpus product
  rw [saturatingMul_toNat, saturatingMul_toNat, UInt32.toNat_toUInt64, UInt32.toNat_toUInt64,
    UInt32.toNat_toUInt64, Nat.min_eq_left h]

/-- One socket with one core of one thread. -/
def single : CpuTopology := ⟨1, 1, 1⟩

/-- The fields of a processor layout. -/
def fields : Codec.Fields CpuTopology [UInt32, UInt32, UInt32] :=
  .cons (.required "sockets" .uint32 CpuTopology.sockets) <|
  .cons (.required "cores_per_socket" .uint32 CpuTopology.coresPerSocket) <|
  .cons (.required "threads_per_core" .uint32 CpuTopology.threadsPerCore) .nil

/-- The codec of processor layouts. -/
def codec : Codec CpuTopology :=
  .record true fields fun (sockets, coresPerSocket, threadsPerCore, _) =>
    { sockets, coresPerSocket, threadsPerCore }

end CpuTopology

/-! ## Machines -/

/-- A snapshot of a virtual machine. -/
structure Vm where
  id : Uuid
  name : String
  status : VmStatus
  clusterId : Uuid
  storagePoolId : Uuid
  osId : OsId
  migrationSupport : MigrationSupport
  origin : Origin
  /-- The compatibility version of the cluster that the machine runs in. -/
  clusterCompatibilityVersion : Version
  /-- The version that takes the cluster's place for this machine. -/
  customCompatibilityVersion : Option Version
  memoryMb : UInt64
  numOfMonitors : UInt32
  cpuTopology : CpuTopology
  /-- The processor model that takes the cluster's place for this machine. -/
  cpuName : Option String
  /-- The hosts that the machine is pinned to; none means any host of the cluster. -/
  dedicatedHosts : List Uuid
deriving DecidableEq

namespace Vm

/-- The compatibility version that decides what the machine may use. -/
def effectiveVersion (vm : Vm) : Version :=
  vm.customCompatibilityVersion.getD vm.clusterCompatibilityVersion

/-- Whether the machine runs the management stack. -/
def isHostedEngine (vm : Vm) : Bool :=
  vm.origin = .hostedEngine || vm.origin = .managedHostedEngine

/-- Whether the machine runs the management stack and is managed by it. -/
def isManagedHostedEngine (vm : Vm) : Bool := vm.origin = .managedHostedEngine

/-- Whether the machine is down. -/
def isDown (vm : Vm) : Bool := vm.status = .down

/-- The fields of a machine. -/
def fields : Codec.Fields Vm
    [Uuid, String, VmStatus, Uuid, Uuid, OsId, MigrationSupport, Origin, Version, Option Version,
     UInt64, UInt32, CpuTopology, Option String, List Uuid] :=
  .cons (.required "id" .uuid Vm.id) <|
  .cons (.required "name" .text Vm.name) <|
  .cons (.required "status" VmStatus.codec Vm.status) <|
  .cons (.required "cluster_id" .uuid Vm.clusterId) <|
  .cons (.required "storage_pool_id" .uuid Vm.storagePoolId) <|
  .cons (.required "os_id" .uint32 Vm.osId) <|
  .cons (.defaulting "migration_support" MigrationSupport.codec Vm.migrationSupport
    .migratable) <|
  .cons (.defaulting "origin" Origin.codec Vm.origin .ovirt) <|
  .cons (.required "cluster_compatibility_version" .version Vm.clusterCompatibilityVersion) <|
  .cons (.optional "custom_compatibility_version" .version Vm.customCompatibilityVersion) <|
  .cons (.required "memory_mb" .uint64 Vm.memoryMb) <|
  .cons (.defaulting "num_of_monitors" .uint32 Vm.numOfMonitors 1) <|
  .cons (.defaulting "cpu_topology" CpuTopology.codec Vm.cpuTopology .single) <|
  .cons (.optional "cpu_name" .text Vm.cpuName) <|
  .cons (.defaulting "dedicated_hosts" (.list .uuid) Vm.dedicatedHosts []) .nil

/-- The codec of machines. -/
def codec : Codec Vm :=
  .record true fields fun (id, name, status, clusterId, storagePoolId, osId, migrationSupport,
      origin, clusterCompatibilityVersion, customCompatibilityVersion, memoryMb, numOfMonitors,
      cpuTopology, cpuName, dedicatedHosts, _) =>
    { id, name, status, clusterId, storagePoolId, osId, migrationSupport, origin,
      clusterCompatibilityVersion, customCompatibilityVersion, memoryMb, numOfMonitors,
      cpuTopology, cpuName, dedicatedHosts }

end Vm

end VmAdmission
