import VmAdmission.Consult

/-!
# Inventories

A state of the world, as tables of machines, clusters, hosts, disks, attachments and controllers.
The row of an identifier is the first one that bears it. `Inventory.answer` answers every query from
the tables; the only faults are attachments that name a missing row.
-/

namespace VmAdmission

/-- A controller device on a machine. -/
structure Controller where
  vmId : Uuid
  kind : ControllerKind
deriving DecidableEq

namespace Controller

/-- The fields of a controller. -/
def fields : Codec.Fields Controller [Uuid, ControllerKind] :=
  .cons (.required "vm_id" .uuid Controller.vmId) <|
  .cons (.required "kind" ControllerKind.codec Controller.kind) .nil

/-- The codec of controllers. -/
def codec : Codec Controller := .record true fields fun (vmId, kind, _) => { vmId, kind }

end Controller

/-- A state of the world. -/
structure Inventory where
  vms : List Vm
  clusters : List Cluster
  hosts : List Host
  disks : List Disk
  attachments : List Attachment
  controllers : List Controller
deriving DecidableEq

namespace Inventory

/-- The inventory without any rows. -/
def empty : Inventory := ⟨[], [], [], [], [], []⟩

/-- The fields of an inventory. -/
def fields : Codec.Fields Inventory
    [List Vm, List Cluster, List Host, List Disk, List Attachment, List Controller] :=
  .cons (.defaulting "vms" Vm.codec.list Inventory.vms []) <|
  .cons (.defaulting "clusters" Cluster.codec.list Inventory.clusters []) <|
  .cons (.defaulting "hosts" Host.codec.list Inventory.hosts []) <|
  .cons (.defaulting "disks" Disk.codec.list Inventory.disks []) <|
  .cons (.defaulting "attachments" Attachment.codec.list Inventory.attachments []) <|
  .cons (.defaulting "controllers" Controller.codec.list Inventory.controllers []) .nil

/-- The codec of inventories. -/
def codec : Codec Inventory :=
  .record true fields fun (vms, clusters, hosts, disks, attachments, controllers, _) =>
    { vms, clusters, hosts, disks, attachments, controllers }

/-! ## Rows -/

/-- The first machine with an identifier. -/
def vm? (inv : Inventory) (id : Uuid) : Option Vm := inv.vms.find? fun vm => vm.id = id

/-- The first cluster with an identifier. -/
def cluster? (inv : Inventory) (id : Uuid) : Option Cluster := inv.clusters.find? fun c => c.id = id

/-- The first host with an identifier. -/
def host? (inv : Inventory) (id : Uuid) : Option Host := inv.hosts.find? fun h => h.id = id

/-- The first disk with an identifier. -/
def disk? (inv : Inventory) (id : Uuid) : Option Disk := inv.disks.find? fun d => d.id = id

/-- An attachment with its machine. -/
def withVm (inv : Inventory) (a : Attachment) : Except Fault (Vm × Attachment) :=
  match inv.vm? a.vmId with
  | some vm => .ok (vm, a)
  | none => .error (.missingVm a.vmId)

/-- An attachment with its disk. -/
def withDisk (inv : Inventory) (a : Attachment) : Except Fault (Disk × Attachment) :=
  match inv.disk? a.diskId with
  | some disk => .ok (disk, a)
  | none => .error (.missingDisk a.diskId)

/-- The attachments of a disk, through snapshots or not, with their machines. -/
def attachmentsOf (inv : Inventory) (disk : Uuid) : Except Fault (List (Vm × Attachment)) :=
  (inv.attachments.filter fun a => a.diskId = disk).mapM inv.withVm

/-- Whether an attachment is one of a machine itself, and plugged if only those are wanted. -/
def isActiveOn (vm : Uuid) (onlyPlugged : Bool) (a : Attachment) : Bool :=
  a.vmId = vm && a.snapshotId.isNone && (a.plugged || !onlyPlugged)

/-- The attachments of a machine itself, with their disks. -/
def disksOf (inv : Inventory) (vm : Uuid) (onlyPlugged : Bool) :
    Except Fault (List (Disk × Attachment)) :=
  (inv.attachments.filter (isActiveOn vm onlyPlugged)).mapM inv.withDisk

/-- Whether a machine of a storage pool bears a name. -/
def isNameInUse (inv : Inventory) (name : String) (pool : Uuid) : Bool :=
  inv.vms.any fun vm => vm.name = name && vm.storagePoolId = pool

/-- Whether a machine carries a controller of a kind. -/
def hasController (inv : Inventory) (vm : Uuid) (kind : ControllerKind) : Bool :=
  inv.controllers.any fun c => c.vmId = vm && c.kind = kind

/-- The answer to a query. -/
def answer (inv : Inventory) : (q : InventoryQuery) → Except Fault q.Answer
  | .vm id => .ok (inv.vm? id)
  | .cluster id => .ok (inv.cluster? id)
  | .host id => .ok (inv.host? id)
  | .disk id => .ok (inv.disk? id)
  | .attachmentsOf id => inv.attachmentsOf id
  | .disksOf id onlyPlugged => inv.disksOf id onlyPlugged
  | .isNameInUse name pool => .ok (inv.isNameInUse name pool)
  | .hasController id kind => .ok (inv.hasController id kind)

end Inventory

end VmAdmission
