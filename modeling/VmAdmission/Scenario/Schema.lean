import VmAdmission.Scenario
import VmAdmission.Schema

/-!
# The schema of scenarios

What a scenario's document holds, for those who write one: each kind of value in it, under a name of
its own.
-/

namespace VmAdmission.Scenario

open Schema

/-- An identifier that may be left out. -/
def optionalUuid : Schema := .defaulting .null (.nullable .uuid)

/-- A flag that is down if it is left out. -/
def flag : Schema := .defaulting (.bool false) .bool

/-- A list that is empty if it is left out. -/
def listOf (items : Schema) : Schema := .defaulting (.list []) (.list items)

/-! ## Clusters and hosts -/

/-- Processor architectures. -/
def architectureSchema : Schema := .oneOf (Architecture.all.map Architecture.name)

/-- Clusters. -/
def clusterSchema : Schema := .record true [
  ("id", .uuid),
  ("compatibility_version", .named "Version"),
  ("architecture", .defaulting (Architecture.codec.write .x86_64) (.named "Architecture")),
  ("cpu_name", .described "The CPU model name every host in this cluster provides."
    (.defaulting .null (.nullable .text)))]

/-- Hosts. -/
def hostSchema : Schema := .described "A compute host." <| .record true [
  ("id", .uuid),
  ("name", .text),
  ("cluster_id", .uuid)]

/-! ## Disks -/

/-- Disk interfaces. -/
def interfaceSchema : Schema :=
  .described "The bus through which a disk is presented to the guest." <|
    .oneOf (DiskInterface.all.map DiskInterface.name)

/-- Controller kinds. -/
def controllerKindSchema : Schema :=
  .described "Controller devices a VM may carry." <|
    .oneOf (ControllerKind.all.map ControllerKind.name)

/-- Controllers. -/
def controllerSchema : Schema := .described "A controller device present on a VM." <| .record true [
  ("vm_id", .uuid),
  ("kind", .named "ControllerKind")]

/-- The setting of SCSI generic IO. -/
def sgioSchema : Schema :=
  .described "Whether raw SCSI commands issued by the guest reach the underlying LUN." <|
    .oneOf (ScsiGenericIo.all.map ScsiGenericIo.name)

/-- Backings. -/
def backingSchema : Schema := .union [
  .described "An image-based disk: a volume chain on a storage domain." <| .record false [
    ("type", .oneOf ["image"]),
    ("size_bytes", .word 64)],
  .described "A directly attached LUN." <| .record false [
    ("type", .oneOf ["lun"]),
    ("lun_id", .text),
    ("using_scsi_reservation", .described
      "Whether SCSI persistent reservation is requested for the attachment being validated."
      flag)],
  .described "A volume provided by an external block storage service." <| .record false [
    ("type", .oneOf ["cinder"]),
    ("size_bytes", .word 64)]]

/-- Disks. -/
def diskSchema : Schema := .described "A snapshot of a disk." <| .record true [
  ("id", .uuid),
  ("alias", .text),
  ("interface", .named "DiskInterface"),
  ("read_only", flag),
  ("sgio", .described "Unset unless the disk was explicitly configured for SCSI generic IO."
    (.defaulting .null (.nullable (.named "ScsiGenericIo")))),
  ("scsi_passthrough", flag),
  ("infrastructure_store", .described
    ("Marks internal bookkeeping volumes (e.g. OVF stores) that users may never operate on " ++
      "directly.")
    flag),
  ("backing", .named "DiskBacking")]

/-- Attachments. -/
def attachmentSchema : Schema := .described "The attachment of a disk to a VM." <| .record true [
  ("vm_id", .uuid),
  ("disk_id", .uuid),
  ("plugged", .bool),
  ("snapshot_id", .described
    ("Set when the disk is attached through one of the VM's snapshots rather than to the " ++
      "active VM.")
    optionalUuid),
  ("using_scsi_reservation", flag)]

/-! ## Machines -/

/-- Statuses. -/
def statusSchema : Schema :=
  .described "A VM's lifecycle status as last reported by its host." <|
    .oneOf (VmStatus.all.map VmStatus.name)

/-- Origins. -/
def originSchema : Schema :=
  .described
    ("Where a VM came from. Hosted-engine origins mark the VM that runs the management stack " ++
      "itself.") <|
    .oneOf (Origin.all.map Origin.name)

/-- Kinds of migration support. -/
def migrationSupportSchema : Schema := .oneOf (MigrationSupport.all.map MigrationSupport.name)

/-- Processor layouts. -/
def cpuTopologySchema : Schema :=
  .described "The guest-visible CPU layout of a VM." <| .record true [
    ("sockets", .word 32),
    ("cores_per_socket", .word 32),
    ("threads_per_core", .word 32)]

/-- What is said about machines. -/
def vmDescription : String :=
  "A snapshot of a virtual machine.\n\nThe same type describes both a VM as loaded from the " ++
    "inventory and the state an update operation proposes for it. In the latter case the " ++
    "runtime fields (`status`, `cluster_compatibility_version`) are taken from the loaded VM, " ++
    "not from the proposal."

/-- Machines. -/
def vmSchema : Schema := .described vmDescription <| .record true [
  ("id", .uuid),
  ("name", .text),
  ("status", .named "VmStatus"),
  ("cluster_id", .uuid),
  ("storage_pool_id", .uuid),
  ("os_id", .word 32),
  ("migration_support",
    .defaulting (MigrationSupport.codec.write .migratable) (.named "MigrationSupport")),
  ("origin", .defaulting (Origin.codec.write .ovirt) (.named "OriginType")),
  ("cluster_compatibility_version", .described
    "The compatibility version of the cluster this VM runs in." (.named "Version")),
  ("custom_compatibility_version", .described
    "Overrides the cluster's compatibility version for this VM only."
    (.defaulting .null (.nullable (.named "Version")))),
  ("memory_mb", .word 64),
  ("num_of_monitors", .defaulting (.int 1) (.word 32)),
  ("cpu_topology", .defaulting (CpuTopology.codec.write .single) (.named "CpuTopology")),
  ("cpu_name", .described "A CPU model name that overrides the cluster's CPU for this VM."
    (.defaulting .null (.nullable .text))),
  ("dedicated_hosts", .described
    "Hosts this VM is pinned to. Empty means any host in the cluster." (listOf .uuid))]

/-! ## Inventories and operations -/

/-- Inventories. -/
def inventorySchema : Schema := .record true [
  ("vms", listOf (.named "Vm")),
  ("clusters", listOf (.named "Cluster")),
  ("hosts", listOf (.named "Host")),
  ("disks", listOf (.named "Disk")),
  ("attachments", listOf (.named "VmDevice")),
  ("controllers", listOf (.named "Controller"))]

/-- Operations. -/
def operationSchema : Schema :=
  .described "A mutation the engine can be asked to validate." <| .union [
    .described "A proposed change to a VM's properties." <| .record false [
      ("kind", .oneOf ["update_vm"]),
      ("vm", .described "The VM as it should look after the update. Its `id` selects the VM."
        (.named "Vm")),
      ("virtio_scsi_enabled", .described
        "Set when the update turns the VM's VirtIO-SCSI controller on or off."
        (.defaulting .null (.nullable .bool)))],
    .described
      ("Attach an existing disk to a VM, or to one of its snapshots when `snapshot_id` is " ++
        "set.") <| .record false [
      ("kind", .oneOf ["attach_disk"]),
      ("disk", .named "Disk"),
      ("vm_id", .uuid),
      ("snapshot_id", optionalUuid)],
    .described
      ("Change a disk's properties. `vm_id` names the VM whose attachment the change is made " ++
        "through; omit it for a floating disk.") <| .record false [
      ("kind", .oneOf ["update_disk"]),
      ("disk", .named "Disk"),
      ("vm_id", optionalUuid)],
    .record false [
      ("kind", .oneOf ["detach_disk"]),
      ("disk_id", .uuid),
      ("vm_id", .uuid)],
    .record false [
      ("kind", .oneOf ["remove_disk"]),
      ("disk_id", .uuid)],
    .described "Remove the snapshots of a disk, leaving the active volume in place." <|
      .record false [
        ("kind", .oneOf ["remove_disk_snapshots"]),
        ("disk_id", .uuid)]]

/-- The kinds of values in a scenario, by name. -/
def definitions : List (String × Schema) := [
  ("Architecture", architectureSchema),
  ("Cluster", clusterSchema),
  ("Controller", controllerSchema),
  ("ControllerKind", controllerKindSchema),
  ("CpuTopology", cpuTopologySchema),
  ("Disk", diskSchema),
  ("DiskBacking", backingSchema),
  ("DiskInterface", interfaceSchema),
  ("Host", hostSchema),
  ("InMemoryInventory", inventorySchema),
  ("MigrationSupport", migrationSupportSchema),
  ("Operation", operationSchema),
  ("OriginType", originSchema),
  ("ScsiGenericIo", sgioSchema),
  ("Version", .text),
  ("Vm", vmSchema),
  ("VmDevice", attachmentSchema),
  ("VmStatus", statusSchema)]

/-- Scenarios. -/
def schema : Schema :=
  .described "A state of the world and a mutation proposed against it." <| .record true [
    ("inventory", .defaulting (Inventory.codec.write .empty) (.named "InMemoryInventory")),
    ("operation", .named "Operation")]

/-- The schema document of scenarios. -/
def schemaDocument : Datum := Schema.document "Scenario" schema definitions

end VmAdmission.Scenario
