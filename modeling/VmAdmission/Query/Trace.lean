import VmAdmission.Query

/-!
# Traces of queries

The line that a query leaves in a trace: its name, and its arguments in order.
-/

namespace VmAdmission

/-- The name of a query to the inventory. -/
def InventoryQuery.traceName : InventoryQuery → String
  | .vm _ => "find_vm"
  | .cluster _ => "find_cluster"
  | .host _ => "find_host"
  | .disk _ => "find_disk"
  | .attachmentsOf _ => "find_attachments_for_disk"
  | .disksOf _ _ => "find_disks_for_vm"
  | .isNameInUse _ _ => "is_vm_name_in_use"
  | .hasController _ _ => "has_controller_attached"

/-- The name of a query to the catalog. -/
def OsQuery.traceName : OsQuery → String
  | .supportsInterface _ _ _ => "is_disk_interface_supported"
  | .name _ => "os_name"
  | .isWindows _ => "is_windows"
  | .memoryBounds _ _ => "memory_bounds_mb"
  | .supportsCpu _ _ _ => "is_cpu_supported"

/-- The name of a query to the settings. -/
def SettingsQuery.traceName : SettingsQuery → String
  | .supportsFeature _ _ => "is_feature_supported"
  | .limit _ _ => "versioned_limit"
  | .maxNameLength _ => "max_vm_name_length"
  | .minMemory => "vm_min_memory_mb"
  | .monitorCounts => "valid_num_of_monitors"
  | .allowsProtectedEditing => "is_editing_protected_vm_allowed"

/-- The name of a query. -/
def Query.traceName : Query → String
  | .inventory q => q.traceName
  | .os q => q.traceName
  | .settings q => q.traceName

/-- The arguments of a query to the inventory. -/
def InventoryQuery.traceArguments : InventoryQuery → List Datum
  | .vm id | .cluster id | .host id | .disk id | .attachmentsOf id => [.text id.render]
  | .disksOf id onlyPlugged => [.text id.render, .bool onlyPlugged]
  | .isNameInUse name pool => [.text name, .text pool.render]
  | .hasController id kind => [.text id.render, .text kind.name]

/-- The arguments of a query to the catalog. -/
def OsQuery.traceArguments : OsQuery → List Datum
  | .supportsInterface os v i => [.int os.toNat, .text v.render, .text i.displayName]
  | .name os | .isWindows os => [.int os.toNat]
  | .memoryBounds os v => [.int os.toNat, .text v.render]
  | .supportsCpu os v cpu => [.int os.toNat, .text v.render, .text cpu]

/-- The arguments of a query to the settings. -/
def SettingsQuery.traceArguments : SettingsQuery → List Datum
  | .supportsFeature f v => [.text f.label, .text v.render]
  | .limit s v => [.text s.label, .text v.render]
  | .maxNameLength isWindows => [.bool isWindows]
  | .minMemory | .monitorCounts | .allowsProtectedEditing => []

/-- The arguments of a query. -/
def Query.traceArguments : Query → List Datum
  | .inventory q => q.traceArguments
  | .os q => q.traceArguments
  | .settings q => q.traceArguments

/-- The line of a query in a trace. -/
def Query.trace (q : Query) : Datum := .list (.text q.traceName :: q.traceArguments)

end VmAdmission
