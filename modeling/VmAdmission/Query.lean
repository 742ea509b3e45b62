import VmAdmission.Fault

/-!
# Queries

What the rules ask the services, with the type of each answer.
-/

namespace VmAdmission

/-- What the inventory is asked. -/
inductive InventoryQuery where
  | vm (id : Uuid)
  | cluster (id : Uuid)
  | host (id : Uuid)
  | disk (id : Uuid)
  /-- Every attachment of a disk, with the machine it is attached to. -/
  | attachmentsOf (disk : Uuid)
  /-- The disks attached to a machine itself, or only the plugged ones. -/
  | disksOf (vm : Uuid) (onlyPlugged : Bool)
  /-- Whether a machine of the storage pool bears the name. -/
  | isNameInUse (name : String) (storagePool : Uuid)
  | hasController (vm : Uuid) (kind : ControllerKind)
deriving DecidableEq

/-- What the catalog of operating systems is asked. -/
inductive OsQuery where
  | supportsInterface (os : OsId) (version : Version) (interface : DiskInterface)
  | name (os : OsId)
  | isWindows (os : OsId)
  /-- The least and the greatest memory. -/
  | memoryBounds (os : OsId) (version : Version)
  | supportsCpu (os : OsId) (version : Version) (cpu : String)
deriving DecidableEq

/-- What the settings are asked. -/
inductive SettingsQuery where
  | supportsFeature (feature : Feature) (version : Version)
  | limit (setting : VersionedSetting) (version : Version)
  | maxNameLength (isWindows : Bool)
  | minMemory
  | monitorCounts
  | allowsProtectedEditing
deriving DecidableEq

/-- A question to one of the services. -/
inductive Query where
  | inventory (query : InventoryQuery)
  | os (query : OsQuery)
  | settings (query : SettingsQuery)
deriving DecidableEq

/-- The type of an answer of the inventory. -/
abbrev InventoryQuery.Answer : InventoryQuery → Type
  | .vm _ => Option Vm
  | .cluster _ => Option Cluster
  | .host _ => Option Host
  | .disk _ => Option Disk
  | .attachmentsOf _ => List (Vm × Attachment)
  | .disksOf _ _ => List (Disk × Attachment)
  | .isNameInUse _ _ | .hasController _ _ => Bool

/-- The type of an answer of the catalog. -/
abbrev OsQuery.Answer : OsQuery → Type
  | .supportsInterface _ _ _ | .isWindows _ | .supportsCpu _ _ _ => Bool
  | .name _ => String
  | .memoryBounds _ _ => UInt64 × UInt64

/-- The type of an answer of the settings. -/
abbrev SettingsQuery.Answer : SettingsQuery → Type
  | .supportsFeature _ _ | .allowsProtectedEditing => Bool
  | .limit _ _ => UInt32
  | .maxNameLength _ | .minMemory => UInt64
  | .monitorCounts => List UInt32

/-- The type of an answer. -/
abbrev Query.Answer : Query → Type
  | .inventory q => q.Answer
  | .os q => q.Answer
  | .settings q => q.Answer

/-- The service that a query goes to. -/
def Query.service : Query → Service
  | .inventory _ => .inventory
  | .os _ => .os
  | .settings _ => .settings

end VmAdmission
