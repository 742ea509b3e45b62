import VmAdmission.Inventory

/-!
# Answers from the capability tables

How the tables answer what the catalog and the settings are asked. A system without an entry and a
limit without a value are faults.
-/

namespace VmAdmission

namespace Capabilities

/-- The entry of an operating system that must be in the catalog. -/
def os (c : Capabilities) (id : OsId) : Except Fault OsEntry :=
  match c.os? id with
  | some os => .ok os
  | none => .error (.unknownOs id)

/-- The answer to a query about operating systems. -/
def answerOs (c : Capabilities) : (q : OsQuery) → Except Fault q.Answer
  | .supportsInterface id v i => (c.os id).map fun os => (os.diskInterfacesAt v).contains i
  | .name id => (c.os id).map OsEntry.name
  | .isWindows id => (c.os id).map OsEntry.isWindows
  | .memoryBounds id v => (c.os id).map fun os => (os.minMemoryMbAt v, os.maxMemoryMbAt v)
  | .supportsCpu id v cpu => (c.os id).map fun os => !(os.unsupportedCpusAt v).contains cpu

/-- The answer to a query about the settings. -/
def answerSettings (c : Capabilities) : (q : SettingsQuery) → Except Fault q.Answer
  | .supportsFeature f v => .ok (c.isFeatureSupported f v)
  | .limit s v =>
    match c.settings.limit? s v with
    | some limit => .ok limit
    | none => .error (.missingSetting s v)
  | .maxNameLength isWindows => .ok (c.settings.maxVmNameLength isWindows)
  | .minMemory => .ok c.settings.vmMinMemoryMb
  | .monitorCounts => .ok c.settings.validNumOfMonitors
  | .allowsProtectedEditing => .ok c.settings.allowEditingHostedEngine

end Capabilities

/-- The answers of an inventory and capability tables. -/
def Answers.ofTables (inv : Inventory) (c : Capabilities) : Answers
  | .inventory q => inv.answer q
  | .os q => c.answerOs q
  | .settings q => c.answerSettings q

end VmAdmission
