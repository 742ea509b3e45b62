import VmAdmission.Consult
import VmAdmission.Text.Alphanumeric
import VmAdmission.Verdict

/-!
# Rules about updates of machines

Each rule compares the state proposed for a machine with the stored one. Limits and capabilities
are those of the version that the machine will have after the update: the custom version that is
proposed, or else the cluster's.
-/

namespace VmAdmission

/-- What an update of a machine is judged by: the stored machine, the proposed one, and the cluster
of the stored one. -/
structure VmChange where
  current : Vm
  proposed : Vm
  cluster : Cluster

namespace VmChange

open Consult

/-- The compatibility version of the machine after the update. -/
def version (c : VmChange) : Version :=
  c.proposed.customCompatibilityVersion.getD c.cluster.compatibilityVersion

/-! ## The name -/

/-- Whether a character may stand in a machine's name. -/
def isNameChar (c : Char) : Bool := Text.isAlphanumeric c || c = '.' || c = '_' || c = '-'

/-- The name is not empty, is made of letters, digits, `.`, `_` and `-`, and is no longer than the
family of the guest operating system allows. -/
def name (c : VmChange) : Consult Verdict :=
  let name := c.proposed.name
  if name.isEmpty then return .reject .nameIsEmpty
  else if !name.toList.all isNameChar then return .reject .nameHasSpecialChars
  else do
    let windows ← isWindows c.proposed.osId
    let greatest ← maxNameLength windows
    if name.length > greatest.toNat then
      return (Verdict.reject .nameIsTooLong).filling "maxLength" greatest.toNat.repr
    else return .accepted

/-- No machine of the storage pool bears the name, if it changes. -/
def nameUnique (c : VmChange) : Consult Verdict :=
  if c.proposed.name = c.current.name then return .accepted
  else return .rejectIf (← isNameInUse c.proposed.name c.current.storagePoolId) .nameAlreadyUsed

/-! ## Sizes -/

/-- The memory is at least the least of any machine and of the guest operating system, and at most
the greatest of the latter. -/
def memory (c : VmChange) : Consult Verdict := do
  let (osLeast, greatest) ← memoryBounds c.proposed.osId c.version
  let least := max osLeast (← minMemory)
  if c.proposed.memoryMb < least ∨ greatest < c.proposed.memoryMb then
    return ((Verdict.reject .illegalMemorySize).filling "minMemorySize" least.toNat.repr).filling
      "maxMemorySize" greatest.toNat.repr
  else return .accepted

/-- The number of monitors is one of those allowed. -/
def monitors (c : VmChange) : Consult Verdict := do
  return .rejectIf (!(← monitorCounts).contains c.proposed.numOfMonitors) .illegalNumOfMonitors

/-- A limit of the processor layout: its setting, what it limits, and how its excess is reported. -/
structure CpuLimit where
  setting : VersionedSetting
  requested : CpuTopology → UInt64
  reason : Reason
  placeholder : String

/-- The limits of the processor layout, in the order in which they are looked at. -/
def cpuLimits : List CpuLimit := [
  ⟨.maxNumOfVmCpus, CpuTopology.vcpus, .tooManyCpus, "maxNumOfCpus"⟩,
  ⟨.maxNumOfVmSockets, (·.sockets.toUInt64), .tooManySockets, "maxNumOfSockets"⟩,
  ⟨.maxNumOfCpuPerSocket, (·.coresPerSocket.toUInt64), .tooManyCpusPerSocket,
    "maxNumOfCpuPerSocket"⟩,
  ⟨.maxNumOfThreadsPerCpu, (·.threadsPerCore.toUInt64), .tooManyThreadsPerCpu,
    "maxNumOfThreadsPerCpu"⟩]

/-- None of the limits is exceeded; each is looked up when its turn comes. -/
def withinLimits (t : CpuTopology) (v : Version) : List CpuLimit → Consult Verdict
  | [] => return .accepted
  | l :: limits => do
    let greatest ← limit l.setting v
    if greatest.toUInt64 < l.requested t then
      return (Verdict.reject l.reason).filling l.placeholder greatest.toNat.repr
    else withinLimits t v limits

/-- The processor layout has at least one of everything, and keeps within the limits. -/
def cpuTopology (c : VmChange) : Consult Verdict :=
  if c.proposed.cpuTopology.vcpus = 0 then return .reject .tooFewCpus
  else withinLimits c.proposed.cpuTopology c.version cpuLimits

/-! ## Placement -/

/-- The cluster does not change. -/
def clusterUnchanged (c : VmChange) : Verdict :=
  .rejectIf (c.proposed.clusterId ≠ c.current.clusterId) .clusterChanged

/-- Each of the hosts exists and is in the cluster; each is looked up when its turn comes. -/
def hostsInCluster (cluster : Uuid) : List Uuid → Consult Verdict
  | [] => return .accepted
  | id :: ids => do
    match ← host? id with
    | none => return .reject .dedicatedHostNotFound
    | some host =>
      if host.clusterId ≠ cluster then
        return (Verdict.reject .dedicatedHostInOtherCluster).filling "hostName" host.name
      else hostsInCluster cluster ids

/-- Every host that the machine is pinned to exists and is in the machine's cluster. -/
def dedicatedHosts (c : VmChange) : Consult Verdict :=
  hostsInCluster c.cluster.id c.proposed.dedicatedHosts

/-- The guest operating system runs on the machine's processor model, or on the cluster's where the
machine names none. Where neither names one, nothing is asked. -/
def cpuSupported (c : VmChange) : Consult Verdict :=
  match c.proposed.cpuName.or c.cluster.cpuName with
  | none => return .accepted
  | some cpu => do
    if ← supportsCpu c.proposed.osId c.version cpu then return .accepted
    else
      return ((Verdict.reject .cpuUnsupportedByGuestOs).filling "cpuName" cpu).filling "osName"
        (← osName c.proposed.osId)

/-- No plugged disk of the machine holds a SCSI reservation, if the machine is to be migratable. -/
def migrationWithReservation (c : VmChange) : Consult Verdict :=
  if c.proposed.migrationSupport ≠ .migratable then return .accepted
  else do
    let disks ← pluggedDisksOf c.current.id
    return .rejectIf (disks.any fun (_, a) => a.usingScsiReservation) .vmUsesScsiReservation

/-! ## Devices and protection -/

/-- No plugged disk of the machine is on VirtIO-SCSI, which is to be turned off. -/
def virtioScsiUnused (c : VmChange) : Consult Verdict := do
  let disks ← pluggedDisksOf c.current.id
  return .rejectIf (disks.any fun (d, _) => d.interface = .virtioScsi) .virtioScsiInUse

/-- The guest operating system supports VirtIO-SCSI, which is to be turned on. -/
def virtioScsiSupported (c : VmChange) : Consult Verdict := do
  let supported ← supportsInterface c.proposed.osId c.version .virtioScsi
  return .rejectIf (!supported) .virtioScsiUnsupportedByGuestOs

/-- A machine that is or becomes the managed hosted-engine one may be edited only by policy. -/
def hostedEngineEditable (c : VmChange) : Consult Verdict :=
  if !c.current.isManagedHostedEngine && !c.proposed.isManagedHostedEngine then return .accepted
  else return .rejectIf (!(← allowsProtectedEditing)) .hostedEngineEditingDisabled

end VmChange

end VmAdmission
