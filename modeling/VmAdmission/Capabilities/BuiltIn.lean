import VmAdmission.Capabilities

/-!
# Built-in capability tables

The tables that hold where none are given.
-/

namespace VmAdmission.Capabilities

/-- The limits at versions 4.1 and 4.2, which differ in the number of processors. -/
def builtInLimits (vmCpus : UInt32) : VersionLimits where
  maxNumOfVmCpus := some vmCpus
  maxNumOfVmSockets := some 16
  maxNumOfCpuPerSocket := some 254
  maxNumOfThreadsPerCpu := some 8

/-- The operating systems that the built-in tables know. -/
def builtInOperatingSystems : List OsEntry := [
  { id := 0
    name := "Other OS"
    isWindows := false
    architecture := .x86_64
    minMemoryMb := 0
    maxMemoryMb := 4194304
    diskInterfaces := [.ide, .virtio, .virtioScsi]
    unsupportedCpus := []
    versions := [] },
  { id := 5
    name := "Red Hat Enterprise Linux 7.x x64"
    isWindows := false
    architecture := .x86_64
    minMemoryMb := 1024
    maxMemoryMb := 4194304
    diskInterfaces := [.ide, .virtio, .virtioScsi, .sata]
    unsupportedCpus := ["Intel Conroe Family"]
    versions := [] },
  { id := 11
    name := "Windows XP"
    isWindows := true
    architecture := .x86_64
    minMemoryMb := 0
    maxMemoryMb := 4096
    diskInterfaces := [.ide]
    unsupportedCpus := []
    versions := [(⟨4, 2⟩, ⟨none, none, some [.ide, .virtio], none⟩)] },
  { id := 1001
    name := "Red Hat Enterprise Linux 7.x ppc64"
    isWindows := false
    architecture := .ppc64
    minMemoryMb := 0
    maxMemoryMb := 1048576
    diskInterfaces := [.virtio, .virtioScsi, .spaprVscsi]
    unsupportedCpus := []
    versions := [] }]

/-- The built-in tables. -/
def builtIn : Capabilities where
  features := ⟨some ⟨3, 3⟩⟩
  settings := { Settings.default with
    versions := [(⟨4, 1⟩, builtInLimits 288), (⟨4, 2⟩, builtInLimits 384)] }
  operatingSystems := builtInOperatingSystems

end VmAdmission.Capabilities
