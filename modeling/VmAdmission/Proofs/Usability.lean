import VmAdmission.Proofs.Catalog.UpdateDisk
import VmAdmission.Proofs.HostedEngine

/-!
# Machines that can use their disks

What a machine must bring along for a disk is judged when the disk is attached to it or updated
through it. An update of a disk judges the machine that it is made through and no other, so that a
disk may be given an interface that another of its machines cannot use
(`updateDisk_past_other_machine`). An update of a machine does not judge the disks again: it takes
no controller from them, but may leave them without a guest operating system or a version that
supports VirtIO-SCSI (`updateVm_past_plugged_disk`).
-/

namespace VmAdmission

/-- The machine can use disks on an interface: its guest operating system supports the interface,
and for VirtIO-SCSI its version provides the feature and it carries a controller. -/
structure CanUse (inv : Inventory) (c : Capabilities) (vm : Vm) (i : DiskInterface) : Prop where
  os : SupportsInterface c vm i
  virtioScsi : i = .virtioScsi → HasVirtioScsi inv c vm

variable {inv : Inventory} {c : Capabilities}

instance (vm : Vm) (i : DiskInterface) : Decidable (SupportsInterface c vm i) :=
  decidable_of_iff (((c.os? vm.osId).any fun os =>
    decide (i ∈ os.diskInterfacesAt vm.effectiveVersion)) = true)
      (by simp [SupportsInterface, Option.any_eq_true])

instance (vm : Vm) : Decidable (HasVirtioScsi inv c vm) :=
  decidable_of_iff _ DiskRule.hasVirtioScsi_iff.symm

instance (vm : Vm) (i : DiskInterface) : Decidable (CanUse inv c vm i) :=
  decidable_of_iff (SupportsInterface c vm i ∧ (i = .virtioScsi → HasVirtioScsi inv c vm))
    ⟨fun ⟨ho, hv⟩ => ⟨ho, hv⟩, fun h => ⟨h.os, h.virtioScsi⟩⟩

/-! ## Machines to try it with -/

namespace Usability

/-- A machine that is down, whose guest operating system supports VirtIO-SCSI. -/
def linux : Vm := { HostedEngine.engine with name := "linux", origin := .ovirt, osId := 5 }

/-- A machine whose guest operating system does not support VirtIO-SCSI. -/
def windows : Vm := { linux with id := .repeated ⟨5, by decide⟩, name := "windows", osId := 11 }

/-- The machine at an older version of its own. -/
def older : Vm := { linux with customCompatibilityVersion := some ⟨4, 1⟩ }

/-- The machine with a guest operating system that does not support VirtIO-SCSI. -/
def reinstalled : Vm := { linux with osId := 11 }

/-- Tables by which VirtIO-SCSI is not provided at the older version. -/
def lateScsi : Capabilities := { Capabilities.builtIn with features := ⟨some ⟨4, 2⟩⟩ }

/-- A disk on VirtIO-SCSI. -/
def scsiDisk : Disk := { HostedEngine.data with interface := .virtioScsi }

/-- The disk is plugged into a machine. -/
def plugged (vm : Vm) : Attachment where
  vmId := vm.id
  diskId := scsiDisk.id
  plugged := true
  snapshotId := none
  usingScsiReservation := false

/-- The first of some machines carries a VirtIO-SCSI controller, and a disk is plugged into all. -/
def sharing (disk : Disk) (vm : Vm) (others : List Vm) : Inventory where
  vms := vm :: others
  clusters := HostedEngine.inventory.clusters
  hosts := []
  disks := [disk]
  attachments := (vm :: others).map plugged
  controllers := [⟨vm.id, .virtioScsi⟩]

/-- The two machines share a disk that is not on VirtIO-SCSI. -/
def shared : Inventory := sharing HostedEngine.data linux [windows]

/-- A machine has a disk on VirtIO-SCSI for itself. -/
def alone (vm : Vm) : Inventory := sharing scsiDisk vm []

end Usability

/-! ## A disk's new interface -/

theorem DiskUpdatable.canUse {stored proposed : Disk} {vm? : Option Vm} {vm : Vm}
    (h : DiskUpdatable inv c stored proposed vm?)
    (hchanged : stored.interface ≠ proposed.interface) (hvm : vm? = some vm) :
    CanUse inv c vm proposed.interface where
  os := h.interface hchanged vm hvm
  virtioScsi hinterface := ((h.virtioScsi hinterface).2 vm hvm).1

/-- **New interfaces.** When a change of a disk's interface is accepted, the machine that it is made
through is stored, has the disk attached to itself and can use the new interface. Each machine that
the disk is plugged into, named or not and through a snapshot or not, is down. -/
theorem updateDisk_suits_named_machine {disk stored : Disk} {vmId : Option Uuid}
    (hacc : (Operation.updateDisk disk vmId).judge inv c = .ok .accepted)
    (hstored : inv.disk? disk.id = some stored) (hchanged : disk.interface ≠ stored.interface) :
    (∀ v, vmId = some v → ∃ vm, inv.vm? v = some vm ∧ inv.IsAttached disk.id v none ∧
      CanUse inv c vm disk.interface) ∧
    (∀ a vm, inv.IsAttachmentOf disk.id a → inv.vm? a.vmId = some vm → a.plugged = true →
      vm.status = .down) := by
  obtain ⟨stored', hdisk, hjoined, hattached, hupdatable⟩ := Operation.updateDisk_accepted_iff.1 hacc
  cases hdisk.symm.trans hstored
  constructor
  · rintro v rfl
    have hv : inv.IsAttached disk.id v none := hattached v rfl
    obtain ⟨a, ha, rfl, -⟩ := hv
    obtain ⟨vm, hvm⟩ := hjoined a ha
    exact ⟨vm, hvm, hattached _ rfl, hupdatable.canUse hchanged.symm hvm⟩
  · exact hupdatable.running (.inl hchanged.symm)

section Sharing

open Usability

/-- A disk that two machines share goes over to VirtIO-SCSI through the one that can use it. -/
theorem updateDisk_suits_linux :
    (Operation.updateDisk scsiDisk (some linux.id)).judge shared .builtIn = .ok .accepted ∧
    (∃ vm, shared.vm? linux.id = some vm ∧ shared.IsAttached scsiDisk.id linux.id none ∧
      CanUse shared .builtIn vm scsiDisk.interface) ∧
    windows.status = .down := by
  have hacc : (Operation.updateDisk scsiDisk (some linux.id)).judge shared .builtIn =
      .ok .accepted := by
    decide +kernel
  have hchanged : scsiDisk.interface ≠ HostedEngine.data.interface := by decide
  obtain ⟨hnamed, hdown⟩ := updateDisk_suits_named_machine hacc rfl hchanged
  refine ⟨hacc, hnamed linux.id rfl, hdown (plugged windows) windows ⟨?_, rfl⟩ rfl rfl⟩
  decide

/-- The other machine has the disk attached to itself and cannot use it: its guest operating system
does not support VirtIO-SCSI, and it carries no controller. The change is accepted all the same,
through the one machine or through none. -/
theorem updateDisk_past_other_machine :
    (Operation.updateDisk scsiDisk none).judge shared .builtIn = .ok .accepted ∧
    (Operation.updateDisk scsiDisk (some linux.id)).judge shared .builtIn = .ok .accepted ∧
    shared.disk? scsiDisk.id = some HostedEngine.data ∧
    scsiDisk.interface ≠ HostedEngine.data.interface ∧
    shared.vm? windows.id = some windows ∧
    shared.IsAttached scsiDisk.id windows.id none ∧
    ¬ SupportsInterface .builtIn windows scsiDisk.interface ∧
    ¬ HasVirtioScsi shared .builtIn windows := by
  refine ⟨?_, ?_, rfl, ?_, ?_, ⟨plugged windows, ⟨?_, rfl⟩, rfl, rfl⟩, ?_, ?_⟩
  · decide +kernel
  · decide +kernel
  · decide
  · decide +kernel
  · decide
  · decide +kernel
  · decide +kernel

end Sharing

/-! ## A machine's update -/

theorem HasVirtioScsi.mono {inv' : Inventory} {vm vm' : Vm} (h : HasVirtioScsi inv c vm)
    (hversion : vm.effectiveVersion ≤ vm'.effectiveVersion)
    (hcontroller : inv'.hasController vm'.id .virtioScsi = true) : HasVirtioScsi inv' c vm' where
  feature := by
    obtain ⟨since, hsince, hle⟩ := h.feature
    exact ⟨since, hsince, Version.le_trans hle hversion⟩
  controller := Inventory.hasController_eq_true_iff.1 hcontroller

namespace Inventory

/-- The controllers after an update of a machine: turned off, VirtIO-SCSI has the machine's
controllers for it removed, and turned on, it has one added. -/
def controllersAfter (inv : Inventory) (u : VmUpdate) : List Controller :=
  match u.virtioScsiEnabled with
  | none => inv.controllers
  | some true => ⟨u.vm.id, .virtioScsi⟩ :: inv.controllers
  | some false => inv.controllers.filter fun ctl => ctl ≠ ⟨u.vm.id, .virtioScsi⟩

/-- The inventory after a machine's update is carried out, with its controllers. -/
def afterUpdate (inv : Inventory) (u : VmUpdate) : Inventory :=
  inv.commit ⟨false, false, false, inv.controllersAfter u⟩ (.updateVm u)

theorem vm?_afterUpdate {u : VmUpdate} {current : Vm} (h : inv.vm? u.vm.id = some current) :
    (inv.afterUpdate u).vm? u.vm.id = some (current.updatedTo u.vm) :=
  vm?_commit_updateVm_self h

/-- Controllers are lost only where VirtIO-SCSI is turned off. -/
theorem hasController_afterUpdate {u : VmUpdate} {vm : Uuid} {kind : ControllerKind}
    (hu : u.virtioScsiEnabled ≠ some false) (h : inv.hasController vm kind = true) :
    (inv.afterUpdate u).hasController vm kind = true := by
  obtain ⟨ctl, hctl, hfits⟩ := hasController_eq_true_iff.1 h
  refine hasController_eq_true_iff.2 ⟨ctl, ?_, hfits⟩
  change ctl ∈ inv.controllersAfter u
  unfold controllersAfter
  split
  · exact hctl
  · exact List.mem_cons_of_mem _ hctl
  · contradiction

end Inventory

/-- VirtIO-SCSI is not turned off under a disk that is plugged in. -/
theorem VmChange.Admissible.not_disabled {os : OsEntry} {ch : VmChange} {enabled : Option Bool}
    {a : Attachment} {disk : Disk} (h : ch.Admissible inv c os enabled)
    (ha : inv.IsPluggedInto ch.current.id a) (hdisk : inv.disk? a.diskId = some disk)
    (hinterface : disk.interface = .virtioScsi) : enabled ≠ some false := by
  intro hoff
  obtain ⟨disk', hdisk', hother⟩ := h.virtioScsi_unused hoff a ha
  cases hdisk.symm.trans hdisk'
  exact hother hinterface

/-- **Plugged disks on VirtIO-SCSI.** A machine that can use such a disk still carries a controller
for it after an accepted update. If the update does not lower the version, VirtIO-SCSI is still
provided; and the guest operating system supports it if the update turns it on, or keeps both the
operating system and the version. -/
theorem updateVm_keeps_virtioScsi {u : VmUpdate} {current : Vm} {cluster : Cluster}
    {a : Attachment} {disk : Disk} (hvm : inv.vm? u.vm.id = some current)
    (hcluster : inv.cluster? current.clusterId = some cluster)
    (hversion : current.clusterCompatibilityVersion = cluster.compatibilityVersion)
    (hacc : (Operation.updateVm u).judge inv c = .ok .accepted)
    (ha : inv.IsPluggedInto current.id a) (hdisk : inv.disk? a.diskId = some disk)
    (hinterface : disk.interface = .virtioScsi) (hcan : CanUse inv c current .virtioScsi) :
    ∃ vm, (inv.afterUpdate u).vm? u.vm.id = some vm ∧ vm.osId = u.vm.osId ∧
      vm.effectiveVersion =
        u.vm.customCompatibilityVersion.getD cluster.compatibilityVersion ∧
      (inv.afterUpdate u).hasController vm.id .virtioScsi = true ∧
      (current.effectiveVersion ≤ vm.effectiveVersion →
        HasVirtioScsi (inv.afterUpdate u) c vm) ∧
      (u.virtioScsiEnabled = some true ∨
          vm.osId = current.osId ∧ vm.effectiveVersion = current.effectiveVersion →
        SupportsInterface c vm .virtioScsi) := by
  obtain ⟨current', cluster', os, hvm', hcluster', hos, hadmissible⟩ :=
    Operation.updateVm_accepted_iff.1 hacc
  cases hvm.symm.trans hvm'
  cases hcluster.symm.trans hcluster'
  have heffective : (current.updatedTo u.vm).effectiveVersion =
      u.vm.customCompatibilityVersion.getD cluster.compatibilityVersion := by
    rw [← hversion]
    rfl
  have hscsi : HasVirtioScsi inv c current := hcan.virtioScsi rfl
  have hcontroller : (inv.afterUpdate u).hasController (current.updatedTo u.vm).id .virtioScsi =
      true := by
    refine Inventory.hasController_afterUpdate (hadmissible.not_disabled ha hdisk hinterface) ?_
    exact Inventory.id_of_vm? hvm ▸ (DiskRule.hasVirtioScsi_iff.1 hscsi).2
  refine ⟨current.updatedTo u.vm, Inventory.vm?_afterUpdate hvm, rfl, heffective, hcontroller,
    fun hle => hscsi.mono hle hcontroller, ?_⟩
  rintro (hon | ⟨hsame, hsame'⟩)
  · refine ⟨os, hos, ?_⟩
    rw [heffective]
    exact hadmissible.virtioScsi_supported hon
  · unfold SupportsInterface
    rw [hsame, hsame']
    exact hcan.os

section Updates

open Usability

/-- A machine that gives up an older version of its own, with VirtIO-SCSI turned on, can use the
disk that is plugged into it. -/
theorem updateVm_keeps_virtioScsi_for_linux :
    (Operation.updateVm ⟨linux, some true⟩).judge (alone older) .builtIn = .ok .accepted ∧
    ∃ vm, ((alone older).afterUpdate ⟨linux, some true⟩).vm? linux.id = some vm ∧
      vm.effectiveVersion = ⟨4, 2⟩ ∧
      CanUse ((alone older).afterUpdate ⟨linux, some true⟩) .builtIn vm .virtioScsi := by
  have hacc : (Operation.updateVm ⟨linux, some true⟩).judge (alone older) .builtIn =
      .ok .accepted := by
    decide +kernel
  have hplugged : (alone older).IsPluggedInto older.id (plugged older) :=
    ⟨List.mem_singleton_self _, rfl, rfl, rfl⟩
  have hcan : CanUse (alone older) .builtIn older .virtioScsi := by decide +kernel
  obtain ⟨vm, hvm, -, hversion, -, hprovided, hsupported⟩ :=
    updateVm_keeps_virtioScsi rfl rfl rfl hacc hplugged rfl rfl hcan
  refine ⟨hacc, vm, hvm, hversion, hsupported (.inl rfl), fun _ => hprovided ?_⟩
  rw [hversion]
  decide

/-- A machine that can use the disk plugged into it cannot use it after an update that gives it a
guest operating system without VirtIO-SCSI; nor after one that turns VirtIO-SCSI on, and gives it a
version that does not provide it. Both are accepted. -/
theorem updateVm_past_plugged_disk :
    ((alone linux).IsPluggedInto linux.id (plugged linux) ∧
      (alone linux).disk? (plugged linux).diskId = some scsiDisk ∧
      scsiDisk.interface = .virtioScsi ∧
      ∃ cluster, (alone linux).cluster? linux.clusterId = some cluster ∧
        linux.clusterCompatibilityVersion = cluster.compatibilityVersion) ∧
    (CanUse (alone linux) .builtIn linux .virtioScsi ∧
      (Operation.updateVm ⟨reinstalled, none⟩).judge (alone linux) .builtIn = .ok .accepted ∧
      ((alone linux).afterUpdate ⟨reinstalled, none⟩).vm? linux.id = some reinstalled ∧
      ¬ SupportsInterface .builtIn reinstalled .virtioScsi) ∧
    (CanUse (alone linux) lateScsi linux .virtioScsi ∧
      (Operation.updateVm ⟨older, some true⟩).judge (alone linux) lateScsi = .ok .accepted ∧
      ((alone linux).afterUpdate ⟨older, some true⟩).vm? linux.id = some older ∧
      ¬ HasVirtioScsi ((alone linux).afterUpdate ⟨older, some true⟩) lateScsi older) := by
  refine ⟨⟨⟨List.mem_singleton_self _, rfl, rfl, rfl⟩, rfl, rfl, _, rfl, rfl⟩,
    ⟨?_, ?_, rfl, ?_⟩, ⟨?_, ?_, rfl, ?_⟩⟩
  · decide +kernel
  · decide +kernel
  · decide +kernel
  · decide +kernel
  · decide +kernel
  · decide +kernel

end Updates

end VmAdmission
