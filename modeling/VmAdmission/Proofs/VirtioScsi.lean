import VmAdmission.Proofs.Requests
import VmAdmission.Proofs.Usability

/-!
# Turning VirtIO-SCSI on

Two rules stand around VirtIO-SCSI. An update that turns it on for a machine is asked whether the
guest operating system supports it; a disk on it is asked for the version, the controller and the
guest operating system, in this order. The update's rule judges at the proposed version and the
disk's at the one that the machine then has, which is the same (`Vm.effectiveVersion_updatedTo`). So
once VirtIO-SCSI is turned on, neither the controller nor the guest operating system stands in the
way of a disk (`enabled_virtioScsi_usable`). The version may: the update's rule does not look at
what it provides (`updateVm_enables_unavailable`).
-/

namespace VmAdmission

variable {inv : Inventory} {c : Capabilities}

/-- Of a machine that agrees with its cluster on the version, an update is judged at the version
that the machine has afterwards. -/
theorem Vm.effectiveVersion_updatedTo {current proposed : Vm} {cluster : Cluster}
    (h : current.clusterCompatibilityVersion = cluster.compatibilityVersion) :
    (current.updatedTo proposed).effectiveVersion =
      proposed.customCompatibilityVersion.getD cluster.compatibilityVersion := by
  rw [← h]
  rfl

/-- Where the machine carries a controller and its guest operating system supports VirtIO-SCSI, the
version alone decides on a disk that does not put SGIO on an image. -/
theorem DiskRule.eval_interfaceCompatibility_of_equipped {disk : Disk} {vm : Vm}
    (hcontroller : inv.hasController vm.id .virtioScsi = true)
    (hos : SupportsInterface c vm .virtioScsi) (hinterface : disk.interface = .virtioScsi)
    (himage : ¬ disk.PutsSgioOnImage) :
    (interfaceCompatibility disk (some vm)).eval (.ofTables inv c) =
      .ok (if c.isFeatureSupported .virtioScsi vm.effectiveVersion then .accepted
        else .reject .virtioScsiNotAvailableAtClusterLevel) := by
  have hsgio : ¬ (disk.sgio.isSome = true ∧ disk.storageType = .image) := fun hs =>
    himage ⟨hinterface, hs⟩
  have hsupported : (osSupportsInterface .virtioScsi vm).eval (.ofTables inv c) = .ok .accepted :=
    accepts_osSupportsInterface_iff.2 hos
  unfold interfaceCompatibility
  rw [if_neg (not_not.2 hinterface), if_neg hsgio]
  simp only [Consult.eval_bind, Consult.eval_supportsFeature, ok_bind]
  cases c.isFeatureSupported .virtioScsi vm.effectiveVersion with
  | false => rfl
  | true =>
    simp only [Bool.not_true, Bool.false_eq_true, if_false, Consult.eval_bind,
      Consult.eval_hasController, hcontroller, ok_bind, hsupported, if_true]

namespace Inventory

theorem hasController_afterUpdate_of_enabled {u : VmUpdate}
    (hon : u.virtioScsiEnabled = some true) :
    (inv.afterUpdate u).hasController u.vm.id .virtioScsi = true := by
  refine hasController_eq_true_iff.2 ⟨⟨u.vm.id, .virtioScsi⟩, ?_, rfl, rfl⟩
  change _ ∈ inv.controllersAfter u
  rw [controllersAfter, hon]
  exact List.mem_cons_self

end Inventory

/-- **VirtIO-SCSI turned on.** Let an update turn VirtIO-SCSI on for a machine that agrees with its
cluster on the version, and be accepted. Of the machine afterwards, with the controller that it is
given, a disk on VirtIO-SCSI that does not put SGIO on an image is then accepted exactly if the
machine's version provides VirtIO-SCSI, and rejected because of the version otherwise. It is never
rejected for want of a controller or because of the guest operating system, and no fault is met. -/
theorem enabled_virtioScsi_usable {u : VmUpdate} {current : Vm} {cluster : Cluster}
    (hvm : inv.vm? u.vm.id = some current)
    (hcluster : inv.cluster? current.clusterId = some cluster)
    (hversion : current.clusterCompatibilityVersion = cluster.compatibilityVersion)
    (hon : u.virtioScsiEnabled = some true)
    (hacc : (Operation.updateVm u).judge inv c = .ok .accepted) :
    ∃ vm, (inv.afterUpdate u).vm? u.vm.id = some vm ∧
      vm.effectiveVersion = u.vm.customCompatibilityVersion.getD cluster.compatibilityVersion ∧
      ∀ disk : Disk, disk.interface = .virtioScsi → ¬ disk.PutsSgioOnImage →
        (DiskRule.interfaceCompatibility disk (some vm)).eval
            (.ofTables (inv.afterUpdate u) c) =
          .ok (if c.isFeatureSupported .virtioScsi vm.effectiveVersion then .accepted
            else .reject .virtioScsiNotAvailableAtClusterLevel) := by
  obtain ⟨current', cluster', os, hvm', hcluster', hos, hadmissible⟩ :=
    Operation.updateVm_accepted_iff.1 hacc
  cases hvm.symm.trans hvm'
  cases hcluster.symm.trans hcluster'
  have heffective : (current.updatedTo u.vm).effectiveVersion =
      u.vm.customCompatibilityVersion.getD cluster.compatibilityVersion :=
    Vm.effectiveVersion_updatedTo hversion
  have hcontroller : (inv.afterUpdate u).hasController (current.updatedTo u.vm).id .virtioScsi =
      true := Inventory.hasController_afterUpdate_of_enabled hon
  -- the update's rule was judged at the version that the machine has now
  have hsupports : SupportsInterface c (current.updatedTo u.vm) .virtioScsi := by
    refine ⟨os, hos, ?_⟩
    rw [heffective]
    exact hadmissible.virtioScsi_supported hon
  exact ⟨current.updatedTo u.vm, Inventory.vm?_afterUpdate hvm, heffective,
    fun _ => DiskRule.eval_interfaceCompatibility_of_equipped hcontroller hsupports⟩

namespace VirtioScsi

open Usability

/-- A machine without any controller, and a disk on VirtIO-SCSI that is not attached. -/
def bare : Inventory :=
  { alone linux with
    attachments := []
    controllers := [] }

/-- Tables by which no version provides VirtIO-SCSI. -/
def withoutScsi : Capabilities := { Capabilities.builtIn with features := ⟨none⟩ }

end VirtioScsi

section Enabling

open Usability VirtioScsi

/-- A machine without a controller has VirtIO-SCSI turned on, and can then use the disk. -/
theorem enabled_virtioScsi_usable_for_linux :
    (Operation.updateVm ⟨linux, some true⟩).judge bare .builtIn = .ok .accepted ∧
    bare.hasController linux.id .virtioScsi = false ∧
    ∃ vm, (bare.afterUpdate ⟨linux, some true⟩).vm? linux.id = some vm ∧
      (DiskRule.interfaceCompatibility scsiDisk (some vm)).eval
          (.ofTables (bare.afterUpdate ⟨linux, some true⟩) .builtIn) =
        .ok .accepted := by
  have hacc : (Operation.updateVm ⟨linux, some true⟩).judge bare .builtIn = .ok .accepted := by
    decide +kernel
  obtain ⟨vm, hvm, hversion, husable⟩ := enabled_virtioScsi_usable rfl rfl rfl rfl hacc
  refine ⟨hacc, rfl, vm, hvm, ?_⟩
  rw [husable scsiDisk rfl (by decide), hversion]
  decide +kernel

/-- By tables without VirtIO-SCSI it is turned on for the machine all the same, and a disk on it,
without SGIO, is rejected for the machine as it then is, because of the version. -/
theorem updateVm_enables_unavailable :
    (∃ cluster, bare.cluster? linux.clusterId = some cluster ∧
      linux.clusterCompatibilityVersion = cluster.compatibilityVersion) ∧
    bare.vm? linux.id = some linux ∧
    (Operation.updateVm ⟨linux, some true⟩).judge bare withoutScsi = .ok .accepted ∧
    (bare.afterUpdate ⟨linux, some true⟩).vm? linux.id = some linux ∧
    scsiDisk.interface = .virtioScsi ∧ scsiDisk.sgio = none ∧
    (DiskRule.interfaceCompatibility scsiDisk (some linux)).eval
        (.ofTables (bare.afterUpdate ⟨linux, some true⟩) withoutScsi) =
      .ok (.reject .virtioScsiNotAvailableAtClusterLevel) := by
  refine ⟨⟨_, rfl, rfl⟩, rfl, ?_, rfl, rfl, rfl, ?_⟩
  · decide +kernel
  · decide +kernel

end Enabling

end VmAdmission
