import VmAdmission.Rule.Disk
import VmAdmission.Proofs.Judgement
import VmAdmission.Proofs.Tables

/-!
# When the rules about disks accept

Each rule accepts, judged by tables, exactly if a condition on the disk, the machine and the tables
holds. `HasVirtioScsi` and `SupportsInterface` name what a machine brings along for a disk.
-/

namespace VmAdmission

open Consult

variable {inv : Inventory} {c : Capabilities}

/-! ## What a machine supports -/

/-- The machine's version provides VirtIO-SCSI, and the machine carries a controller for it. -/
structure HasVirtioScsi (inv : Inventory) (c : Capabilities) (vm : Vm) : Prop where
  feature : ∃ since, c.features.virtioScsi = some since ∧ since ≤ vm.effectiveVersion
  controller : ∃ ctl ∈ inv.controllers, ctl.vmId = vm.id ∧ ctl.kind = .virtioScsi

/-- The machine's guest operating system is in the catalog, and supports an interface at the
machine's version. -/
def SupportsInterface (c : Capabilities) (vm : Vm) (i : DiskInterface) : Prop :=
  ∃ os, c.os? vm.osId = some os ∧ i ∈ os.diskInterfacesAt vm.effectiveVersion

namespace DiskRule

variable {disk : Disk} {vm : Vm}

theorem accepts_osSupportsInterface_iff {i : DiskInterface} :
    (osSupportsInterface i vm).Accepts (.ofTables inv c) ↔ SupportsInterface c vm i := by
  unfold osSupportsInterface SupportsInterface
  simp [map_eq_ok_iff, Capabilities.os_eq_ok_iff]

/-! ## The interface -/

theorem hasVirtioScsi_iff :
    HasVirtioScsi inv c vm ↔
      c.isFeatureSupported .virtioScsi vm.effectiveVersion = true ∧
        inv.hasController vm.id .virtioScsi = true := by
  rw [Capabilities.isFeatureSupported_eq_true_iff, Inventory.hasController_eq_true_iff]
  exact ⟨fun ⟨hf, hc⟩ => ⟨hf, hc⟩, fun ⟨hf, hc⟩ => ⟨hf, hc⟩⟩

theorem accepts_interfaceCompatibility_iff {vm? : Option Vm} :
    (interfaceCompatibility disk vm?).Accepts (.ofTables inv c) ↔
      (disk.interface = .virtioScsi →
        ¬ (disk.sgio.isSome = true ∧ disk.storageType = .image) ∧
          ∀ vm, vm? = some vm → HasVirtioScsi inv c vm ∧ SupportsInterface c vm .virtioScsi) := by
  unfold interfaceCompatibility
  cases vm? with
  | none => simp
  | some vm => simp [accepts_osSupportsInterface_iff, hasVirtioScsi_iff, and_assoc]

theorem accepts_interfaceSupportedForVm_iff {vm? : Option Vm} :
    (interfaceSupportedForVm disk vm?).Accepts (.ofTables inv c) ↔
      ∀ vm, vm? = some vm → SupportsInterface c vm disk.interface := by
  unfold interfaceSupportedForVm SupportsInterface
  cases vm? with
  | none => simp
  | some vm => simp [map_eq_ok_iff, Capabilities.os_eq_ok_iff]

theorem readOnlyCompatible_eq_accepted_iff :
    readOnlyCompatible disk = .accepted ↔
      (disk.readOnly = true → disk.interface ≠ .ide ∧ disk.scsiPassthrough = false) := by
  unfold readOnlyCompatible
  cases disk.readOnly with
  | false => simp
  | true => by_cases h : disk.interface = .ide <;> simp [h]

theorem scsiReservationValid_eq_accepted_iff {vm? : Option Vm} :
    scsiReservationValid disk vm? = .accepted ↔
      ∀ lun, disk.backing = .lun lun → lun.usingScsiReservation = true →
        vm?.isSome = true ∧ disk.sgio ≠ some .filtered := by
  unfold scsiReservationValid
  cases disk.backing with
  | image size => simp [Backing.lun?]
  | cinder size => simp [Backing.lun?]
  | lun lun => cases vm? <;> simp [Backing.lun?]

/-! ## What the disk is -/

theorem notInfrastructureStore_eq_accepted_iff :
    notInfrastructureStore disk = .accepted ↔ disk.infrastructureStore = false := by
  simp [notInfrastructureStore]

theorem notHostedEngineLun_eq_accepted_iff :
    notHostedEngineLun disk = .accepted ↔ disk.isHostedEngineLun = false := by
  simp [notHostedEngineLun]

theorem storageTypeNotIn_eq_accepted_iff {excluded : List StorageType} :
    storageTypeNotIn disk excluded = .accepted ↔ disk.storageType ∉ excluded := by
  unfold storageTypeNotIn
  by_cases h : disk.storageType ∈ excluded <;> simp [h]

theorem removable_eq_accepted_iff :
    removable disk vm = .accepted ↔ disk.isHostedEngineLun = true ∨ vm.isHostedEngine = false := by
  unfold removable
  cases disk.isHostedEngineLun <;> simp

theorem removableFromAll_eq_accepted_iff {vms : List Vm} :
    removableFromAll disk vms = .accepted ↔
      ∀ vm ∈ vms, disk.isHostedEngineLun = true ∨ vm.isHostedEngine = false := by
  unfold removableFromAll
  rw [Verdict.getD_find?_eq_accepted_iff]
  simp [removable_eq_accepted_iff]

/-! ## Running machines -/

section Running

variable {onlyThroughSnapshots : Bool} {attachments : List (Vm × Attachment)}
  {joined : Vm × Attachment}

/-- The attachment is in question, and plugs the disk into a machine that is not down. -/
structure HoldsUp (onlyThroughSnapshots : Bool) (joined : Vm × Attachment) : Prop where
  in_question : onlyThroughSnapshots = false ∨ joined.2.snapshotId.isSome = true
  plugged : joined.2.plugged = true
  not_down : joined.1.status ≠ .down

theorem holdsUp_iff :
    HoldsUp onlyThroughSnapshots joined ↔
      (!onlyThroughSnapshots || joined.2.snapshotId.isSome) = true ∧
        isPluggedToRunning joined = true := by
  have hquestion : (!onlyThroughSnapshots || joined.2.snapshotId.isSome) = true ↔
      onlyThroughSnapshots = false ∨ joined.2.snapshotId.isSome = true := by
    simp
  have hrunning : isPluggedToRunning joined = true ↔
      joined.2.plugged = true ∧ joined.1.status ≠ .down := by
    simp [isPluggedToRunning, Vm.isDown]
  rw [hquestion, hrunning]
  constructor
  · rintro ⟨hin, hplugged, hdown⟩
    exact ⟨hin, hplugged, hdown⟩
  · rintro ⟨hin, hplugged, hdown⟩
    exact ⟨hin, hplugged, hdown⟩

theorem pluggedOnlyToDown_of_isFirst
    (h : IsFirst (HoldsUp onlyThroughSnapshots) attachments joined) :
    pluggedOnlyToDown onlyThroughSnapshots attachments =
      .rejected ⟨.vmIsNotDown, [⟨"vmName", joined.1.name⟩]⟩ := by
  have hfound : (attachments.filter fun joined =>
      !onlyThroughSnapshots || joined.2.snapshotId.isSome).find? isPluggedToRunning =
      some joined := by
    rw [find?_eq_some_iff_isFirst, isFirst_filter_iff]
    simpa only [← holdsUp_iff] using h
  simp only [pluggedOnlyToDown, hfound]
  rfl

theorem pluggedOnlyToDown_of_forall_not
    (h : ∀ joined ∈ attachments, ¬ HoldsUp onlyThroughSnapshots joined) :
    pluggedOnlyToDown onlyThroughSnapshots attachments = .accepted := by
  have hfound : (attachments.filter fun joined =>
      !onlyThroughSnapshots || joined.2.snapshotId.isSome).find? isPluggedToRunning = none := by
    rw [List.find?_eq_none]
    intro joined hmem hrunning
    obtain ⟨hmem, hquestion⟩ := List.mem_filter.1 hmem
    exact h joined hmem (holdsUp_iff.2 ⟨hquestion, hrunning⟩)
  simp only [pluggedOnlyToDown, hfound]

/-- Either no attachment holds the disk up, or the machine of the first that does is named. -/
theorem pluggedOnlyToDown_cases (onlyThroughSnapshots : Bool)
    (attachments : List (Vm × Attachment)) :
    (∀ joined ∈ attachments, ¬ HoldsUp onlyThroughSnapshots joined) ∧
        pluggedOnlyToDown onlyThroughSnapshots attachments = .accepted ∨
      ∃ joined, IsFirst (HoldsUp onlyThroughSnapshots) attachments joined ∧
        pluggedOnlyToDown onlyThroughSnapshots attachments =
          .rejected ⟨.vmIsNotDown, [⟨"vmName", joined.1.name⟩]⟩ := by
  by_cases h : ∃ joined ∈ attachments, HoldsUp onlyThroughSnapshots joined
  · obtain ⟨joined, hfirst⟩ := exists_isFirst_iff.2 h
    exact .inr ⟨joined, hfirst, pluggedOnlyToDown_of_isFirst hfirst⟩
  · have hnone : ∀ joined ∈ attachments, ¬ HoldsUp onlyThroughSnapshots joined :=
      fun joined hmem hholds => h ⟨joined, hmem, hholds⟩
    exact .inl ⟨hnone, pluggedOnlyToDown_of_forall_not hnone⟩

/-- The disk is not held up exactly if no attachment does so. -/
theorem pluggedOnlyToDown_eq_accepted_iff_forall_not :
    pluggedOnlyToDown onlyThroughSnapshots attachments = .accepted ↔
      ∀ joined ∈ attachments, ¬ HoldsUp onlyThroughSnapshots joined := by
  refine ⟨fun haccepted => ?_, pluggedOnlyToDown_of_forall_not⟩
  rcases pluggedOnlyToDown_cases onlyThroughSnapshots attachments with
    ⟨hnone, -⟩ | ⟨joined, -, hrejected⟩
  · exact hnone
  · rw [hrejected] at haccepted
    cases haccepted

theorem pluggedOnlyToDown_eq_accepted_iff :
    pluggedOnlyToDown onlyThroughSnapshots attachments = .accepted ↔
      ∀ joined ∈ attachments,
        onlyThroughSnapshots = false ∨ joined.2.snapshotId.isSome = true →
          joined.2.plugged = true → joined.1.status = .down := by
  rw [pluggedOnlyToDown_eq_accepted_iff_forall_not]
  refine forall₂_congr fun joined _ => ⟨fun h hquestion hplugged => ?_, fun h hholds => ?_⟩
  · by_contra hdown
    exact h ⟨hquestion, hplugged, hdown⟩
  · exact hholds.not_down (h hholds.in_question hholds.plugged)

end Running

end DiskRule

end VmAdmission
