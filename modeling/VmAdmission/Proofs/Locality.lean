import VmAdmission.Proofs.Footprint
import VmAdmission.Proofs.Usability

/-!
# Decisions are local

A decision depends on the rows of what it is about, and on those that these name. Two inventories
that agree there (`Inventory.AgreeOnDisk`, `Inventory.AgreeOnUpdate`) come to the same decision,
whatever else they hold: `decisions_are_local`. A stranger's attachment that dangles is no
exception, since a join looks only at the attachments of its own disk or machine.
-/

namespace VmAdmission

namespace Inventory

variable {inv inv' : Inventory}

/-- Two inventories agree on a disk, and on a machine if one is named: on their rows, on the disk's
attachments with the machines that these name, and on the named machine's VirtIO-SCSI controller. -/
structure AgreeOnDisk (inv inv' : Inventory) (diskId : Uuid) (vmId? : Option Uuid) : Prop where
  disk : inv.disk? diskId = inv'.disk? diskId
  attachments : inv.attachmentRows diskId = inv'.attachmentRows diskId
  attached : ∀ a ∈ inv.attachmentRows diskId, inv.vm? a.vmId = inv'.vm? a.vmId
  named : ∀ vmId, vmId? = some vmId → inv.vm? vmId = inv'.vm? vmId
  controller : ∀ vmId, vmId? = some vmId →
    inv.hasController vmId .virtioScsi = inv'.hasController vmId .virtioScsi

/-- Two inventories agree on an update of a machine: on the rows of the stored machine, its cluster
and the hosts that the proposed one is pinned to, on whether the proposed name is in use, and on the
plugged attachments with the disks that these name. -/
structure AgreeOnUpdate (inv inv' : Inventory) (u : VmUpdate) : Prop where
  vm : inv.vm? u.vm.id = inv'.vm? u.vm.id
  cluster : ∀ current, inv.vm? u.vm.id = some current →
    inv.cluster? current.clusterId = inv'.cluster? current.clusterId
  hosts : ∀ id ∈ u.vm.dedicatedHosts, inv.host? id = inv'.host? id
  name : ∀ current, inv.vm? u.vm.id = some current →
    inv.isNameInUse u.vm.name current.storagePoolId =
      inv'.isNameInUse u.vm.name current.storagePoolId
  plugged : inv.pluggedRows u.vm.id = inv'.pluggedRows u.vm.id
  disks : ∀ a ∈ inv.pluggedRows u.vm.id, inv.disk? a.diskId = inv'.disk? a.diskId

/-! ## Joins -/

theorem attachmentsOf_congr {diskId : Uuid}
    (hrows : inv.attachmentRows diskId = inv'.attachmentRows diskId)
    (hvms : ∀ a ∈ inv.attachmentRows diskId, inv.vm? a.vmId = inv'.vm? a.vmId) :
    inv.attachmentsOf diskId = inv'.attachmentsOf diskId := by
  change (inv.attachmentRows diskId).mapM inv.withVm = (inv'.attachmentRows diskId).mapM inv'.withVm
  rw [← hrows]
  refine mapM_congr fun a ha => ?_
  rw [withVm, withVm, hvms a ha]

theorem disksOf_congr {vmId : Uuid} (hrows : inv.pluggedRows vmId = inv'.pluggedRows vmId)
    (hdisks : ∀ a ∈ inv.pluggedRows vmId, inv.disk? a.diskId = inv'.disk? a.diskId) :
    inv.disksOf vmId true = inv'.disksOf vmId true := by
  change (inv.pluggedRows vmId).mapM inv.withDisk = (inv'.pluggedRows vmId).mapM inv'.withDisk
  rw [← hrows]
  refine mapM_congr fun a ha => ?_
  rw [withDisk, withDisk, hdisks a ha]

/-! ## Answers -/

theorem AgreeOnDisk.answer_eq {op : Operation} {diskId : Uuid} (hop : op.disk? = some diskId)
    (h : inv.AgreeOnDisk inv' diskId op.vmId?) {q : InventoryQuery} (hq : op.Reads inv q) :
    inv.answer q = inv'.answer q := by
  cases hq with
  | updated => cases hop
  | cluster => cases hop
  | host => cases hop
  | name => cases hop
  | plugged => cases hop
  | disk hid =>
    cases hop.symm.trans hid
    exact congrArg Except.ok h.disk
  | attachments hid =>
    cases hop.symm.trans hid
    exact attachmentsOf_congr h.attachments h.attached
  | named hid => exact congrArg Except.ok (h.named _ hid)
  | controller hid => exact congrArg Except.ok (h.controller _ hid)

theorem AgreeOnUpdate.answer_eq {u : VmUpdate} (h : inv.AgreeOnUpdate inv' u) {q : InventoryQuery}
    (hq : (Operation.updateVm u).Reads inv q) : inv.answer q = inv'.answer q := by
  cases hq with
  | updated => exact congrArg Except.ok h.vm
  | cluster hvm => exact congrArg Except.ok (h.cluster _ hvm)
  | host hid => exact congrArg Except.ok (h.hosts _ hid)
  | name hvm => exact congrArg Except.ok (h.name _ hvm)
  | plugged => exact disksOf_congr h.plugged h.disks
  | disk hid => cases hid
  | attachments hid => cases hid
  | named hid => cases hid
  | controller hid => cases hid

end Inventory

/-- **Decisions are local.** Inventories that agree on the disk that an operation is about, and on
the machine that it names, if any, come to the same decision on it, by any capability tables: the
same verdict with the same substitutions, or the same fault, behind the same queries and with the
same log. So do inventories that agree on an update of a machine. No other row matters, dangling or
not. -/
theorem decisions_are_local (inv inv' : Inventory) (c : Capabilities) (asked : List Query) :
    (∀ (op : Operation) (diskId : Uuid), op.disk? = some diskId →
      inv.AgreeOnDisk inv' diskId op.vmId? →
      op.decision (Answers.ofTables inv c).toServices asked =
        op.decision (Answers.ofTables inv' c).toServices asked) ∧
    (∀ u : VmUpdate, inv.AgreeOnUpdate inv' u →
      (Operation.updateVm u).decision (Answers.ofTables inv c).toServices asked =
        (Operation.updateVm u).decision (Answers.ofTables inv' c).toServices asked) := by
  constructor
  · intro op diskId hop h
    exact Operation.decision_eq_of_reads c asked fun q hq => h.answer_eq hop hq
  · intro u h
    exact Operation.decision_eq_of_reads c asked fun q hq => h.answer_eq hq

/-! ## A machine among strangers -/

namespace Strangers

open Usability

/-- A disk that is not stored is attached to another machine. -/
def dangling : Attachment := { plugged windows with diskId := windows.id }

/-- The inventory with another machine, its attachment that dangles, and its controller. -/
def crowded : Inventory :=
  { alone linux with
    vms := [windows, linux]
    attachments := [dangling, plugged linux]
    controllers := [⟨windows.id, .virtioScsi⟩, ⟨linux.id, .virtioScsi⟩] }

end Strangers

open Usability Strangers in
/-- A disk is detached and its machine is updated with the strangers around as they are without
them, though the strangers' attachment has no disk. -/
theorem decisions_are_local_among_strangers :
    crowded.disk? dangling.diskId = none ∧
    (Operation.detachDisk scsiDisk.id linux.id).judge crowded .builtIn = .ok .accepted ∧
    (Operation.updateVm ⟨linux, some true⟩).judge crowded .builtIn = .ok .accepted := by
  have hdisk : (alone linux).AgreeOnDisk crowded scsiDisk.id (some linux.id) :=
    { disk := rfl
      attachments := by decide +kernel
      attached := by decide +kernel
      named := by
        rintro _ ⟨⟩
        decide +kernel
      controller := by
        rintro _ ⟨⟩
        decide +kernel }
  have hupdate : (alone linux).AgreeOnUpdate crowded ⟨linux, some true⟩ :=
    { vm := by decide +kernel
      cluster := fun _ _ => rfl
      hosts := by decide
      name := by
        rintro _ ⟨⟩
        decide +kernel
      plugged := by decide +kernel
      disks := by decide +kernel }
  obtain ⟨hdisks, hupdates⟩ := decisions_are_local (alone linux) crowded .builtIn []
  have hdetach := hdisks (.detachDisk scsiDisk.id linux.id) scsiDisk.id rfl hdisk
  have hkeep := hupdates ⟨linux, some true⟩ hupdate
  refine ⟨by decide +kernel, ?_, ?_⟩
  · rw [Operation.judge, ← hdetach]
    decide +kernel
  · rw [Operation.judge, ← hkeep]
    decide +kernel

end VmAdmission
