import VmAdmission.Proofs.Catalog.Removal
import VmAdmission.Proofs.Catalog.AttachDisk
import VmAdmission.Proofs.Usability

/-!
# Operations submitted again

An operation that is carried out may be submitted once more, say because the answer was lost. An
update of a machine is then one that changes nothing, and whatever its rules ask for is what the
first time showed. Where a disk was attached, detached or removed, the second request finds that out
before any rule that could object for another reason: `resubmission_recognised`.
-/

namespace VmAdmission

variable {inv next : Inventory} {c : Capabilities} {choice : CommitChoice}

/-! ## Updates of machines -/

/-- An admissible change stays admissible once it is carried out. The name is now the machine's own,
and the machine is in its cluster with the same disks plugged in. -/
theorem VmChange.Admissible.committed {os : OsEntry} {u : VmUpdate} {current : Vm}
    {cluster : Cluster} (hid : current.id = u.vm.id)
    (h : VmChange.Admissible inv c os ⟨current, u.vm, cluster⟩ u.virtioScsiEnabled) :
    VmChange.Admissible (inv.commit choice (.updateVm u)) c os
      ⟨current.updatedTo u.vm, u.vm, cluster⟩ u.virtioScsiEnabled where
  name := h.name
  memory := h.memory
  monitors := h.monitors
  topology := h.topology
  name_free := .inl rfl
  cluster_kept := rfl
  hosts := h.hosts
  cpu := h.cpu
  virtioScsi_unused := fun hoff a ha => h.virtioScsi_unused hoff a (hid ▸ ha)
  virtioScsi_supported := h.virtioScsi_supported
  editable := fun hmanaged => h.editable (.inr (hmanaged.elim id id))
  reservation_free := fun hmigratable a ha => h.reservation_free hmigratable a (hid ▸ ha)

theorem Operation.updateVm_accepted_again {u : VmUpdate}
    (hacc : (updateVm u).judge inv c = .ok .accepted) :
    (updateVm u).judge (inv.commit choice (.updateVm u)) c = .ok .accepted := by
  obtain ⟨current, cluster, os, hvm, hcluster, hos, hadmissible⟩ := updateVm_accepted_iff.1 hacc
  have hcluster' :
      (inv.commit choice (.updateVm u)).cluster? (current.updatedTo u.vm).clusterId =
        some cluster := by
    change inv.cluster? u.vm.clusterId = some cluster
    rw [hadmissible.cluster_kept]
    exact hcluster
  exact updateVm_accepted_iff.2
    ⟨current.updatedTo u.vm, cluster, os, Inventory.vm?_commit_updateVm_self hvm, hcluster', hos,
      hadmissible.committed (Inventory.id_of_vm? hvm)⟩

/-! ## Attachments -/

/-- An attachment is entered behind the others. Of the disk's row, what the disk is stays: its
backing, its alias, and whether it is an internal volume. -/
structure Inventory.EntersAttachment (inv : Inventory) (diskId vmId : Uuid)
    (snapshotId : Option Uuid) (next : Inventory) : Prop where
  vms : next.vms = inv.vms
  attachments : ∃ row : Attachment, row.vmId = vmId ∧ row.diskId = diskId ∧
    row.snapshotId = snapshotId ∧ next.attachments = inv.attachments ++ [row]
  disk : ∀ stored, inv.disk? diskId = some stored → ∃ kept, next.disk? diskId = some kept ∧
    kept.backing = stored.backing ∧ kept.diskAlias = stored.diskAlias ∧
    kept.infrastructureStore = stored.infrastructureStore

namespace Inventory

/-- Carrying out an attachment enters it. -/
theorem entersAttachment_commit {disk : Disk} {vmId : Uuid} {snapshotId : Option Uuid} :
    inv.EntersAttachment disk.id vmId snapshotId
      (inv.commit choice (.attachDisk disk vmId snapshotId)) where
  vms := rfl
  attachments := ⟨_, rfl, rfl, rfl, rfl⟩
  disk := by
    intro stored hstored
    rw [disk?_commit_attachDisk, hstored, Option.map_some, if_pos (id_of_disk? hstored)]
    cases choice.presents with
    | false => exact ⟨stored, rfl, rfl, rfl, rfl⟩
    | true => exact ⟨stored.presentedAs disk, rfl, rfl, rfl, rfl⟩

namespace EntersAttachment

variable {diskId vmId : Uuid} {snapshotId : Option Uuid}
  (h : inv.EntersAttachment diskId vmId snapshotId next)

include h

theorem vm?_eq (id : Uuid) : next.vm? id = inv.vm? id := by
  rw [vm?, h.vms]
  rfl

theorem isAttached : next.IsAttached diskId vmId snapshotId := by
  obtain ⟨row, hvm, hdisk, hs, hrows⟩ := h.attachments
  exact ⟨row, ⟨by simp [hrows], hdisk⟩, hvm, hs⟩

/-- The new attachment names a stored machine, as all others did. -/
theorem joined {vm : Vm} (hvm : inv.vm? vmId = some vm)
    (hjoined : ∀ a, inv.IsAttachmentOf diskId a → ∃ w, inv.vm? a.vmId = some w) :
    ∀ a, next.IsAttachmentOf diskId a → ∃ w, next.vm? a.vmId = some w := by
  rintro a ⟨ha, hid⟩
  obtain ⟨row, hrow, -, -, hrows⟩ := h.attachments
  rw [h.vm?_eq]
  rw [hrows, List.mem_append, List.mem_singleton] at ha
  rcases ha with ha | rfl
  · exact hjoined a ⟨ha, hid⟩
  · exact ⟨vm, hrow ▸ hvm⟩

end EntersAttachment

end Inventory

namespace Operation

theorem notAlreadyAttached_of_isAttached {disk vmId : Uuid} {vmName : String}
    {snapshotId : Option Uuid} {attachments : List (Vm × Attachment)}
    (h : inv.attachmentsOf disk = .ok attachments) (ha : inv.IsAttached disk vmId snapshotId) :
    notAlreadyAttached vmId vmName snapshotId attachments =
      (Verdict.reject .diskAlreadyAttached).filling "vmName" vmName := by
  have hobjects : notAlreadyAttached vmId vmName snapshotId attachments ≠ .accepted := fun hacc =>
    (notAlreadyAttached_eq_accepted_iff h).1 hacc ha
  unfold notAlreadyAttached at hobjects ⊢
  split at hobjects
  · rename_i hany
    rw [if_pos hany]
  · exact absurd rfl hobjects

/-- The rules before the one about a second attachment look only at what the disk is. -/
theorem judge_attachDisk_of_isAttached {disk stored : Disk} {vm : Vm} {vmId : Uuid}
    {snapshotId : Option Uuid} (hvm : inv.vm? vmId = some vm)
    (hdisk : inv.disk? disk.id = some stored)
    (hjoined : ∀ a, inv.IsAttachmentOf disk.id a → ∃ w, inv.vm? a.vmId = some w)
    (hstore : stored.infrastructureStore = false) (hlun : stored.isHostedEngineLun = false)
    (hsnapshot : snapshotId.isSome = true →
      stored.storageType ≠ .lun ∧ stored.storageType ≠ .cinder)
    (hattached : inv.IsAttached disk.id vmId snapshotId) :
    (attachDisk disk vmId snapshotId).judge inv c =
      .ok ((Verdict.reject .diskAlreadyAttached).filling "vmName" vm.name) := by
  obtain ⟨attachments, hattachments⟩ := Inventory.exists_attachmentsOf_iff.2 hjoined
  have hbefore : ∀ s ∈ (attachSteps stored disk vmId vm snapshotId attachments).take 3,
      s.Passes (.ofTables inv c) := by
    simp only [attachSteps, List.take_succ_cons, List.take_zero, List.forall_mem_cons,
      List.not_mem_nil, false_implies, implies_true, and_true, Step.Passes, Consult.pure_eq_done,
      Consult.accepts_done, true_implies, DiskRule.notInfrastructureStore_eq_accepted_iff,
      DiskRule.notHostedEngineLun_eq_accepted_iff, DiskRule.storageTypeNotIn_eq_accepted_iff]
    exact ⟨hstore, hlun, fun hs => by simpa using hsnapshot hs⟩
  simp only [judge_attachDisk, hvm, hdisk, hattachments, ok_bind]
  rw [← List.take_append_drop 3 (attachSteps stored disk vmId vm snapshotId attachments),
    Step.answer_append hbefore]
  simp only [attachSteps, List.drop_succ_cons, List.drop_zero,
    notAlreadyAttached_of_isAttached hattachments hattached]
  rfl

theorem attachDisk_rejected_again {disk : Disk} {vmId : Uuid} {snapshotId : Option Uuid}
    (hacc : (attachDisk disk vmId snapshotId).judge inv c = .ok .accepted)
    (h : inv.EntersAttachment disk.id vmId snapshotId next) :
    ∃ vm, inv.vm? vmId = some vm ∧
      (attachDisk disk vmId snapshotId).judge next c =
        .ok ((Verdict.reject .diskAlreadyAttached).filling "vmName" vm.name) := by
  obtain ⟨vm, stored, hvm, hstored, hjoined, hattachable⟩ := attachDisk_accepted_iff.1 hacc
  obtain ⟨kept, hkept, hbacking, halias, hstore⟩ := h.disk stored hstored
  have hlun : kept.isHostedEngineLun = stored.isHostedEngineLun := by
    rw [Disk.isHostedEngineLun, Disk.isHostedEngineLun, hbacking, halias]
  have hstorage : kept.storageType = stored.storageType := congrArg Backing.storageType hbacking
  refine ⟨vm, hvm, judge_attachDisk_of_isAttached ((h.vm?_eq vmId).trans hvm) hkept
    (h.joined hvm hjoined) (hstore.trans hattachable.not_store)
    (hlun.trans hattachable.not_hostedEngineLun) ?_ h.isAttached⟩
  rw [hstorage]
  exact hattachable.snapshot_storage

/-! ## Detachments and removals -/

theorem detachDisk_rejected_again {diskId vmId : Uuid}
    (hacc : (detachDisk diskId vmId).judge inv c = .ok .accepted) :
    (detachDisk diskId vmId).judge (inv.commit choice (.detachDisk diskId vmId)) c =
      .ok (.reject .diskNotAttached) := by
  obtain ⟨disk, vm, a, hdisk, hjoined, hvm, -, -⟩ := detachDisk_accepted_iff_row.1 hacc
  -- only attachments are taken away, so machines and disks are found as before
  have hdisk' : (inv.commit choice (.detachDisk diskId vmId)).disk? diskId = some disk := hdisk
  have hvm' : (inv.commit choice (.detachDisk diskId vmId)).vm? vmId = some vm := hvm
  have hleft : ∀ b, (inv.commit choice (.detachDisk diskId vmId)).IsAttachmentOf diskId b →
      ∃ w, (inv.commit choice (.detachDisk diskId vmId)).vm? b.vmId = some w :=
    fun b hb => hjoined b ⟨(List.mem_filter.1 hb.1).1, hb.2⟩
  have hgone : ¬ (inv.commit choice (.detachDisk diskId vmId)).IsAttached diskId vmId none := by
    rintro ⟨b, ⟨hb, hid⟩, hvmId, hs⟩
    simpa [hid, hvmId, hs] using (List.mem_filter.1 hb).2
  rw [judge_detachDisk_of_not_attached hdisk' hleft hgone, notAttached, hvm']

theorem removeDisk_rejected_again {diskId : Uuid} :
    (removeDisk diskId).judge (inv.commit choice (.removeDisk diskId)) c =
      .ok (.reject .diskNotFound) := by
  rw [judge_removeDisk, Inventory.disk?_commit_removeDisk_self]

end Operation

/-- **Operations submitted again.** Let an operation be accepted, carried out, and judged once more.

An update of a machine is accepted again, whatever controllers it leaves. An attachment is rejected
as one that is there already, with the machine's name, however the disk is presented now; a
detachment because the disk is not attached to the machine itself; and a removal because there is no
such disk. No other reason is given, and no fault is met. -/
theorem resubmission_recognised (inv : Inventory) (c : Capabilities) (choice : CommitChoice) :
    (∀ u, (Operation.updateVm u).judge inv c = .ok .accepted →
      (Operation.updateVm u).judge (inv.commit choice (.updateVm u)) c = .ok .accepted) ∧
    (∀ disk vmId snapshotId next,
      (Operation.attachDisk disk vmId snapshotId).judge inv c = .ok .accepted →
      inv.EntersAttachment disk.id vmId snapshotId next →
      ∃ vm, inv.vm? vmId = some vm ∧
        (Operation.attachDisk disk vmId snapshotId).judge next c =
          .ok ((Verdict.reject .diskAlreadyAttached).filling "vmName" vm.name)) ∧
    (∀ diskId vmId, (Operation.detachDisk diskId vmId).judge inv c = .ok .accepted →
      (Operation.detachDisk diskId vmId).judge (inv.commit choice (.detachDisk diskId vmId)) c =
        .ok (.reject .diskNotAttached)) ∧
    (∀ diskId, (Operation.removeDisk diskId).judge inv c = .ok .accepted →
      (Operation.removeDisk diskId).judge (inv.commit choice (.removeDisk diskId)) c =
        .ok (.reject .diskNotFound)) :=
  ⟨fun _ => Operation.updateVm_accepted_again,
    fun _ _ _ _ => Operation.attachDisk_rejected_again,
    fun _ _ => Operation.detachDisk_rejected_again,
    fun _ _ => Operation.removeDisk_rejected_again⟩

namespace Resubmission

open Usability

/-- The machine with another name and more memory. -/
def renamed : Vm := { linux with name := "renamed", memoryMb := 8192 }

/-- The inventory that the operations are on: a machine with one disk. -/
def start : Inventory := alone linux

/-- A new attachment is not plugged, and the machine keeps its controller. -/
def unplugged : CommitChoice := ⟨false, false, true, start.controllers⟩

end Resubmission

open Usability Resubmission in
/-- The machine is renamed twice, and its disk attached twice through one snapshot, detached twice
and removed twice. -/
theorem resubmission_recognised_for_linux :
    (Operation.updateVm ⟨renamed, some true⟩).judge
        (start.commit unplugged (.updateVm ⟨renamed, some true⟩)) .builtIn = .ok .accepted ∧
    (∃ vm, start.vm? linux.id = some vm ∧
      (Operation.attachDisk scsiDisk linux.id (some windows.id)).judge
          (start.commit unplugged (.attachDisk scsiDisk linux.id (some windows.id))) .builtIn =
        .ok ((Verdict.reject .diskAlreadyAttached).filling "vmName" vm.name)) ∧
    (Operation.detachDisk scsiDisk.id linux.id).judge
        (start.commit unplugged (.detachDisk scsiDisk.id linux.id)) .builtIn =
      .ok (.reject .diskNotAttached) ∧
    (Operation.removeDisk scsiDisk.id).judge
        (start.commit unplugged (.removeDisk scsiDisk.id)) .builtIn =
      .ok (.reject .diskNotFound) := by
  obtain ⟨hupdate, hattach, hdetach, hremove⟩ := resubmission_recognised start .builtIn unplugged
  exact ⟨hupdate _ (by decide +kernel),
    hattach _ _ _ _ (by decide +kernel) Inventory.entersAttachment_commit,
    hdetach _ _ (by decide +kernel), hremove _ (by decide +kernel)⟩

end VmAdmission
