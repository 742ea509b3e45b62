import VmAdmission.Proofs.Catalog.Removal
import VmAdmission.Proofs.Usability
import Mathlib.Data.List.Nodup

/-!
# Removing and detaching

A removal takes a disk away from every machine and every snapshot at once, a detachment from one
machine, and a removal of snapshots from those. Each looks at attachments of its own and objects in
its own order. `removal_permits_lesser`: what may be removed altogether may also be taken away piece
by piece; and where machines have the disk once each, and themselves, a disk that each of them may
give up may be removed.
-/

namespace VmAdmission

variable {inv : Inventory} {c : Capabilities} {diskId : Uuid} {disk : Disk}

/-- The disk is attached to machines themselves, and to no machine twice. -/
structure Inventory.AttachedPlainly (inv : Inventory) (diskId : Uuid) : Prop where
  no_snapshot : ∀ a ∈ inv.attachmentRows diskId, a.snapshotId = none
  once : ((inv.attachmentRows diskId).map Attachment.vmId).Nodup

/-! ## From all attachments to one -/

theorem Inventory.exists_activeRow?_of_isAttached {vmId : Uuid}
    (h : inv.IsAttached diskId vmId none) : ∃ a, inv.activeRow? diskId vmId = some a := by
  obtain ⟨a, ha, hvm, hs⟩ := h
  refine Option.isSome_iff_exists.1 (List.find?_isSome.2 ⟨a, mem_attachmentRows.2 ha, ?_⟩)
  simp [hvm, hs]

/-- A disk that may be removed from everywhere may be detached from any one machine. -/
theorem Removable.detachable {vm : Vm} {a : Attachment} (h : Removable inv disk)
    (ha : inv.IsAttachmentOf disk.id a) (hvm : inv.vm? a.vmId = some vm) :
    Detachable disk vm a where
  not_store := h.not_store
  not_protected := h.not_protected a vm ha hvm
  not_running := h.not_running a vm ha hvm

theorem Removable.snapshotsRemovable (h : Removable inv disk) : SnapshotsRemovable inv disk where
  not_store := h.not_store
  not_running := fun a vm ha hvm _ => h.not_running a vm ha hvm

/-! ## From each attachment to all -/

/-- The attachment that a detachment looks at is the only one to the machine. -/
theorem Inventory.AttachedPlainly.eq_of_activeRow? (h : inv.AttachedPlainly diskId)
    {a b : Attachment} (ha : inv.IsAttachmentOf diskId a)
    (hb : inv.activeRow? diskId a.vmId = some b) : b = a := by
  obtain ⟨hrow, hvm, -⟩ := of_activeRow?_eq_some hb
  exact List.inj_on_of_nodup_map h.once (mem_attachmentRows.2 hrow) (mem_attachmentRows.2 ha) hvm

/-- A disk that each attachment lets go of may be removed, provided there is one that shows that
the disk is no internal volume. -/
theorem Removable.of_forall_detachable {a : Attachment} {vm : Vm}
    (ha : inv.IsAttachmentOf disk.id a) (hvm : inv.vm? a.vmId = some vm)
    (h : ∀ a vm, inv.IsAttachmentOf disk.id a → inv.vm? a.vmId = some vm → Detachable disk vm a) :
    Removable inv disk where
  not_store := (h a vm ha hvm).not_store
  not_protected := fun a vm ha hvm => (h a vm ha hvm).not_protected
  not_running := fun a vm ha hvm => (h a vm ha hvm).not_running

/-! ## Decisions -/

/-- **Removing and detaching.** If the removal of a disk is accepted, then so are the removal of its
snapshots and its detachment from every machine that has it attached itself.

Conversely, let the disk be attached somewhere, to machines themselves and to none twice. If its
detachment from each of them is accepted, then so is its removal; that each attachment names a
stored machine shows in the first detachment. -/
theorem removal_permits_lesser (inv : Inventory) (c : Capabilities) (diskId : Uuid) :
    ((Operation.removeDisk diskId).judge inv c = .ok .accepted →
      (Operation.removeDiskSnapshots diskId).judge inv c = .ok .accepted ∧
      ∀ vmId, inv.IsAttached diskId vmId none →
        (Operation.detachDisk diskId vmId).judge inv c = .ok .accepted) ∧
    (inv.AttachedPlainly diskId → (∃ a, inv.IsAttachmentOf diskId a) →
      (∀ vmId, inv.IsAttached diskId vmId none →
        (Operation.detachDisk diskId vmId).judge inv c = .ok .accepted) →
      (Operation.removeDisk diskId).judge inv c = .ok .accepted) := by
  constructor
  · intro hacc
    obtain ⟨disk, hdisk, hjoined, hremovable⟩ := Operation.removeDisk_accepted_iff.1 hacc
    obtain rfl := Inventory.id_of_disk? hdisk
    constructor
    · exact Operation.removeDiskSnapshots_accepted_iff.2
        ⟨disk, hdisk, hjoined, hremovable.snapshotsRemovable⟩
    · intro vmId hattached
      obtain ⟨a, ha⟩ := Inventory.exists_activeRow?_of_isAttached hattached
      obtain ⟨hrow, hid, -⟩ := Inventory.of_activeRow?_eq_some ha
      obtain ⟨vm, hvm⟩ := hjoined a hrow
      exact Operation.detachDisk_accepted_iff_row.2
        ⟨disk, vm, a, hdisk, hjoined, hid ▸ hvm, ha, hremovable.detachable hrow hvm⟩
  · rintro hplainly ⟨first, hfirst⟩ hdetach
    have hrows : ∀ a, inv.IsAttachmentOf diskId a → ∃ disk vm, inv.disk? diskId = some disk ∧
        (∀ b, inv.IsAttachmentOf diskId b → ∃ w, inv.vm? b.vmId = some w) ∧
        inv.vm? a.vmId = some vm ∧ Detachable disk vm a := by
      intro a ha
      obtain ⟨disk, vm, b, hdisk, hjoined, hvm, hb, hdetachable⟩ :=
        Operation.detachDisk_accepted_iff_row.1
          (hdetach a.vmId ⟨a, ha, rfl, hplainly.no_snapshot a (Inventory.mem_attachmentRows.2 ha)⟩)
      obtain rfl := hplainly.eq_of_activeRow? ha hb
      exact ⟨disk, vm, hdisk, hjoined, hvm, hdetachable⟩
    obtain ⟨disk, vm, hdisk, hjoined, hvm, -⟩ := hrows first hfirst
    obtain rfl := Inventory.id_of_disk? hdisk
    refine Operation.removeDisk_accepted_iff.2
      ⟨disk, hdisk, hjoined, Removable.of_forall_detachable hfirst hvm fun a vm ha hvm => ?_⟩
    obtain ⟨disk', vm', hdisk', -, hvm', hdetachable⟩ := hrows a ha
    cases hdisk.symm.trans hdisk'
    cases hvm.symm.trans hvm'
    exact hdetachable

open Usability in
/-- Two machines that are down share a disk. Its removal is accepted, hence the removal of its
snapshots and each detachment; and each detachment is accepted, hence the removal. -/
theorem removal_permits_lesser_for_shared :
    shared.AttachedPlainly scsiDisk.id ∧
    (Operation.removeDiskSnapshots scsiDisk.id).judge shared .builtIn = .ok .accepted ∧
    (Operation.detachDisk scsiDisk.id windows.id).judge shared .builtIn = .ok .accepted ∧
    (Operation.removeDisk scsiDisk.id).judge shared .builtIn = .ok .accepted := by
  have hplainly : shared.AttachedPlainly scsiDisk.id := ⟨by decide +kernel, by decide +kernel⟩
  have hlinux : shared.IsAttachmentOf scsiDisk.id (plugged linux) := ⟨List.mem_cons_self, rfl⟩
  have hwindows : shared.IsAttachmentOf scsiDisk.id (plugged windows) :=
    ⟨List.mem_cons_of_mem _ List.mem_cons_self, rfl⟩
  have hdetach : ∀ vmId, shared.IsAttached scsiDisk.id vmId none →
      (Operation.detachDisk scsiDisk.id vmId).judge shared .builtIn = .ok .accepted := by
    rintro _ ⟨a, ⟨ha, -⟩, rfl, -⟩
    obtain rfl | rfl : a = plugged linux ∨ a = plugged windows := by
      simpa [shared, sharing] using ha
    · decide +kernel
    · decide +kernel
  obtain ⟨hpermits, hpermitted⟩ := removal_permits_lesser shared .builtIn scsiDisk.id
  obtain ⟨hsnapshots, hdetached⟩ := hpermits (by decide +kernel)
  exact ⟨hplainly, hsnapshots, hdetached _ ⟨_, hwindows, rfl, rfl⟩,
    hpermitted hplainly ⟨_, hlinux⟩ hdetach⟩

end VmAdmission
