import VmAdmission.Proofs.Catalog.AttachDisk
import VmAdmission.Proofs.Catalog.UpdateDisk
import VmAdmission.Proofs.Course
import VmAdmission.Proofs.HostedEngine

/-!
# Protected disks

An internal volume that keeps machine configurations is never touched, and the LUN behind the
hosted-engine machine is only taken away. Each operation about a disk is judged by the stored row
(`Operation.exists_disk?_of_accepted`), whatever a request says of it; so the rows of a volume stay
as they are over every course, and those of the LUN are at most taken away
(`protected_disks_frozen`).
-/

namespace VmAdmission

variable {inv start next last : Inventory} {c : Capabilities} {op : Operation} {id : Uuid}
  {disk : Disk}

/-! ## What is accepted -/

/-- The disk that an accepted operation is about is stored and no internal volume; if it is the LUN
behind the hosted-engine machine, the operation only takes it away. -/
theorem Operation.exists_disk?_of_accepted (hacc : op.judge inv c = .ok .accepted)
    (hid : op.disk? = some id) :
    ∃ stored, inv.disk? id = some stored ∧ stored.infrastructureStore = false ∧
      (stored.isHostedEngineLun = true → op.OnlyTakes) := by
  cases op with
  | updateVm u => cases hid
  | attachDisk requested vmId snapshotId =>
    cases hid
    obtain ⟨vm, stored, -, hstored, -, h⟩ := attachDisk_accepted_iff.1 hacc
    exact ⟨stored, hstored, h.not_store, fun hlun => by simp [h.not_hostedEngineLun] at hlun⟩
  | updateDisk proposed vmId =>
    cases hid
    obtain ⟨stored, hstored, -, -, h⟩ := updateDisk_accepted_iff.1 hacc
    exact ⟨stored, hstored, h.not_store, fun hlun => by simp [h.not_hostedEngineLun] at hlun⟩
  | detachDisk diskId vmId =>
    cases hid
    obtain ⟨stored, attachments, joined, hstored, -, -, h⟩ := detachDisk_accepted_iff.1 hacc
    exact ⟨stored, hstored, h.not_store, fun _ => trivial⟩
  | removeDisk diskId =>
    cases hid
    obtain ⟨stored, hstored, -, h⟩ := removeDisk_accepted_iff.1 hacc
    exact ⟨stored, hstored, h.not_store, fun _ => trivial⟩
  | removeDiskSnapshots diskId =>
    cases hid
    obtain ⟨stored, hstored, -, h⟩ := removeDiskSnapshots_accepted_iff.1 hacc
    exact ⟨stored, hstored, h.not_store, fun _ => trivial⟩

/-! ## One step -/

namespace Inventory

/-- The rows of a disk are those at the start. -/
structure Keeps (inv start : Inventory) (id : Uuid) : Prop where
  diskRows : inv.diskRows id = start.diskRows id
  attachmentRows : inv.attachmentRows id = start.attachmentRows id

/-- The rows of a disk are among those at the start, in the same order. -/
structure KeepsAtMost (inv start : Inventory) (id : Uuid) : Prop where
  diskRows : (inv.diskRows id).Sublist (start.diskRows id)
  attachmentRows : (inv.attachmentRows id).Sublist (start.attachmentRows id)

/-- An internal volume is not what an accepted operation is about, so its rows stay. -/
theorem Keeps.step (h : inv.Keeps start id)
    (hstore : ∀ disk ∈ start.diskRows id, disk.infrastructureStore = true)
    (hacc : op.judge inv c = .ok .accepted) (hleads : inv.Leads op next) : next.Keeps start id := by
  have hother : op.disk? ≠ some id := by
    intro hid
    obtain ⟨stored, hstored, hnot, -⟩ := Operation.exists_disk?_of_accepted hacc hid
    have hmem : stored ∈ start.diskRows id := h.diskRows ▸ mem_diskRows_of_disk? hstored
    rw [hstore stored hmem] at hnot
    cases hnot
  obtain ⟨hdisks, hattachments⟩ := hleads.rows_of_other hother
  exact ⟨hdisks.trans h.diskRows, hattachments.trans h.attachmentRows⟩

/-- What an accepted operation does to the LUN behind the hosted-engine machine is taking away. -/
theorem onlyTakes_of_accepted (hlun : ∀ disk ∈ inv.diskRows id, disk.isHostedEngineLun = true)
    (hacc : op.judge inv c = .ok .accepted) (hid : op.disk? = some id) : op.OnlyTakes := by
  obtain ⟨stored, hstored, -, htakes⟩ := Operation.exists_disk?_of_accepted hacc hid
  exact htakes (hlun stored (mem_diskRows_of_disk? hstored))

theorem KeepsAtMost.step (h : inv.KeepsAtMost start id)
    (hlun : ∀ disk ∈ start.diskRows id, disk.isHostedEngineLun = true)
    (hacc : op.judge inv c = .ok .accepted) (hleads : inv.Leads op next) :
    next.KeepsAtMost start id := by
  by_cases hid : op.disk? = some id
  · have hstored : ∀ disk ∈ inv.diskRows id, disk.isHostedEngineLun = true :=
      fun disk hdisk => hlun disk (h.diskRows.subset hdisk)
    have htakes : op.OnlyTakes := onlyTakes_of_accepted hstored hacc hid
    exact ⟨(hleads.rows_sublist htakes).1.trans h.diskRows,
      (hleads.rows_sublist htakes).2.trans h.attachmentRows⟩
  · obtain ⟨hdisks, hattachments⟩ := hleads.rows_of_other hid
    exact ⟨hdisks ▸ h.diskRows, hattachments ▸ h.attachmentRows⟩

/-- The row of the LUN stays as long as the disk is not removed. -/
theorem diskRows_step (hlun : ∀ disk ∈ inv.diskRows id, disk.isHostedEngineLun = true)
    (hacc : op.judge inv c = .ok .accepted) (hleads : inv.Leads op next)
    (hremove : op ≠ .removeDisk id) : next.diskRows id = inv.diskRows id := by
  by_cases hid : op.disk? = some id
  · exact hleads.diskRows_eq (onlyTakes_of_accepted hlun hacc hid) hremove
  · exact (hleads.rows_of_other hid).1

/-! ## Courses -/

namespace Course

variable {ops : List Operation}

theorem keeps (h : Course c start ops last)
    (hstore : ∀ disk ∈ start.diskRows id, disk.infrastructureStore = true) :
    last.Keeps start id :=
  h.preserves (P := (Keeps · start id)) (Q := fun _ => True)
    (fun _ _ _ hkeeps hacc _ hleads => hkeeps.step hstore hacc hleads) ⟨rfl, rfl⟩
    fun _ _ => trivial

theorem keepsAtMost (h : Course c start ops last)
    (hlun : ∀ disk ∈ start.diskRows id, disk.isHostedEngineLun = true) :
    last.KeepsAtMost start id :=
  h.preserves (P := (KeepsAtMost · start id)) (Q := fun _ => True)
    (fun _ _ _ hkeeps hacc _ hleads => hkeeps.step hlun hacc hleads)
    ⟨List.Sublist.refl _, List.Sublist.refl _⟩ fun _ _ => trivial

theorem diskRows_eq_of_not_removed (h : Course c start ops last)
    (hlun : ∀ disk ∈ start.diskRows id, disk.isHostedEngineLun = true)
    (hremove : .removeDisk id ∉ ops) : last.diskRows id = start.diskRows id :=
  h.preserves (P := fun inv => inv.diskRows id = start.diskRows id) (Q := (· ≠ .removeDisk id))
    (fun _ _ _ hrows hacc hkept hleads =>
      (diskRows_step (hrows ▸ hlun) hacc hleads hkept).trans hrows) rfl
    fun _ hop he => hremove (he ▸ hop)

end Course

end Inventory

/-- **Protected disks.** Whatever is proposed, and whoever carries out what is accepted, an internal
volume keeps its row and its attachments for ever. The LUN behind the hosted-engine machine never
gains an attachment; its row stays as it is as long as no removal of it is accepted, and is never
replaced by another one. -/
theorem protected_disks_frozen (inv : Inventory) (c : Capabilities) (disk : Disk)
    (hids : (inv.disks.map Disk.id).Nodup) (hdisk : disk ∈ inv.disks) :
    (disk.infrastructureStore = true → ∀ ops last, Inventory.Course c inv ops last →
      last.diskRows disk.id = [disk] ∧
        last.attachmentRows disk.id = inv.attachmentRows disk.id) ∧
    (disk.isHostedEngineLun = true → ∀ ops last, Inventory.Course c inv ops last →
      (last.attachmentRows disk.id).Sublist (inv.attachmentRows disk.id) ∧
        (.removeDisk disk.id ∉ ops → last.diskRows disk.id = [disk]) ∧
        (last.diskRows disk.id = [disk] ∨ last.diskRows disk.id = [])) := by
  have hrows : inv.diskRows disk.id = [disk] := Inventory.diskRows_of_unique hids hdisk
  constructor
  · intro hstore ops last hcourse
    have hkeeps : last.Keeps inv disk.id := hcourse.keeps (by simpa [hrows] using hstore)
    exact ⟨hkeeps.diskRows.trans hrows, hkeeps.attachmentRows⟩
  · intro hlun ops last hcourse
    have hall : ∀ d ∈ inv.diskRows disk.id, d.isHostedEngineLun = true := by
      simpa [hrows] using hlun
    have hatMost : last.KeepsAtMost inv disk.id := hcourse.keepsAtMost hall
    refine ⟨hatMost.attachmentRows, fun hremove => ?_, ?_⟩
    · exact (hcourse.diskRows_eq_of_not_removed hall hremove).trans hrows
    · have hsublist := hatMost.diskRows
      rw [hrows, List.sublist_singleton] at hsublist
      exact hsublist.symm

/-! ## A volume and a LUN -/

namespace ProtectedDisks

/-- An internal volume. -/
def volume : Disk :=
  { HostedEngine.data with
    diskAlias := "OVF_STORE"
    infrastructureStore := true }

/-- The LUN behind the hosted-engine machine. -/
def lun : Disk :=
  { HostedEngine.data with
    id := .repeated ⟨8, by decide⟩
    diskAlias := Disk.hostedEngineAlias
    backing := .lun ⟨"lun", false⟩ }

/-- Both disks, plugged into the hosted-engine machine. -/
def inventory : Inventory :=
  { HostedEngine.inventory with
    disks := [volume, lun]
    attachments := [volume, lun].map fun disk =>
      { vmId := HostedEngine.engine.id
        diskId := disk.id
        plugged := true
        snapshotId := none
        usingScsiReservation := false } }

/-- Both disks are proposed to be detached, and the LUN to be removed afterwards. -/
def proposals : List Proposal :=
  [.detachDisk volume.id HostedEngine.engine.id, .detachDisk lun.id HostedEngine.engine.id,
    .removeDisk lun.id].map fun operation => ⟨operation, ⟨true, false, false, []⟩⟩

end ProtectedDisks

section Proposals

open ProtectedDisks

/-- The volume stays attached, and the LUN is detached and removed. -/
theorem protected_disks_frozen_after_proposals :
    inventory.accepted .builtIn proposals =
        [.detachDisk lun.id HostedEngine.engine.id, .removeDisk lun.id] ∧
      ((inventory.run .builtIn proposals).diskRows volume.id = [volume] ∧
        (inventory.run .builtIn proposals).attachmentRows volume.id =
          inventory.attachmentRows volume.id) ∧
      ((inventory.run .builtIn proposals).attachmentRows lun.id).Sublist
        (inventory.attachmentRows lun.id) ∧
      (inventory.run .builtIn (proposals.take 2)).diskRows lun.id = [lun] := by
  have hids : (inventory.disks.map Disk.id).Nodup := by decide
  refine ⟨?_, ?_, ?_, ?_⟩
  · decide +kernel
  · exact (protected_disks_frozen inventory .builtIn volume hids (by decide)).1 rfl _ _
      (Inventory.course_run _ _)
  · have hlun := (protected_disks_frozen inventory .builtIn lun hids (by decide)).2 (by decide) _ _
      (Inventory.course_run inventory proposals)
    exact hlun.1
  · have hlun := (protected_disks_frozen inventory .builtIn lun hids (by decide)).2 (by decide) _ _
      (Inventory.course_run inventory (proposals.take 2))
    -- the detachment of the LUN is the only one of the two that is accepted
    exact hlun.2.1 (by decide +kernel)

end Proposals

end VmAdmission
