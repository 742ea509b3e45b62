import VmAdmission.Proofs.Run
import Mathlib.Data.List.Nodup

/-!
# Courses

Whoever carries out an operation may do more than `Inventory.commit` says: an update may touch the
rows of any machine, an attachment may be entered anywhere. `Inventory.Leads` only bounds what is
touched, by the kind of the operation and by the disk that it is about. A `Course` is a list of
accepted operations, each carried out within these bounds; every run is one (`course_run`).

The rows of a disk that an operation is not about stay as they are (`Leads.rows_of_other`), and an
operation that only takes rows of its disk away leaves no others (`Leads.rows_sublist`).
-/

namespace VmAdmission

namespace Operation

/-- The disk that an operation is about. -/
def disk? : Operation → Option Uuid
  | .updateVm _ => none
  | .attachDisk disk _ _ | .updateDisk disk _ => some disk.id
  | .detachDisk diskId _ | .removeDisk diskId | .removeDiskSnapshots diskId => some diskId

/-- The operation only takes rows of its disk away. -/
def OnlyTakes : Operation → Prop
  | .detachDisk _ _ | .removeDisk _ | .removeDiskSnapshots _ => True
  | .updateVm _ | .attachDisk _ _ _ | .updateDisk _ _ => False

end Operation

namespace Inventory

variable {inv next : Inventory} {id target : Uuid} {op : Operation}

/-! ## Rows of a disk -/

/-- The rows of a disk, of which there is one if identifiers are unique. -/
def diskRows (inv : Inventory) (id : Uuid) : List Disk := inv.disks.filter fun disk => disk.id = id

theorem mem_diskRows_of_disk? {disk : Disk} (h : inv.disk? id = some disk) :
    disk ∈ inv.diskRows id := by
  rw [disk?, ← List.head?_filter] at h
  exact List.mem_of_head? h

theorem diskRows_of_unique {disk : Disk} (hids : (inv.disks.map Disk.id).Nodup)
    (hdisk : disk ∈ inv.disks) : inv.diskRows disk.id = [disk] := by
  have hmem : disk ∈ inv.diskRows disk.id := by simp [diskRows, hdisk]
  rw [diskRows, filter_key_eq_find? hids] at hmem ⊢
  rw [Option.mem_toList.1 hmem]
  rfl

/-- A change that keeps the identifiers keeps the places of the rows. -/
theorem diskRows_mapDisk {f : Disk → Disk}
    (hf : ∀ disk, disk.id = target → (f disk).id = target) :
    (inv.mapDisk target f).diskRows id =
      (inv.diskRows id).map fun disk => if disk.id = target then f disk else disk := by
  unfold diskRows mapDisk
  rw [List.filter_map]
  congr 1
  refine List.filter_congr fun disk _ => ?_
  by_cases hdisk : disk.id = target
  · simp [hdisk, hf disk hdisk]
  · simp [hdisk]

theorem diskRows_mapDisk_of_ne {f : Disk → Disk}
    (hf : ∀ disk, disk.id = target → (f disk).id = target) (h : target ≠ id) :
    (inv.mapDisk target f).diskRows id = inv.diskRows id := by
  rw [diskRows_mapDisk hf]
  refine (List.map_congr_left fun disk hdisk => ?_).trans (List.map_id _)
  have hid : disk.id = id := by simpa using (List.mem_filter.1 hdisk).2
  exact if_neg (hid ▸ h.symm)

/-- Taking rows away does not matter to a selection that keeps to others. -/
theorem filter_filter_of_imp {α : Type} {p keep : α → Bool} {rows : List α}
    (h : ∀ x, p x = true → keep x = true) : (rows.filter keep).filter p = rows.filter p := by
  rw [List.filter_filter]
  refine List.filter_congr fun x _ => ?_
  cases hp : p x with
  | false => rfl
  | true => rw [h x hp]; rfl

/-! ## What carrying out may touch -/

/-- Carrying out an operation may lead from an inventory to another. -/
inductive Leads (inv : Inventory) : Operation → Inventory → Prop
  /-- An update of a machine touches machines and controllers. -/
  | updateVm (u : VmUpdate) (vms : List Vm) (controllers : List Controller) :
    Leads inv (.updateVm u) { inv with vms := vms, controllers := controllers }
  /-- One attachment of the disk is entered, and the disk may be presented otherwise. -/
  | attachDisk (disk : Disk) (vmId : Uuid) (snapshotId : Option Uuid) (present : Disk → Disk)
      (row : Attachment) (before after : List Attachment)
      (hpresent : ∀ d, present d = d.presentedAs (present d)) (hrow : row.diskId = disk.id)
      (hplace : inv.attachments = before ++ after) :
    Leads inv (.attachDisk disk vmId snapshotId)
      { inv.mapDisk disk.id present with attachments := before ++ row :: after }
  /-- The row of the disk is replaced. -/
  | updateDisk (disk : Disk) (vmId : Option Uuid) :
    Leads inv (.updateDisk disk vmId) (inv.mapDisk disk.id fun _ => disk)
  /-- Attachments of the disk are taken away. -/
  | detachDisk (diskId vmId : Uuid) (keep : Attachment → Bool)
      (hkeep : ∀ a, a.diskId ≠ diskId → keep a = true) :
    Leads inv (.detachDisk diskId vmId) { inv with attachments := inv.attachments.filter keep }
  /-- Rows and attachments of the disk are taken away. -/
  | removeDisk (diskId : Uuid) (keepDisk : Disk → Bool) (keep : Attachment → Bool)
      (hkeepDisk : ∀ disk, disk.id ≠ diskId → keepDisk disk = true)
      (hkeep : ∀ a, a.diskId ≠ diskId → keep a = true) :
    Leads inv (.removeDisk diskId)
      { inv with
        disks := inv.disks.filter keepDisk
        attachments := inv.attachments.filter keep }
  /-- Attachments of the disk are taken away. -/
  | removeDiskSnapshots (diskId : Uuid) (keep : Attachment → Bool)
      (hkeep : ∀ a, a.diskId ≠ diskId → keep a = true) :
    Leads inv (.removeDiskSnapshots diskId)
      { inv with attachments := inv.attachments.filter keep }

theorem leads_commit {choice : CommitChoice} : inv.Leads op (inv.commit choice op) := by
  cases op with
  | updateVm u => exact .updateVm u _ _
  | attachDisk disk vmId snapshotId =>
    refine .attachDisk disk vmId snapshotId _ _ inv.attachments [] ?_ rfl (List.append_nil _).symm
    intro d
    cases choice.presents <;> rfl
  | updateDisk disk vmId => exact .updateDisk disk vmId
  | detachDisk diskId vmId =>
    refine .detachDisk diskId vmId _ fun a ha => ?_
    simp [ha]
  | removeDisk diskId =>
    refine .removeDisk diskId _ _ (fun disk hdisk => ?_) fun a ha => ?_
    · simpa using hdisk
    · simpa using ha
  | removeDiskSnapshots diskId =>
    refine .removeDiskSnapshots diskId _ fun a ha => ?_
    simp [ha]

/-- The rows of a disk that the operation is not about stay as they are. -/
theorem Leads.rows_of_other (h : inv.Leads op next) (hid : op.disk? ≠ some id) :
    next.diskRows id = inv.diskRows id ∧ next.attachmentRows id = inv.attachmentRows id := by
  have hkept {diskId : Uuid} (hne : some diskId ≠ some id) {keep : Attachment → Bool}
      (hkeep : ∀ a, a.diskId ≠ diskId → keep a = true) :
      (inv.attachments.filter keep).filter (fun a => a.diskId = id) = inv.attachmentRows id := by
    refine filter_filter_of_imp fun a ha => hkeep a fun he => hne ?_
    rw [← he, of_decide_eq_true ha]
  cases h with
  | updateVm u vms controllers => exact ⟨rfl, rfl⟩
  | attachDisk disk vmId snapshotId present row before after hpresent hrow hplace =>
    have hne : disk.id ≠ id := fun he => hid (congrArg some he)
    refine ⟨diskRows_mapDisk_of_ne (fun d hd => ?_) hne, ?_⟩
    · rw [hpresent d]
      exact hd
    · unfold attachmentRows
      rw [hplace]
      simp [hrow, hne]
  | updateDisk disk vmId =>
    have hne : disk.id ≠ id := fun he => hid (congrArg some he)
    exact ⟨diskRows_mapDisk_of_ne (fun _ _ => rfl) hne, rfl⟩
  | detachDisk diskId vmId keep hkeep => exact ⟨rfl, hkept hid hkeep⟩
  | removeDisk diskId keepDisk keep hkeepDisk hkeep =>
    refine ⟨filter_filter_of_imp fun disk hdisk => hkeepDisk disk fun he => hid ?_,
      hkept hid hkeep⟩
    rw [← of_decide_eq_true hdisk, he]
    rfl
  | removeDiskSnapshots diskId keep hkeep => exact ⟨rfl, hkept hid hkeep⟩

/-- An operation that only takes rows away leaves no others. -/
theorem Leads.rows_sublist (h : inv.Leads op next) (htakes : op.OnlyTakes) :
    (next.diskRows id).Sublist (inv.diskRows id) ∧
      (next.attachmentRows id).Sublist (inv.attachmentRows id) := by
  cases h with
  | updateVm => exact htakes.elim
  | attachDisk => exact htakes.elim
  | updateDisk => exact htakes.elim
  | detachDisk => exact ⟨List.Sublist.refl _, List.filter_sublist.filter _⟩
  | removeDisk => exact ⟨List.filter_sublist.filter _, List.filter_sublist.filter _⟩
  | removeDiskSnapshots => exact ⟨List.Sublist.refl _, List.filter_sublist.filter _⟩

/-- Of the operations that only take rows away, just the removal of a disk takes the disk's row. -/
theorem Leads.diskRows_eq (h : inv.Leads op next) (htakes : op.OnlyTakes)
    (hremove : op ≠ .removeDisk id) : next.diskRows id = inv.diskRows id := by
  cases h with
  | updateVm => exact htakes.elim
  | attachDisk => exact htakes.elim
  | updateDisk => exact htakes.elim
  | detachDisk => rfl
  | removeDisk diskId keepDisk keep hkeepDisk hkeep =>
    refine filter_filter_of_imp fun disk hdisk => hkeepDisk disk fun he => hremove ?_
    rw [← he, of_decide_eq_true hdisk]
  | removeDiskSnapshots => rfl

/-! ## Accepted operations in a row -/

/-- A course of accepted operations from an inventory to another, each judged by the inventory that
those before it left. Operations that are not accepted change nothing, and are not on the list. -/
inductive Course (c : Capabilities) : Inventory → List Operation → Inventory → Prop
  | nil (inv : Inventory) : Course c inv [] inv
  | cons {inv next last : Inventory} {op : Operation} {ops : List Operation}
      (hacc : op.judge inv c = .ok .accepted) (hleads : inv.Leads op next)
      (hrest : Course c next ops last) : Course c inv (op :: ops) last

variable {c : Capabilities} {last : Inventory} {ops : List Operation}

/-- Every run is a course of its accepted operations. -/
theorem course_run (inv : Inventory) (ps : List Proposal) :
    Course c inv (inv.accepted c ps) (inv.run c ps) := by
  induction ps generalizing inv with
  | nil => exact .nil inv
  | cons p ps ih =>
    rw [accepted]
    by_cases hp : p.operation.judge inv c = .ok .accepted
    · rw [if_pos hp, run_cons_of_accepted hp]
      exact .cons hp leads_commit (ih _)
    · rw [if_neg hp, run_cons_of_not_accepted hp]
      exact ih inv

/-- What each accepted operation of a kind preserves holds after a course of such operations. -/
theorem Course.preserves {P : Inventory → Prop} {Q : Operation → Prop} (h : Course c inv ops last)
    (hstep : ∀ inv op next, P inv → op.judge inv c = .ok .accepted → Q op → inv.Leads op next →
      P next)
    (hp : P inv) (hq : ∀ op ∈ ops, Q op) : P last := by
  induction h with
  | nil => exact hp
  | cons hacc hleads _ ih =>
    rw [List.forall_mem_cons] at hq
    exact ih (hstep _ _ _ hp hacc hq.1 hleads) hq.2

end Inventory

end VmAdmission
