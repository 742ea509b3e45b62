import VmAdmission.Operation
import VmAdmission.Proofs.Tables

/-!
# Committed operations

Judging an operation changes nothing; whoever asked carries out what was accepted.
`Inventory.commit` is the inventory after an operation is carried out, and what the operation
leaves open is up to a `CommitChoice`. The lemmas say which rows are found afterwards.
-/

namespace VmAdmission

/-! ## Changed rows -/

/-- A stored machine after an update: what only the running system knows is kept. -/
def Vm.updatedTo (stored proposed : Vm) : Vm :=
  { proposed with
    status := stored.status
    clusterCompatibilityVersion := stored.clusterCompatibilityVersion }

/-- A stored disk that is presented to the guest as another one. -/
def Disk.presentedAs (stored requested : Disk) : Disk :=
  { stored with
    interface := requested.interface
    readOnly := requested.readOnly
    sgio := requested.sgio
    scsiPassthrough := requested.scsiPassthrough }

@[simp] theorem Vm.isHostedEngine_updatedTo (stored proposed : Vm) :
    (stored.updatedTo proposed).isHostedEngine = proposed.isHostedEngine := rfl

@[simp] theorem Disk.isHostedEngineLun_presentedAs (stored requested : Disk) :
    (stored.presentedAs requested).isHostedEngineLun = stored.isHostedEngineLun := rfl

/-! ## Carrying out -/

/-- What an operation leaves open to whoever carries it out. -/
structure CommitChoice where
  /-- Whether a new attachment is plugged. -/
  plugged : Bool
  /-- Whether a new attachment holds a SCSI reservation. -/
  usingScsiReservation : Bool
  /-- Whether a disk that is attached is stored as it was requested to be presented. -/
  presents : Bool
  /-- The controllers after an update of a machine. -/
  controllers : List Controller
deriving DecidableEq

/-- The operation takes the disk away from the machine itself. -/
def Operation.TakesAway (vm disk : Uuid) : Operation → Prop
  | .detachDisk d v => d = disk ∧ v = vm
  | .removeDisk d => d = disk
  | _ => False

namespace Inventory

/-- The inventory with a machine's row changed. -/
def mapVm (inv : Inventory) (id : Uuid) (f : Vm → Vm) : Inventory :=
  { inv with vms := inv.vms.map fun vm => if vm.id = id then f vm else vm }

/-- The inventory with a disk's row changed. -/
def mapDisk (inv : Inventory) (id : Uuid) (f : Disk → Disk) : Inventory :=
  { inv with disks := inv.disks.map fun disk => if disk.id = id then f disk else disk }

/-- The inventory without some attachments. -/
def dropAttachments (inv : Inventory) (p : Attachment → Bool) : Inventory :=
  { inv with attachments := inv.attachments.filter (!p ·) }

/-- The inventory after an operation is carried out. -/
def commit (inv : Inventory) (choice : CommitChoice) : Operation → Inventory
  | .updateVm u =>
    { inv.mapVm u.vm.id (·.updatedTo u.vm) with controllers := choice.controllers }
  | .attachDisk disk vmId snapshotId =>
    let row : Attachment :=
      { vmId
        diskId := disk.id
        plugged := choice.plugged
        snapshotId
        usingScsiReservation := choice.usingScsiReservation }
    { inv.mapDisk disk.id (fun d => if choice.presents then d.presentedAs disk else d) with
      attachments := inv.attachments ++ [row] }
  | .updateDisk disk _ => inv.mapDisk disk.id fun _ => disk
  | .detachDisk diskId vmId =>
    inv.dropAttachments fun a => a.diskId = diskId && a.vmId = vmId && a.snapshotId.isNone
  | .removeDisk diskId =>
    { inv.dropAttachments fun a => a.diskId = diskId with
      disks := inv.disks.filter fun disk => disk.id ≠ diskId }
  | .removeDiskSnapshots diskId =>
    inv.dropAttachments fun a => a.diskId = diskId && a.snapshotId.isSome

/-! ## Rows afterwards -/

variable {inv : Inventory} {id target : Uuid}

theorem vm?_mapVm {f : Vm → Vm} (hf : ∀ vm, vm.id = target → (f vm).id = target) :
    (inv.mapVm target f).vm? id =
      (inv.vm? id).map fun vm => if vm.id = target then f vm else vm := by
  unfold vm? mapVm
  rw [List.find?_map]
  congr 2
  funext vm
  by_cases h : vm.id = target
  · simp [h, hf vm h]
  · simp [h]

theorem disk?_mapDisk {f : Disk → Disk} (hf : ∀ disk, disk.id = target → (f disk).id = target) :
    (inv.mapDisk target f).disk? id =
      (inv.disk? id).map fun disk => if disk.id = target then f disk else disk := by
  unfold disk? mapDisk
  rw [List.find?_map]
  congr 2
  funext disk
  by_cases h : disk.id = target
  · simp [h, hf disk h]
  · simp [h]

theorem map_id_vms_mapVm {f : Vm → Vm} (hf : ∀ vm, vm.id = target → (f vm).id = target) :
    (inv.mapVm target f).vms.map Vm.id = inv.vms.map Vm.id := by
  simp only [mapVm, List.map_map]
  refine List.map_congr_left fun vm _ => ?_
  by_cases hid : vm.id = target
  · simp [hid, hf vm hid]
  · simp [hid]

theorem map_id_disks_mapDisk {f : Disk → Disk}
    (hf : ∀ disk, disk.id = target → (f disk).id = target) :
    (inv.mapDisk target f).disks.map Disk.id = inv.disks.map Disk.id := by
  simp only [mapDisk, List.map_map]
  refine List.map_congr_left fun disk _ => ?_
  by_cases hid : disk.id = target
  · simp [hid, hf disk hid]
  · simp [hid]

theorem isAttached_dropAttachments {p : Attachment → Bool} {vm : Uuid} {snapshotId : Option Uuid}
    (hp : ∀ a, a.diskId = id → a.vmId = vm → a.snapshotId = snapshotId → p a = false) :
    (inv.dropAttachments p).IsAttached id vm snapshotId ↔ inv.IsAttached id vm snapshotId := by
  constructor
  · rintro ⟨a, ⟨ha, hid⟩, hvm, hs⟩
    exact ⟨a, ⟨(List.mem_filter.1 ha).1, hid⟩, hvm, hs⟩
  · rintro ⟨a, ⟨ha, hid⟩, hvm, hs⟩
    exact ⟨a, ⟨List.mem_filter.2 ⟨ha, by simp [hp a hid hvm hs]⟩, hid⟩, hvm, hs⟩

section Operations

variable {choice : CommitChoice}

theorem vm?_commit_updateVm {u : VmUpdate} :
    (inv.commit choice (.updateVm u)).vm? id =
      (inv.vm? id).map fun vm => if vm.id = u.vm.id then vm.updatedTo u.vm else vm :=
  vm?_mapVm fun _ _ => rfl

theorem vm?_commit_updateVm_self {u : VmUpdate} {current : Vm}
    (h : inv.vm? u.vm.id = some current) :
    (inv.commit choice (.updateVm u)).vm? u.vm.id = some (current.updatedTo u.vm) := by
  rw [vm?_commit_updateVm, h, Option.map_some, if_pos (id_of_vm? h)]

/-- A machine's row stays as it is unless the operation is an update of that machine. -/
theorem vm?_commit_of_not_updated {op : Operation} (h : ∀ u, op = .updateVm u → u.vm.id ≠ id) :
    (inv.commit choice op).vm? id = inv.vm? id := by
  cases op with
  | updateVm u =>
    rw [vm?_commit_updateVm]
    cases hvm : inv.vm? id with
    | none => rfl
    | some vm =>
      have hne : vm.id ≠ u.vm.id := fun he => h u rfl (he ▸ id_of_vm? hvm)
      rw [Option.map_some, if_neg hne]
  | attachDisk disk vmId snapshotId => rfl
  | updateDisk disk vmId => rfl
  | detachDisk diskId vmId => rfl
  | removeDisk diskId => rfl
  | removeDiskSnapshots diskId => rfl

/-- Updates replace machines one by one, and nothing else touches them. -/
theorem map_id_vms_commit {op : Operation} :
    (inv.commit choice op).vms.map Vm.id = inv.vms.map Vm.id := by
  cases op with
  | updateVm u => exact map_id_vms_mapVm fun _ _ => rfl
  | attachDisk disk vmId snapshotId => rfl
  | updateDisk disk vmId => rfl
  | detachDisk diskId vmId => rfl
  | removeDisk diskId => rfl
  | removeDiskSnapshots diskId => rfl

/-- Disks are replaced one by one, and only a removal takes one away. -/
theorem map_id_disks_commit {op : Operation} (h : ∀ diskId, op ≠ .removeDisk diskId) :
    (inv.commit choice op).disks.map Disk.id = inv.disks.map Disk.id := by
  cases op with
  | updateVm u => rfl
  | attachDisk disk vmId snapshotId =>
    refine map_id_disks_mapDisk fun d hd => ?_
    split
    · exact hd
    · exact hd
  | updateDisk disk vmId => exact map_id_disks_mapDisk fun _ _ => rfl
  | detachDisk diskId vmId => rfl
  | removeDisk diskId => exact absurd rfl (h diskId)
  | removeDiskSnapshots diskId => rfl

theorem disk?_commit_attachDisk {disk : Disk} {vmId : Uuid} {snapshotId : Option Uuid} :
    (inv.commit choice (.attachDisk disk vmId snapshotId)).disk? id =
      (inv.disk? id).map fun d =>
        if d.id = disk.id then if choice.presents then d.presentedAs disk else d else d :=
  disk?_mapDisk fun d h => by
    split
    · exact h
    · exact h

theorem disk?_commit_updateDisk {disk : Disk} {vmId : Option Uuid} :
    (inv.commit choice (.updateDisk disk vmId)).disk? id =
      (inv.disk? id).map fun d => if d.id = disk.id then disk else d :=
  disk?_mapDisk fun _ _ => rfl

theorem disk?_commit_updateDisk_self {disk stored : Disk} {vmId : Option Uuid}
    (h : inv.disk? disk.id = some stored) :
    (inv.commit choice (.updateDisk disk vmId)).disk? disk.id = some disk := by
  rw [disk?_commit_updateDisk, h, Option.map_some, if_pos (id_of_disk? h)]

theorem disk?_commit_removeDisk {diskId : Uuid} (h : id ≠ diskId) :
    (inv.commit choice (.removeDisk diskId)).disk? id = inv.disk? id := by
  unfold disk? commit
  rw [List.find?_filter]
  congr 1
  funext disk
  by_cases hd : disk.id = id
  · simp [hd, h]
  · simp [hd]

theorem disk?_commit_removeDisk_self : (inv.commit choice (.removeDisk id)).disk? id = none := by
  unfold disk? commit
  rw [List.find?_filter, List.find?_eq_none]
  intro disk _
  simp

/-- A disk's row is the one before the operation, as it is or presented otherwise by an attachment,
unless an update has replaced it. -/
theorem exists_disk?_of_commit {op : Operation} {disk : Disk}
    (h : (inv.commit choice op).disk? id = some disk) :
    ∃ stored, inv.disk? id = some stored ∧
      (disk = stored ∨
        (∃ requested vmId snapshotId,
          op = .attachDisk requested vmId snapshotId ∧ disk = stored.presentedAs requested) ∨
        ∃ vmId, op = .updateDisk disk vmId) := by
  cases op with
  | updateVm u => exact ⟨disk, h, .inl rfl⟩
  | attachDisk requested vmId snapshotId =>
    rw [disk?_commit_attachDisk, Option.map_eq_some_iff] at h
    obtain ⟨stored, hstored, rfl⟩ := h
    refine ⟨stored, hstored, ?_⟩
    split_ifs
    · exact .inr (.inl ⟨requested, vmId, snapshotId, rfl, rfl⟩)
    · exact .inl rfl
    · exact .inl rfl
  | updateDisk proposed vmId =>
    rw [disk?_commit_updateDisk, Option.map_eq_some_iff] at h
    obtain ⟨stored, hstored, rfl⟩ := h
    refine ⟨stored, hstored, ?_⟩
    split_ifs
    · exact .inr (.inr ⟨vmId, rfl⟩)
    · exact .inl rfl
  | detachDisk diskId vmId => exact ⟨disk, h, .inl rfl⟩
  | removeDisk diskId =>
    by_cases hid : id = diskId
    · rw [← hid, disk?_commit_removeDisk_self] at h
      cases h
    · rw [disk?_commit_removeDisk hid] at h
      exact ⟨disk, h, .inl rfl⟩
  | removeDiskSnapshots diskId => exact ⟨disk, h, .inl rfl⟩

/-- A disk stays attached to a machine itself unless the operation takes it away. -/
theorem isAttached_commit {op : Operation} {vm disk : Uuid} (ht : ¬ op.TakesAway vm disk)
    (h : inv.IsAttached disk vm none) : (inv.commit choice op).IsAttached disk vm none := by
  cases op with
  | updateVm u => exact h
  | attachDisk requested vmId snapshotId =>
    obtain ⟨a, ⟨ha, hdisk⟩, hvm, hs⟩ := h
    exact ⟨a, ⟨List.mem_append_left _ ha, hdisk⟩, hvm, hs⟩
  | updateDisk proposed vmId => exact h
  | detachDisk diskId vmId =>
    refine (isAttached_dropAttachments ?_).2 h
    rintro a rfl rfl -
    simpa using fun hd hv => absurd ⟨hd.symm, hv.symm⟩ ht
  | removeDisk diskId =>
    refine (isAttached_dropAttachments ?_).2 h
    rintro a rfl - -
    simpa using fun hd => absurd hd.symm ht
  | removeDiskSnapshots diskId =>
    refine (isAttached_dropAttachments ?_).2 h
    intro a _ _ hs
    simp [hs]

end Operations

end Inventory

end VmAdmission
