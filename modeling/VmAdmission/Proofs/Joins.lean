import VmAdmission.Proofs.Tables

/-!
# The two joins of the attachment table

The attachments of a disk are joined with their machines, and those of a machine with their disks.
The two joins are made separately, by filters of their own, and some rules rely on one, some on the
other. `Inventory.joins_agree` says that they show the same rows wherever both succeed, and for
which row each of them fails otherwise.
-/

namespace VmAdmission

/-! ## Lists of results -/

section Results

variable {α β ε : Type} {f : α → Except ε β} {xs : List α} {ys : List β}

/-- What each result tells of its argument gives the arguments back. -/
theorem map_eq_of_mapM_eq_ok {g : β → α} (hg : ∀ x y, f x = .ok y → g y = x)
    (h : xs.mapM f = .ok ys) : ys.map g = xs := by
  rw [mapM_eq_ok_iff] at h
  induction h with
  | nil => rfl
  | cons hy _ ih => rw [List.map_cons, hg _ _ hy, ih]

/-- The results of those that pass a filter are the results that pass one which agrees with it. -/
theorem mapM_filter_eq_ok {p : α → Bool} {q : β → Bool} (hpq : ∀ x y, f x = .ok y → q y = p x)
    (h : xs.mapM f = .ok ys) : (xs.filter p).mapM f = .ok (ys.filter q) := by
  rw [mapM_eq_ok_iff] at h ⊢
  induction h with
  | nil => exact .nil
  | @cons x y xs ys hy _ ih =>
    rw [List.filter_cons, List.filter_cons, hpq x y hy]
    split
    · exact .cons hy ih
    · exact ih

theorem mapM_filter_eq_error_iff {p : α → Bool} {fault : ε} :
    (xs.filter p).mapM f = .error fault ↔
      ∃ x, IsFirst (fun x => p x = true ∧ ∃ fault, f x = .error fault) xs x ∧
        f x = .error fault := by
  rw [mapM_eq_error_iff]
  simp only [isFirst_filter_iff, forall_ne_ok_iff]

theorem exists_mapM_filter_eq_error_iff {p : α → Bool} :
    (∃ fault, (xs.filter p).mapM f = .error fault) ↔
      ∃ x ∈ xs, p x = true ∧ ∃ fault, f x = .error fault := by
  rw [← forall_ne_ok_iff, ← not_exists, exists_mapM_eq_ok_iff]
  simp only [← forall_ne_ok_iff, List.mem_filter, not_forall, not_exists, exists_prop, and_assoc]

end Results

namespace Inventory

variable {inv : Inventory} {a : Attachment} {vm disk : Uuid} {onlyPlugged : Bool} {fault : Fault}

/-! ## Rows that cannot be joined -/

/-- No machine has the identifier that the attachment names. -/
def NamesMissingVm (inv : Inventory) (a : Attachment) : Prop :=
  ∀ vm ∈ inv.vms, vm.id ≠ a.vmId

/-- No disk has the identifier that the attachment names. -/
def NamesMissingDisk (inv : Inventory) (a : Attachment) : Prop :=
  ∀ disk ∈ inv.disks, disk.id ≠ a.diskId

/-- The row is an attachment of the machine itself, and plugged if only those are wanted. -/
structure IsActiveRow (vm : Uuid) (onlyPlugged : Bool) (a : Attachment) : Prop where
  vmId_eq : a.vmId = vm
  snapshotId_eq : a.snapshotId = none
  plugged : onlyPlugged = true → a.plugged = true

theorem isActiveOn_eq_true_iff :
    isActiveOn vm onlyPlugged a = true ↔ IsActiveRow vm onlyPlugged a := by
  have h : isActiveOn vm onlyPlugged a = true ↔
      a.vmId = vm ∧ a.snapshotId = none ∧ (onlyPlugged = true → a.plugged = true) := by
    unfold isActiveOn
    cases onlyPlugged <;> simp [and_assoc]
  rw [h]
  constructor
  · rintro ⟨hv, hs, hp⟩
    exact ⟨hv, hs, hp⟩
  · rintro ⟨hv, hs, hp⟩
    exact ⟨hv, hs, hp⟩

theorem vm?_eq_none_iff : inv.vm? a.vmId = none ↔ inv.NamesMissingVm a := by
  simp [vm?, NamesMissingVm]

theorem disk?_eq_none_iff : inv.disk? a.diskId = none ↔ inv.NamesMissingDisk a := by
  simp [disk?, NamesMissingDisk]

theorem withVm_eq_error_iff :
    inv.withVm a = .error fault ↔ inv.NamesMissingVm a ∧ fault = .missingVm a.vmId := by
  rw [← vm?_eq_none_iff]
  unfold withVm
  cases inv.vm? a.vmId <;> simp [eq_comm]

theorem withDisk_eq_error_iff :
    inv.withDisk a = .error fault ↔ inv.NamesMissingDisk a ∧ fault = .missingDisk a.diskId := by
  rw [← disk?_eq_none_iff]
  unfold withDisk
  cases inv.disk? a.diskId <;> simp [eq_comm]

theorem exists_withVm_eq_error_iff :
    (∃ fault, inv.withVm a = .error fault) ↔ inv.NamesMissingVm a := by
  simp [withVm_eq_error_iff]

theorem exists_withDisk_eq_error_iff :
    (∃ fault, inv.withDisk a = .error fault) ↔ inv.NamesMissingDisk a := by
  simp [withDisk_eq_error_iff]

/-! ## Joins that succeed -/

variable {attachments : List (Vm × Attachment)} {disks : List (Disk × Attachment)}

/-- The rows that a disk is joined by are its attachments, in the order of the table. -/
theorem map_snd_attachmentsOf (h : inv.attachmentsOf disk = .ok attachments) :
    attachments.map Prod.snd = inv.attachments.filter fun a => a.diskId = disk :=
  map_eq_of_mapM_eq_ok (fun _ _ ha => (withVm_eq_ok_iff.1 ha).2.symm) h

/-- The rows that a machine is joined by are those attached to it itself, in the order of the
table. -/
theorem map_snd_disksOf (h : inv.disksOf vm onlyPlugged = .ok disks) :
    disks.map Prod.snd = inv.attachments.filter (isActiveOn vm onlyPlugged) :=
  map_eq_of_mapM_eq_ok (fun _ _ ha => (withDisk_eq_ok_iff.1 ha).2.symm) h

theorem isFirst_of_mem_attachmentsOf (h : inv.attachmentsOf disk = .ok attachments)
    {joined : Vm × Attachment} (hj : joined ∈ attachments) :
    IsFirst (fun vm => vm.id = joined.2.vmId) inv.vms joined.1 := by
  have hfound : inv.vm? joined.2.vmId = some joined.1 := ((mem_attachmentsOf h).1 hj).2
  simpa only [vm?, find?_eq_some_iff_isFirst, decide_eq_true_eq] using hfound

theorem isFirst_of_mem_disksOf (h : inv.disksOf vm onlyPlugged = .ok disks)
    {joined : Disk × Attachment} (hj : joined ∈ disks) :
    IsFirst (fun disk => disk.id = joined.2.diskId) inv.disks joined.1 := by
  obtain ⟨a, -, ha⟩ := (mem_of_mapM_eq_ok h).1 hj
  obtain ⟨hfound, rfl⟩ := withDisk_eq_ok_iff.1 ha
  simpa only [disk?, find?_eq_some_iff_isFirst, decide_eq_true_eq] using hfound

/-- Both joins show the attachments of the disk to the machine itself. -/
theorem filter_map_snd_eq (hattachments : inv.attachmentsOf disk = .ok attachments)
    (hdisks : inv.disksOf vm false = .ok disks) :
    (disks.map Prod.snd).filter (fun a => a.diskId = disk) =
      (attachments.map Prod.snd).filter fun a => a.vmId = vm ∧ a.snapshotId = none := by
  rw [map_snd_attachmentsOf hattachments, map_snd_disksOf hdisks, List.filter_filter,
    List.filter_filter]
  refine List.filter_congr fun a _ => ?_
  rw [Bool.eq_iff_iff, Bool.and_eq_true, Bool.and_eq_true, isActiveOn_eq_true_iff,
    decide_eq_true_eq, decide_eq_true_eq]
  constructor
  · rintro ⟨hd, hv, hs, -⟩
    exact ⟨⟨hv, hs⟩, hd⟩
  · rintro ⟨⟨hv, hs⟩, hd⟩
    exact ⟨hd, hv, hs, fun h => absurd h Bool.false_ne_true⟩

/-- Joining the plugged ones only drops the others. -/
theorem disksOf_true_eq_ok (h : inv.disksOf vm false = .ok disks) :
    inv.disksOf vm true = .ok (disks.filter fun joined => joined.2.plugged) := by
  have hrows : inv.attachments.filter (isActiveOn vm true) =
      (inv.attachments.filter (isActiveOn vm false)).filter Attachment.plugged := by
    rw [List.filter_filter]
    refine List.filter_congr fun a _ => ?_
    simp [isActiveOn, Bool.and_comm]
  unfold disksOf
  rw [hrows]
  refine mapM_filter_eq_ok (fun a joined ha => ?_) h
  rw [(withDisk_eq_ok_iff.1 ha).2]

/-! ## Joins that fail -/

theorem attachmentsOf_eq_error_iff :
    inv.attachmentsOf disk = .error fault ↔
      ∃ a, IsFirst (fun a => a.diskId = disk ∧ inv.NamesMissingVm a) inv.attachments a ∧
        fault = .missingVm a.vmId := by
  unfold attachmentsOf
  rw [mapM_filter_eq_error_iff]
  simp only [decide_eq_true_eq, exists_withVm_eq_error_iff]
  refine exists_congr fun a => and_congr_right fun hfirst => ?_
  rw [withVm_eq_error_iff]
  exact and_iff_right hfirst.holds.2

theorem disksOf_eq_error_iff :
    inv.disksOf vm onlyPlugged = .error fault ↔
      ∃ a, IsFirst (fun a => IsActiveRow vm onlyPlugged a ∧ inv.NamesMissingDisk a)
        inv.attachments a ∧ fault = .missingDisk a.diskId := by
  unfold disksOf
  rw [mapM_filter_eq_error_iff]
  simp only [isActiveOn_eq_true_iff, exists_withDisk_eq_error_iff]
  refine exists_congr fun a => and_congr_right fun hfirst => ?_
  rw [withDisk_eq_error_iff]
  exact and_iff_right hfirst.holds.2

theorem exists_attachmentsOf_eq_error_iff :
    (∃ fault, inv.attachmentsOf disk = .error fault) ↔
      ∃ a ∈ inv.attachments, a.diskId = disk ∧ inv.NamesMissingVm a := by
  unfold attachmentsOf
  rw [exists_mapM_filter_eq_error_iff]
  simp only [decide_eq_true_eq, exists_withVm_eq_error_iff]

theorem exists_disksOf_eq_error_iff :
    (∃ fault, inv.disksOf vm onlyPlugged = .error fault) ↔
      ∃ a ∈ inv.attachments, IsActiveRow vm onlyPlugged a ∧ inv.NamesMissingDisk a := by
  unfold disksOf
  rw [exists_mapM_filter_eq_error_iff]
  simp only [isActiveOn_eq_true_iff, exists_withDisk_eq_error_iff]

/-- **The joins agree.** Where both succeed, the attachments of a disk among a machine's disks are
those of the machine itself among the disk's attachments, in the same order and as often. What a row
is joined with is the first machine or disk with the identifier that it names. Joining only plugged
rows drops those that are not, and nothing else. A join fails exactly if one of its rows names a
machine or disk that there is not, and then with the inventory's fault about the first such row;
for a disk these rows are all of its attachments, through snapshots or not. -/
theorem joins_agree (inv : Inventory) (vm disk : Uuid) :
    (∀ attachments disks, inv.attachmentsOf disk = .ok attachments →
      inv.disksOf vm false = .ok disks →
      (disks.map Prod.snd).filter (fun a => a.diskId = disk) =
        (attachments.map Prod.snd).filter fun a => a.vmId = vm ∧ a.snapshotId = none) ∧
    (∀ attachments, inv.attachmentsOf disk = .ok attachments → ∀ joined ∈ attachments,
      IsFirst (fun vm => vm.id = joined.2.vmId) inv.vms joined.1) ∧
    (∀ onlyPlugged disks, inv.disksOf vm onlyPlugged = .ok disks → ∀ joined ∈ disks,
      IsFirst (fun disk => disk.id = joined.2.diskId) inv.disks joined.1) ∧
    (∀ disks, inv.disksOf vm false = .ok disks →
      inv.disksOf vm true = .ok (disks.filter fun joined => joined.2.plugged)) ∧
    ((∃ fault, inv.attachmentsOf disk = .error fault) ↔
      ∃ a ∈ inv.attachments, a.diskId = disk ∧ inv.NamesMissingVm a) ∧
    (∀ fault, inv.attachmentsOf disk = .error fault → ∃ a,
      IsFirst (fun a => a.diskId = disk ∧ inv.NamesMissingVm a) inv.attachments a ∧
        fault = .missingVm a.vmId ∧
        fault.message =
          Fault.failure .inventory ("attachment refers to missing VM " ++ a.vmId.render)) ∧
    ∀ onlyPlugged,
      ((∃ fault, inv.disksOf vm onlyPlugged = .error fault) ↔
        ∃ a ∈ inv.attachments, IsActiveRow vm onlyPlugged a ∧ inv.NamesMissingDisk a) ∧
      ∀ fault, inv.disksOf vm onlyPlugged = .error fault → ∃ a,
        IsFirst (fun a => IsActiveRow vm onlyPlugged a ∧ inv.NamesMissingDisk a)
          inv.attachments a ∧ fault = .missingDisk a.diskId ∧
          fault.message =
            Fault.failure .inventory ("attachment refers to missing disk " ++ a.diskId.render) := by
  refine ⟨fun _ _ => filter_map_snd_eq, fun _ h _ => isFirst_of_mem_attachmentsOf h,
    fun _ _ h _ => isFirst_of_mem_disksOf h, fun _ => disksOf_true_eq_ok,
    exists_attachmentsOf_eq_error_iff, ?_, fun onlyPlugged => ⟨exists_disksOf_eq_error_iff, ?_⟩⟩
  · intro fault h
    obtain ⟨a, hfirst, rfl⟩ := attachmentsOf_eq_error_iff.1 h
    exact ⟨a, hfirst, rfl, rfl⟩
  · intro fault h
    obtain ⟨a, hfirst, rfl⟩ := disksOf_eq_error_iff.1 h
    exact ⟨a, hfirst, rfl, rfl⟩

end Inventory

end VmAdmission
