import VmAdmission.Proofs.Judgement
import VmAdmission.Proofs.Tables

/-!
# Judging each operation by tables

What is loaded for an operation, and what its result is once the rows are known: one equation for
each kind (`judge_updateVm` and so on). What stops the loading is told apart here; the rules
themselves stay closed behind `Step.answer`.
-/

namespace VmAdmission.Operation

open Consult

variable {inv : Inventory} {c : Capabilities}

/-! ## Attachments among those loaded -/

section Attachments

variable {disk vm : Uuid} {attachments : List (Vm × Attachment)}
  (h : inv.attachmentsOf disk = .ok attachments)

include h

/-- The joined attachments show whether the disk is attached, since each bears its machine. -/
theorem exists_mem_attachments_iff {snapshotId : Option Uuid} :
    (∃ joined ∈ attachments, joined.1.id = vm ∧ joined.2.snapshotId = snapshotId) ↔
      inv.IsAttached disk vm snapshotId := by
  constructor
  · rintro ⟨joined, hj, hid, hs⟩
    obtain ⟨ha, hvm⟩ := (Inventory.mem_attachmentsOf h).1 hj
    exact ⟨joined.2, ha, by rw [← hid, Inventory.id_of_vm? hvm], hs⟩
  · rintro ⟨a, ha, rfl, hs⟩
    obtain ⟨w, hw⟩ := Inventory.exists_vm?_of_attachmentsOf h ha
    exact ⟨(w, a), (Inventory.mem_attachmentsOf h).2 ⟨ha, hw⟩, Inventory.id_of_vm? hw, hs⟩

theorem notAlreadyAttached_eq_accepted_iff {vmName : String} {snapshotId : Option Uuid} :
    notAlreadyAttached vm vmName snapshotId attachments = .accepted ↔
      ¬ inv.IsAttached disk vm snapshotId := by
  rw [← exists_mem_attachments_iff h]
  unfold notAlreadyAttached
  simp

theorem activeAttachment?_eq_none_iff :
    activeAttachment? attachments vm = none ↔ ¬ inv.IsAttached disk vm none := by
  rw [← exists_mem_attachments_iff h]
  unfold activeAttachment?
  simp

/-- The active attachment that is found is the first such row of the disk's, with the machine's
row. -/
theorem activeAttachment?_eq_some_iff {joined : Vm × Attachment} :
    activeAttachment? attachments vm = some joined ↔
      inv.vm? vm = some joined.1 ∧ inv.activeRow? disk vm = some joined.2 := by
  have hfound : activeAttachment? attachments vm = some joined ↔
      ∃ a, inv.activeRow? disk vm = some a ∧ inv.withVm a = .ok joined := by
    refine find?_mapM_eq_some_iff h fun a joined hj => ?_
    obtain ⟨hvm, rfl⟩ := Inventory.withVm_eq_ok_iff.1 hj
    show (decide (joined.1.id = vm) && joined.2.snapshotId.isNone) = _
    rw [Inventory.id_of_vm? hvm]
  rw [hfound]
  simp only [Inventory.withVm_eq_ok_iff]
  constructor
  · rintro ⟨a, ha, hvm, rfl⟩
    rw [(Inventory.of_activeRow?_eq_some ha).2.1] at hvm
    exact ⟨hvm, ha⟩
  · rintro ⟨hvm, ha⟩
    rw [← (Inventory.of_activeRow?_eq_some ha).2.1] at hvm
    exact ⟨joined.2, ha, hvm, rfl⟩

/-- An active attachment that is found is a row of the disk's, with the machine's row. -/
theorem of_activeAttachment?_eq_some {joined : Vm × Attachment}
    (ha : activeAttachment? attachments vm = some joined) :
    inv.vm? vm = some joined.1 ∧ inv.IsAttachmentOf disk joined.2 ∧ joined.2.vmId = vm ∧
      joined.2.snapshotId = none := by
  obtain ⟨hvm, hrow⟩ := (activeAttachment?_eq_some_iff h).1 ha
  exact ⟨hvm, Inventory.of_activeRow?_eq_some hrow⟩

end Attachments

/-! ## Results -/

theorem judge_updateVm (u : VmUpdate) :
    (updateVm u).judge inv c =
      match inv.vm? u.vm.id with
      | none => .ok (.reject .vmNotFound)
      | some current =>
        match inv.cluster? current.clusterId with
        | none => .ok (.reject .clusterNotFound)
        | some cluster =>
          Step.answer (.ofTables inv c)
            (vmSteps ⟨current, u.vm, cluster⟩ u.virtioScsiEnabled) := by
  simp only [judge_eq, plan, updateVmPlan, eval_bind, eval_vm?, ok_bind]
  cases inv.vm? u.vm.id with
  | none => rfl
  | some current =>
    simp only [eval_bind, eval_cluster?, ok_bind]
    cases inv.cluster? current.clusterId <;> rfl

theorem judge_attachDisk (disk : Disk) (vmId : Uuid) (snapshotId : Option Uuid) :
    (attachDisk disk vmId snapshotId).judge inv c =
      match inv.vm? vmId with
      | none => .ok (.reject .vmNotFound)
      | some vm =>
        match inv.disk? disk.id with
        | none => .ok (.reject .diskNotFound)
        | some stored => inv.attachmentsOf disk.id >>= fun attachments =>
          Step.answer (.ofTables inv c)
            (attachSteps stored disk vmId vm snapshotId attachments) := by
  simp only [judge_eq, plan, attachPlan, eval_bind, eval_vm?, ok_bind]
  cases inv.vm? vmId with
  | none => rfl
  | some vm =>
    simp only [eval_bind, eval_disk?, ok_bind]
    cases inv.disk? disk.id with
    | none => rfl
    | some stored =>
      simp only [eval_bind, eval_attachmentsOf]
      cases inv.attachmentsOf disk.id <;> rfl

/-- The result for a disk that is not attached to the machine itself. -/
def notAttached (inv : Inventory) (vmId : Uuid) : Except Fault Verdict :=
  match inv.vm? vmId with
  | none => .ok (.reject .vmNotFound)
  | some _ => .ok (.reject .diskNotAttached)

theorem notAttached_ne_accepted {vmId : Uuid} : notAttached inv vmId ≠ .ok .accepted := by
  unfold notAttached
  cases inv.vm? vmId <;> simp

theorem eval_notAttachedPlan (vmId : Uuid) :
    (notAttachedPlan vmId).eval (.ofTables inv c) >>= Plan.answer (.ofTables inv c) =
      notAttached inv vmId := by
  simp only [notAttachedPlan, eval_bind, eval_vm?, ok_bind]
  unfold notAttached
  cases inv.vm? vmId <;> rfl

theorem judge_updateDisk (disk : Disk) (vmId : Option Uuid) :
    (updateDisk disk vmId).judge inv c =
      match inv.disk? disk.id with
      | none => .ok (.reject .diskNotFound)
      | some stored => inv.attachmentsOf disk.id >>= fun attachments =>
        match vmId with
        | none => Step.answer (.ofTables inv c) (updateDiskSteps stored disk none attachments)
        | some vmId =>
          match activeAttachment? attachments vmId with
          | none => notAttached inv vmId
          | some (vm, _) =>
            Step.answer (.ofTables inv c)
              (updateDiskSteps stored disk (some vm) attachments) := by
  simp only [judge_eq, plan, updateDiskPlan, eval_bind, eval_disk?, ok_bind]
  cases inv.disk? disk.id with
  | none => rfl
  | some stored =>
    simp only [eval_bind, eval_attachmentsOf]
    cases inv.attachmentsOf disk.id with
    | error fault => rfl
    | ok attachments =>
      cases vmId with
      | none => rfl
      | some vmId =>
        simp only [ok_bind]
        cases activeAttachment? attachments vmId with
        | none => exact eval_notAttachedPlan vmId
        | some attachment => rfl

/-- Once the disk is found to be attached to the machine that is named, if one is, the rules decide
about an update. -/
theorem judge_updateDisk_of_attached {disk stored : Disk} {vmId : Option Uuid}
    {attachments : List (Vm × Attachment)} (hdisk : inv.disk? disk.id = some stored)
    (h : inv.attachmentsOf disk.id = .ok attachments)
    (hv : ∀ v, vmId = some v → inv.IsAttached disk.id v none) :
    (updateDisk disk vmId).judge inv c =
      Step.answer (.ofTables inv c)
        (updateDiskSteps stored disk (vmId.bind inv.vm?) attachments) := by
  cases vmId with
  | none => simp only [judge_updateDisk, hdisk, h, ok_bind, Option.bind_none]
  | some v =>
    cases ha : activeAttachment? attachments v with
    | none => exact absurd (hv v rfl) ((activeAttachment?_eq_none_iff h).1 ha)
    | some joined =>
      have hvm := (of_activeAttachment?_eq_some h ha).1
      simp only [judge_updateDisk, hdisk, h, ok_bind, ha, hvm, Option.bind_some]

theorem judge_updateDisk_of_not_attached {disk stored : Disk} {v : Uuid}
    {attachments : List (Vm × Attachment)} (hdisk : inv.disk? disk.id = some stored)
    (h : inv.attachmentsOf disk.id = .ok attachments) (hv : ¬ inv.IsAttached disk.id v none) :
    (updateDisk disk (some v)).judge inv c = notAttached inv v := by
  simp only [judge_updateDisk, hdisk, h, ok_bind, (activeAttachment?_eq_none_iff h).2 hv]

theorem judge_detachDisk (diskId vmId : Uuid) :
    (detachDisk diskId vmId).judge inv c =
      match inv.disk? diskId with
      | none => .ok (.reject .diskNotFound)
      | some disk => inv.attachmentsOf diskId >>= fun attachments =>
        match activeAttachment? attachments vmId with
        | none => notAttached inv vmId
        | some attachment => Step.answer (.ofTables inv c) (detachSteps disk attachment) := by
  simp only [judge_eq, plan, detachPlan, eval_bind, eval_disk?, ok_bind]
  cases inv.disk? diskId with
  | none => rfl
  | some disk =>
    simp only [eval_bind, eval_attachmentsOf]
    cases inv.attachmentsOf diskId with
    | error fault => rfl
    | ok attachments =>
      simp only [ok_bind]
      cases activeAttachment? attachments vmId with
      | none => exact eval_notAttachedPlan vmId
      | some attachment => rfl

theorem judge_removeDisk (diskId : Uuid) :
    (removeDisk diskId).judge inv c =
      match inv.disk? diskId with
      | none => .ok (.reject .diskNotFound)
      | some disk => inv.attachmentsOf diskId >>= fun attachments =>
        Step.answer (.ofTables inv c) (removeSteps disk attachments) := by
  simp only [judge_eq, plan, removePlan, eval_bind, eval_disk?, ok_bind]
  cases inv.disk? diskId with
  | none => rfl
  | some disk =>
    simp only [eval_bind, eval_attachmentsOf]
    cases inv.attachmentsOf diskId <;> rfl

theorem judge_removeDiskSnapshots (diskId : Uuid) :
    (removeDiskSnapshots diskId).judge inv c =
      match inv.disk? diskId with
      | none => .ok (.reject .diskNotFound)
      | some disk => Step.answer (.ofTables inv c) (removeSnapshotsSteps disk) := by
  simp only [judge_eq, plan, removeSnapshotsPlan, eval_bind, eval_disk?, ok_bind]
  cases inv.disk? diskId <;> rfl

end VmAdmission.Operation
