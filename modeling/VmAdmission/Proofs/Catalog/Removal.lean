import VmAdmission.Proofs.Loading
import VmAdmission.Proofs.Rule.Objections

/-!
# The rules for taking disks away

`Detachable` is what an attachment must satisfy for its disk to be detached, `Removable` what a disk
must satisfy for it to be removed, and `SnapshotsRemovable` for its snapshots. A detachment looks at
one attachment, the first to the machine itself; a removal at every attachment, through snapshots or
not; and a removal of snapshots at those through snapshots. `removals_decided_by_rules`: each is
accepted exactly if the disk is stored and it breaks no rule; otherwise the first rule that does not
pass decides. Which reason that gives is read off the objections in order
(`removals_settled_by_objections`).
-/

namespace VmAdmission

variable {inv : Inventory} {c : Capabilities}

/-! ## Detaching -/

/-- An attachment of a disk to a machine that may be undone. -/
structure Detachable (disk : Disk) (vm : Vm) (a : Attachment) : Prop where
  not_store : disk.infrastructureStore = false
  not_protected : disk.isHostedEngineLun = true ∨ vm.isHostedEngine = false
  not_running : a.plugged = true → vm.status = .down

namespace Operation

theorem detachSteps_pass_iff {disk : Disk} {joined : Vm × Attachment} :
    (∀ s ∈ detachSteps disk joined, s.Passes (.ofTables inv c)) ↔
      Detachable disk joined.1 joined.2 := by
  simp only [detachSteps, List.forall_mem_cons, List.not_mem_nil, false_implies, implies_true,
    and_true, Step.Passes, Consult.pure_eq_done, Consult.accepts_done, true_implies,
    DiskRule.notInfrastructureStore_eq_accepted_iff, DiskRule.removable_eq_accepted_iff,
    DiskRule.pluggedOnlyToDownVms, DiskRule.pluggedOnlyToDown_eq_accepted_iff, true_or]
  constructor
  · rintro ⟨hstore, hprotected, hrunning⟩
    exact ⟨hstore, hprotected, hrunning⟩
  · rintro ⟨hstore, hprotected, hrunning⟩
    exact ⟨hstore, hprotected, hrunning⟩

theorem detachDisk_accepted_iff {diskId vmId : Uuid} :
    (detachDisk diskId vmId).judge inv c = .ok .accepted ↔
      ∃ disk attachments joined, inv.disk? diskId = some disk ∧
        inv.attachmentsOf diskId = .ok attachments ∧
        activeAttachment? attachments vmId = some joined ∧
        Detachable disk joined.1 joined.2 := by
  rw [judge_detachDisk]
  cases inv.disk? diskId with
  | none => simp
  | some disk =>
    cases inv.attachmentsOf diskId with
    | error fault => simp
    | ok attachments =>
      simp only [ok_bind, Option.some.injEq, Except.ok.injEq, exists_and_left, exists_eq_left']
      cases activeAttachment? attachments vmId with
      | none => simp [notAttached_ne_accepted]
      | some joined => simp [Step.answer_eq_accepted_iff, detachSteps_pass_iff]

end Operation

/-! ## Removing -/

/-- A disk that may be removed from wherever it is attached. -/
structure Removable (inv : Inventory) (disk : Disk) : Prop where
  not_store : disk.infrastructureStore = false
  not_protected : ∀ a vm, inv.IsAttachmentOf disk.id a → inv.vm? a.vmId = some vm →
    disk.isHostedEngineLun = true ∨ vm.isHostedEngine = false
  not_running : ∀ a vm, inv.IsAttachmentOf disk.id a → inv.vm? a.vmId = some vm →
    a.plugged = true → vm.status = .down

namespace Operation

theorem removeSteps_pass_iff {disk : Disk} {attachments : List (Vm × Attachment)}
    (h : inv.attachmentsOf disk.id = .ok attachments) :
    (∀ s ∈ removeSteps disk attachments, s.Passes (.ofTables inv c)) ↔ Removable inv disk := by
  simp only [removeSteps, List.forall_mem_cons, List.not_mem_nil, false_implies, implies_true,
    and_true, Step.Passes, Consult.pure_eq_done, Consult.accepts_done, true_implies,
    DiskRule.notInfrastructureStore_eq_accepted_iff, DiskRule.removableFromAll_eq_accepted_iff,
    List.forall_mem_map, DiskRule.pluggedOnlyToDownVms,
    DiskRule.pluggedOnlyToDown_eq_accepted_iff, true_or,
    Inventory.forall_mem_attachmentsOf_iff h]
  constructor
  · rintro ⟨hstore, hprotected, hrunning⟩
    exact ⟨hstore, hprotected, hrunning⟩
  · rintro ⟨hstore, hprotected, hrunning⟩
    exact ⟨hstore, hprotected, hrunning⟩

theorem removeDisk_accepted_iff {diskId : Uuid} :
    (removeDisk diskId).judge inv c = .ok .accepted ↔
      ∃ disk, inv.disk? diskId = some disk ∧
        (∀ a, inv.IsAttachmentOf diskId a → ∃ w, inv.vm? a.vmId = some w) ∧
        Removable inv disk := by
  rw [judge_removeDisk]
  cases hdisk : inv.disk? diskId with
  | none => simp
  | some disk =>
    obtain rfl := Inventory.id_of_disk? hdisk
    simp only [Option.some.injEq, exists_eq_left', ← Inventory.exists_attachmentsOf_iff]
    cases hattachments : inv.attachmentsOf disk.id with
    | error fault => simp
    | ok attachments =>
      rw [ok_bind, Step.answer_eq_accepted_iff, removeSteps_pass_iff hattachments]
      simp

end Operation

/-! ## Removing snapshots -/

/-- A disk whose snapshots may be removed. -/
structure SnapshotsRemovable (inv : Inventory) (disk : Disk) : Prop where
  not_store : disk.infrastructureStore = false
  not_running : ∀ a vm, inv.IsAttachmentOf disk.id a → inv.vm? a.vmId = some vm →
    a.snapshotId.isSome = true → a.plugged = true → vm.status = .down

namespace Operation

/-- The attachments are looked at only once the disk is known to be no internal volume. -/
theorem removeSnapshotsSteps_pass_iff {disk : Disk} :
    (∀ s ∈ removeSnapshotsSteps disk, s.Passes (.ofTables inv c)) ↔
      (∀ a, inv.IsAttachmentOf disk.id a → ∃ w, inv.vm? a.vmId = some w) ∧
        SnapshotsRemovable inv disk := by
  simp only [removeSnapshotsSteps, List.forall_mem_cons, List.not_mem_nil, false_implies,
    implies_true, and_true, Step.Passes, Consult.pure_eq_done, Consult.accepts_done, true_implies,
    DiskRule.notInfrastructureStore_eq_accepted_iff, DiskRule.pluggedOnlyToDownVms,
    Consult.accepts_bind, Consult.eval_attachmentsOf, DiskRule.pluggedOnlyToDown_eq_accepted_iff,
    Bool.true_eq_false, false_or]
  constructor
  · rintro ⟨hstore, attachments, hattachments, hrunning⟩
    refine ⟨Inventory.exists_attachmentsOf_iff.1 ⟨attachments, hattachments⟩, hstore, ?_⟩
    exact (Inventory.forall_mem_attachmentsOf_iff hattachments).1 hrunning
  · rintro ⟨hjoined, hstore, hrunning⟩
    obtain ⟨attachments, hattachments⟩ := Inventory.exists_attachmentsOf_iff.2 hjoined
    refine ⟨hstore, attachments, hattachments, ?_⟩
    exact (Inventory.forall_mem_attachmentsOf_iff hattachments).2 hrunning

theorem answer_removeSnapshotsSteps_of_store {disk : Disk} (h : disk.infrastructureStore = true) :
    Step.answer (.ofTables inv c) (removeSnapshotsSteps disk) =
      .ok (.reject .ovfDiskNotSupported) := by
  have hobjects : ¬ Step.Passes (.ofTables inv c)
      { name := "not_infrastructure_store", rule := return DiskRule.notInfrastructureStore disk } := by
    simp [Step.Passes, DiskRule.notInfrastructureStore_eq_accepted_iff, h]
  unfold removeSnapshotsSteps
  rw [Step.answer_cons_of_not_passes hobjects]
  simp [DiskRule.notInfrastructureStore, Verdict.rejectIf, h]

theorem answer_removeSnapshotsSteps_of_fault {disk : Disk} {fault : Fault}
    (h : disk.infrastructureStore = false) (hfault : inv.attachmentsOf disk.id = .error fault) :
    Step.answer (.ofTables inv c) (removeSnapshotsSteps disk) = .error fault := by
  have hpasses : Step.Passes (.ofTables inv c)
      { name := "not_infrastructure_store", rule := return DiskRule.notInfrastructureStore disk } := by
    simp [Step.Passes, DiskRule.notInfrastructureStore_eq_accepted_iff, h]
  unfold removeSnapshotsSteps
  rw [Step.answer_cons_of_passes hpasses]
  simp [Step.answer, DiskRule.pluggedOnlyToDownVms, Consult.eval_bind, hfault]

theorem removeDiskSnapshots_accepted_iff {diskId : Uuid} :
    (removeDiskSnapshots diskId).judge inv c = .ok .accepted ↔
      ∃ disk, inv.disk? diskId = some disk ∧
        (∀ a, inv.IsAttachmentOf diskId a → ∃ w, inv.vm? a.vmId = some w) ∧
        SnapshotsRemovable inv disk := by
  rw [judge_removeDiskSnapshots]
  cases hdisk : inv.disk? diskId with
  | none => simp
  | some disk =>
    obtain rfl := Inventory.id_of_disk? hdisk
    simp only [Option.some.injEq, exists_eq_left']
    rw [Step.answer_eq_accepted_iff, removeSnapshotsSteps_pass_iff]

end Operation

/-! ## Decisions -/

namespace Operation

/-- The same as `detachDisk_accepted_iff`, said of rows: the attachment that is undone is the first
of the disk's to the machine itself. -/
theorem detachDisk_accepted_iff_row {diskId vmId : Uuid} :
    (detachDisk diskId vmId).judge inv c = .ok .accepted ↔
      ∃ disk vm a, inv.disk? diskId = some disk ∧
        (∀ b, inv.IsAttachmentOf diskId b → ∃ w, inv.vm? b.vmId = some w) ∧
        inv.vm? vmId = some vm ∧ inv.activeRow? diskId vmId = some a ∧ Detachable disk vm a := by
  rw [detachDisk_accepted_iff]
  constructor
  · rintro ⟨disk, attachments, joined, hdisk, hattachments, hactive, hdetachable⟩
    obtain ⟨hvm, ha⟩ := (activeAttachment?_eq_some_iff hattachments).1 hactive
    exact ⟨disk, joined.1, joined.2, hdisk,
      Inventory.exists_attachmentsOf_iff.1 ⟨attachments, hattachments⟩, hvm, ha, hdetachable⟩
  · rintro ⟨disk, vm, a, hdisk, hjoined, hvm, ha, hdetachable⟩
    obtain ⟨attachments, hattachments⟩ := Inventory.exists_attachmentsOf_iff.2 hjoined
    have hactive : activeAttachment? attachments vmId = some (vm, a) :=
      (activeAttachment?_eq_some_iff hattachments).2 ⟨hvm, ha⟩
    exact ⟨disk, attachments, (vm, a), hdisk, hattachments, hactive, hdetachable⟩

theorem judge_detachDisk_of_not_attached {disk : Disk} {diskId vmId : Uuid}
    (hdisk : inv.disk? diskId = some disk)
    (hjoined : ∀ b, inv.IsAttachmentOf diskId b → ∃ w, inv.vm? b.vmId = some w)
    (hvm : ¬ inv.IsAttached diskId vmId none) :
    (detachDisk diskId vmId).judge inv c = notAttached inv vmId := by
  obtain ⟨attachments, hattachments⟩ := Inventory.exists_attachmentsOf_iff.2 hjoined
  simp only [judge_detachDisk, hdisk, hattachments, ok_bind,
    (activeAttachment?_eq_none_iff hattachments).2 hvm]

theorem judge_detachDisk_of_attached {disk : Disk} {vm : Vm} {a : Attachment} {diskId vmId : Uuid}
    (hdisk : inv.disk? diskId = some disk)
    (hjoined : ∀ b, inv.IsAttachmentOf diskId b → ∃ w, inv.vm? b.vmId = some w)
    (hvm : inv.vm? vmId = some vm) (ha : inv.activeRow? diskId vmId = some a) :
    (detachDisk diskId vmId).judge inv c =
      Step.answer (.ofTables inv c) (detachSteps disk (vm, a)) := by
  obtain ⟨attachments, hattachments⟩ := Inventory.exists_attachmentsOf_iff.2 hjoined
  have hactive : activeAttachment? attachments vmId = some (vm, a) :=
    (activeAttachment?_eq_some_iff hattachments).2 ⟨hvm, ha⟩
  simp only [judge_detachDisk, hdisk, hattachments, ok_bind, hactive]

end Operation

/-- **Taking disks away.** A disk that is not stored is reported first, whatever is to be taken
away.

A detachment is accepted exactly if each attachment of the disk names a stored machine and the first
attachment to the machine itself may be undone; what other machines do is not looked at. A removal
is accepted exactly if each attachment names a stored machine and the disk may be removed from all
of them, and a removal of snapshots exactly if each names a stored machine and the disk is not
plugged into a running one through a snapshot. An attachment without its machine is a fault, except
that an internal volume keeps its snapshots before any attachment is looked at. Where there is no
attachment to undo, a missing machine is told from a missing attachment; and otherwise the first
rule that does not pass gives the answer. -/
theorem removals_decided_by_rules (inv : Inventory) (c : Capabilities) (diskId : Uuid) :
    (∀ vmId,
      ((Operation.detachDisk diskId vmId).judge inv c = .ok .accepted ↔
        ∃ disk vm a, inv.disk? diskId = some disk ∧
          (∀ b, inv.IsAttachmentOf diskId b → ∃ w, inv.vm? b.vmId = some w) ∧
          inv.vm? vmId = some vm ∧ inv.activeRow? diskId vmId = some a ∧ Detachable disk vm a) ∧
      (inv.disk? diskId = none →
        (Operation.detachDisk diskId vmId).judge inv c = .ok (.reject .diskNotFound)) ∧
      (∀ disk fault, inv.disk? diskId = some disk → inv.attachmentsOf diskId = .error fault →
        (Operation.detachDisk diskId vmId).judge inv c = .error fault) ∧
      (∀ disk, inv.disk? diskId = some disk →
        (∀ b, inv.IsAttachmentOf diskId b → ∃ w, inv.vm? b.vmId = some w) →
        ¬ inv.IsAttached diskId vmId none →
        (inv.vm? vmId = none →
          (Operation.detachDisk diskId vmId).judge inv c = .ok (.reject .vmNotFound)) ∧
        (∀ vm, inv.vm? vmId = some vm →
          (Operation.detachDisk diskId vmId).judge inv c = .ok (.reject .diskNotAttached))) ∧
      (∀ disk vm a, inv.disk? diskId = some disk →
        (∀ b, inv.IsAttachmentOf diskId b → ∃ w, inv.vm? b.vmId = some w) →
        inv.vm? vmId = some vm → inv.activeRow? diskId vmId = some a →
        Step.FirstDecides (.ofTables inv c) (Operation.detachSteps disk (vm, a))
          ((Operation.detachDisk diskId vmId).judge inv c))) ∧
    (((Operation.removeDisk diskId).judge inv c = .ok .accepted ↔
        ∃ disk, inv.disk? diskId = some disk ∧
          (∀ b, inv.IsAttachmentOf diskId b → ∃ w, inv.vm? b.vmId = some w) ∧
          Removable inv disk) ∧
      (inv.disk? diskId = none →
        (Operation.removeDisk diskId).judge inv c = .ok (.reject .diskNotFound)) ∧
      (∀ disk fault, inv.disk? diskId = some disk → inv.attachmentsOf diskId = .error fault →
        (Operation.removeDisk diskId).judge inv c = .error fault) ∧
      (∀ disk attachments, inv.disk? diskId = some disk →
        inv.attachmentsOf diskId = .ok attachments →
        Step.FirstDecides (.ofTables inv c) (Operation.removeSteps disk attachments)
          ((Operation.removeDisk diskId).judge inv c))) ∧
    (((Operation.removeDiskSnapshots diskId).judge inv c = .ok .accepted ↔
        ∃ disk, inv.disk? diskId = some disk ∧
          (∀ b, inv.IsAttachmentOf diskId b → ∃ w, inv.vm? b.vmId = some w) ∧
          SnapshotsRemovable inv disk) ∧
      (inv.disk? diskId = none →
        (Operation.removeDiskSnapshots diskId).judge inv c = .ok (.reject .diskNotFound)) ∧
      (∀ disk, inv.disk? diskId = some disk → disk.infrastructureStore = true →
        (Operation.removeDiskSnapshots diskId).judge inv c =
          .ok (.reject .ovfDiskNotSupported)) ∧
      (∀ disk fault, inv.disk? diskId = some disk → disk.infrastructureStore = false →
        inv.attachmentsOf diskId = .error fault →
        (Operation.removeDiskSnapshots diskId).judge inv c = .error fault) ∧
      (∀ disk, inv.disk? diskId = some disk →
        Step.FirstDecides (.ofTables inv c) (Operation.removeSnapshotsSteps disk)
          ((Operation.removeDiskSnapshots diskId).judge inv c))) := by
  refine ⟨fun vmId => ⟨Operation.detachDisk_accepted_iff_row, ?_, ?_, ?_, ?_⟩,
    ⟨Operation.removeDisk_accepted_iff, ?_, ?_, ?_⟩,
    Operation.removeDiskSnapshots_accepted_iff, ?_, ?_, ?_, ?_⟩
  · intro hdisk
    simp only [Operation.judge_detachDisk, hdisk]
  · intro disk fault hdisk hfault
    simp only [Operation.judge_detachDisk, hdisk, hfault, error_bind]
  · intro disk hdisk hjoined hvm
    rw [Operation.judge_detachDisk_of_not_attached hdisk hjoined hvm]
    unfold Operation.notAttached
    refine ⟨fun hmissing => ?_, fun vm hstored => ?_⟩
    · rw [hmissing]
    · rw [hstored]
  · intro disk vm a hdisk hjoined hvm ha
    rw [Operation.judge_detachDisk_of_attached hdisk hjoined hvm ha]
    exact Step.firstDecides_answer _ _
  · intro hdisk
    simp only [Operation.judge_removeDisk, hdisk]
  · intro disk fault hdisk hfault
    simp only [Operation.judge_removeDisk, hdisk, hfault, error_bind]
  · intro disk attachments hdisk hattachments
    simp only [Operation.judge_removeDisk, hdisk, hattachments, ok_bind]
    exact Step.firstDecides_answer _ _
  · intro hdisk
    simp only [Operation.judge_removeDiskSnapshots, hdisk]
  · intro disk hdisk hstore
    simp only [Operation.judge_removeDiskSnapshots, hdisk]
    exact Operation.answer_removeSnapshotsSteps_of_store hstore
  · intro disk fault hdisk hstore hfault
    obtain rfl := Inventory.id_of_disk? hdisk
    simp only [Operation.judge_removeDiskSnapshots, hdisk]
    exact Operation.answer_removeSnapshotsSteps_of_fault hstore hfault
  · intro disk hdisk
    simp only [Operation.judge_removeDiskSnapshots, hdisk]
    exact Step.firstDecides_answer _ _

/-! ## Which reason is given -/

namespace Operation

open Objection Step DiskRule

/-- The objections to detaching a disk, in the order in which they are looked at. -/
def detachObjections (inv : Inventory) (diskId vmId : Uuid) : List Objection :=
  match inv.disk? diskId with
  | none => [.reject True ⟨.diskNotFound, []⟩]
  | some disk =>
    missingVmObjections inv (inv.attachmentRows diskId) ++
    attachedObjections inv diskId vmId ++
    List.flatten [
      [.reject (disk.infrastructureStore = true) ⟨.ovfDiskNotSupported, []⟩],
      [.about (inv.vm? vmId) fun vm =>
        .reject (disk.isHostedEngineLun = false ∧ vm.isHostedEngine = true)
          ⟨.hostedEngineDisk, []⟩],
      runningObjections inv false (inv.activeRow? diskId vmId).toList]

/-- The objections to removing a disk, in the order in which they are looked at. -/
def removeObjections (inv : Inventory) (diskId : Uuid) : List Objection :=
  match inv.disk? diskId with
  | none => [.reject True ⟨.diskNotFound, []⟩]
  | some disk =>
    missingVmObjections inv (inv.attachmentRows diskId) ++
    List.flatten [
      [.reject (disk.infrastructureStore = true) ⟨.ovfDiskNotSupported, []⟩],
      [.reject (disk.isHostedEngineLun = false ∧ ∃ a vm, inv.IsAttachmentOf diskId a ∧
        inv.vm? a.vmId = some vm ∧ vm.isHostedEngine = true) ⟨.hostedEngineDisk, []⟩],
      runningObjections inv false (inv.attachmentRows diskId)]

/-- The objections to removing the snapshots of a disk, in the order in which they are looked at. -/
def removeSnapshotsObjections (inv : Inventory) (diskId : Uuid) : List Objection :=
  match inv.disk? diskId with
  | none => [.reject True ⟨.diskNotFound, []⟩]
  | some disk =>
    List.flatten [
      [.reject (disk.infrastructureStore = true) ⟨.ovfDiskNotSupported, []⟩],
      missingVmObjections inv (inv.attachmentRows diskId) ++
        runningObjections inv true (inv.attachmentRows diskId)]

theorem settle_detachObjections {diskId vmId : Uuid} :
    Settle (detachObjections inv diskId vmId) ((detachDisk diskId vmId).judge inv c) := by
  rw [judge_detachDisk]
  unfold detachObjections
  cases inv.disk? diskId with
  | none => exact .raised ⟨trivial, rfl⟩
  | some disk =>
    simp only [List.append_assoc]
    refine settle_attachmentsOf fun attachments hattachments => ?_
    cases hactive : activeAttachment? attachments vmId with
    | none =>
      have hvm := (activeAttachment?_eq_none_iff hattachments).1 hactive
      exact (settle_notAttached hvm).append_of_not_accepted notAttached_ne_accepted _
    | some joined =>
      obtain ⟨hvm, hrow⟩ := (activeAttachment?_eq_some_iff hattachments).1 hactive
      have ha := Inventory.of_activeRow?_eq_some hrow
      refine (settle_attachedObjections hvm ⟨_, ha⟩).append_of_accepted (settle_answer ?_)
      have hjoined : [joined.2].mapM inv.withVm = .ok [joined] := by
        refine mapM_eq_ok_iff.2 (.cons (Inventory.withVm_eq_ok_iff.2 ⟨?_, rfl⟩) .nil)
        rw [ha.2.1, hvm]
      rw [hvm, hrow, about_some]
      exact
        .cons (settle_answer_singleton rfl settle_notInfrastructureStore) <|
        .cons (settle_answer_singleton rfl settle_removable) <|
        .cons (settle_answer_singleton rfl (settle_running hjoined)) .nil

theorem exists_mem_machines_iff {diskId : Uuid} {attachments : List (Vm × Attachment)}
    (h : inv.attachmentsOf diskId = .ok attachments) {p : Vm → Prop} :
    (∃ vm ∈ attachments.map Prod.fst, p vm) ↔
      ∃ a vm, inv.IsAttachmentOf diskId a ∧ inv.vm? a.vmId = some vm ∧ p vm := by
  constructor
  · rintro ⟨_, hmem, hp⟩
    obtain ⟨joined, hjoined, rfl⟩ := List.mem_map.1 hmem
    obtain ⟨ha, hvm⟩ := (Inventory.mem_attachmentsOf h).1 hjoined
    exact ⟨joined.2, joined.1, ha, hvm, hp⟩
  · rintro ⟨a, vm, ha, hvm, hp⟩
    have hmem : (vm, a) ∈ attachments := (Inventory.mem_attachmentsOf h).2 ⟨ha, hvm⟩
    exact ⟨vm, List.mem_map.2 ⟨(vm, a), hmem, rfl⟩, hp⟩

theorem settle_removeObjections {diskId : Uuid} :
    Settle (removeObjections inv diskId) ((removeDisk diskId).judge inv c) := by
  rw [judge_removeDisk]
  unfold removeObjections
  cases inv.disk? diskId with
  | none => exact .raised ⟨trivial, rfl⟩
  | some disk =>
    refine settle_attachmentsOf fun attachments hattachments => settle_answer ?_
    rw [← exists_mem_machines_iff hattachments]
    exact
      .cons (settle_answer_singleton rfl settle_notInfrastructureStore) <|
      .cons (settle_answer_singleton rfl settle_removableFromAll) <|
      .cons (settle_answer_singleton rfl (settle_running hattachments)) .nil

theorem settle_removeSnapshotsObjections {diskId : Uuid} :
    Settle (removeSnapshotsObjections inv diskId) ((removeDiskSnapshots diskId).judge inv c) := by
  rw [judge_removeDiskSnapshots]
  unfold removeSnapshotsObjections
  cases hdisk : inv.disk? diskId with
  | none => exact .raised ⟨trivial, rfl⟩
  | some disk =>
    obtain rfl := Inventory.id_of_disk? hdisk
    -- the last rule loads the attachments itself, behind the first
    have hrunning : Settle
        (missingVmObjections inv (inv.attachmentRows disk.id) ++
          runningObjections inv true (inv.attachmentRows disk.id))
        ((pluggedOnlyToDownVms disk true none).eval (.ofTables inv c)) := by
      simp only [pluggedOnlyToDownVms, Consult.eval_bind, Consult.eval_attachmentsOf]
      exact settle_attachmentsOf fun _ hattachments => settle_running hattachments
    refine settle_answer ?_
    exact
      .cons (settle_answer_singleton rfl settle_notInfrastructureStore) <|
      .cons (settle_answer_singleton rfl hrunning) .nil

end Operation

/-- **Why a disk is not taken away.** The result of a detachment, of a removal or of a removal of
snapshots is the answer of its first objection that is raised, and an acceptance if none is. -/
theorem removals_settled_by_objections (inv : Inventory) (c : Capabilities) (diskId : Uuid)
    (result : Except Fault Verdict) :
    (∀ vmId, (Operation.detachDisk diskId vmId).judge inv c = result ↔
      Objection.Settle (Operation.detachObjections inv diskId vmId) result) ∧
    ((Operation.removeDisk diskId).judge inv c = result ↔
      Objection.Settle (Operation.removeObjections inv diskId) result) ∧
    ((Operation.removeDiskSnapshots diskId).judge inv c = result ↔
      Objection.Settle (Operation.removeSnapshotsObjections inv diskId) result) :=
  ⟨fun _ => Operation.settle_detachObjections.eq_iff, Operation.settle_removeObjections.eq_iff,
    Operation.settle_removeSnapshotsObjections.eq_iff⟩

end VmAdmission
