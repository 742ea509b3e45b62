import VmAdmission.Proofs.Loading
import VmAdmission.Proofs.Rule.Objections

/-!
# The catalog for attaching disks

`Attachable` is the list of everything that a request to attach a disk must satisfy. What the disk
is comes from the stored row, how it is to be attached from the requested one.
`attachDisk_decided_by_catalog`: a request is accepted exactly if its rows are stored and it breaks
no rule; otherwise the first rule that does not pass decides. Which reason that gives, and with
which values, is read off the objections in order (`attachDisk_settled_by_objections`).
-/

namespace VmAdmission

variable {inv : Inventory} {c : Capabilities}

/-- A request to attach a disk to a machine that breaks no rule. -/
structure Attachable (inv : Inventory) (c : Capabilities) (stored requested : Disk) (vm : Vm)
    (snapshotId : Option Uuid) : Prop where
  not_store : stored.infrastructureStore = false
  not_hostedEngineLun : stored.isHostedEngineLun = false
  snapshot_storage : snapshotId.isSome = true →
    stored.storageType ≠ .lun ∧ stored.storageType ≠ .cinder
  not_attached : ¬ inv.IsAttached requested.id vm.id snapshotId
  read_only : requested.readOnly = true →
    requested.interface ≠ .ide ∧ requested.scsiPassthrough = false
  virtioScsi : requested.interface = .virtioScsi →
    ¬ (requested.sgio.isSome = true ∧ requested.storageType = .image) ∧ HasVirtioScsi inv c vm
  interface : SupportsInterface c vm requested.interface
  reservation : ∀ lun, requested.backing = .lun lun → lun.usingScsiReservation = true →
    requested.sgio ≠ some .filtered

/-- The rules pass together exactly if the request breaks none of the catalog. -/
theorem Operation.attachSteps_pass_iff {stored requested : Disk} {vm : Vm}
    {snapshotId : Option Uuid} {attachments : List (Vm × Attachment)}
    (h : inv.attachmentsOf requested.id = .ok attachments) :
    (∀ s ∈ attachSteps stored requested vm.id vm snapshotId attachments,
      s.Passes (.ofTables inv c)) ↔ Attachable inv c stored requested vm snapshotId := by
  simp only [attachSteps, List.forall_mem_cons, List.not_mem_nil, false_implies, implies_true,
    and_true, Step.Passes, Consult.pure_eq_done, Consult.accepts_done, true_implies,
    DiskRule.notInfrastructureStore_eq_accepted_iff, DiskRule.notHostedEngineLun_eq_accepted_iff,
    DiskRule.storageTypeNotIn_eq_accepted_iff, DiskRule.readOnlyCompatible_eq_accepted_iff,
    notAlreadyAttached_eq_accepted_iff h, DiskRule.accepts_interfaceCompatibility_iff,
    DiskRule.accepts_interfaceSupportedForVm_iff, DiskRule.scsiReservationValid_eq_accepted_iff,
    Option.some.injEq, forall_eq']
  constructor
  · rintro ⟨hstore, hlun, hsnapshot, hattached, hreadOnly, hvirtio, hinterface, hreservation⟩
    exact
      { not_store := hstore
        not_hostedEngineLun := hlun
        snapshot_storage := fun hs => by simpa using hsnapshot hs
        not_attached := hattached
        read_only := hreadOnly
        virtioScsi := fun hi => ⟨(hvirtio hi).1, (hvirtio hi).2.1⟩
        interface := hinterface
        reservation := fun lun hb hr => (hreservation lun hb hr).2 }
  · intro ha
    refine ⟨ha.not_store, ha.not_hostedEngineLun, fun hs => ?_, ha.not_attached, ha.read_only,
      fun hi => ?_, ha.interface, fun lun hb hr => ⟨rfl, ha.reservation lun hb hr⟩⟩
    · simpa using ha.snapshot_storage hs
    · -- both rules about the operating system ask for the same interface here
      exact ⟨(ha.virtioScsi hi).1, (ha.virtioScsi hi).2, hi ▸ ha.interface⟩

theorem Operation.attachDisk_accepted_iff {disk : Disk} {vmId : Uuid} {snapshotId : Option Uuid} :
    (attachDisk disk vmId snapshotId).judge inv c = .ok .accepted ↔
      ∃ vm stored, inv.vm? vmId = some vm ∧ inv.disk? disk.id = some stored ∧
        (∀ a, inv.IsAttachmentOf disk.id a → ∃ w, inv.vm? a.vmId = some w) ∧
        Attachable inv c stored disk vm snapshotId := by
  rw [judge_attachDisk]
  cases hvm : inv.vm? vmId with
  | none => simp
  | some vm =>
    cases hdisk : inv.disk? disk.id with
    | none => simp
    | some stored =>
      obtain rfl := Inventory.id_of_vm? hvm
      simp only [Option.some.injEq, ← Inventory.exists_attachmentsOf_iff]
      cases hattachments : inv.attachmentsOf disk.id with
      | error fault => simp
      | ok attachments =>
        rw [ok_bind, Step.answer_eq_accepted_iff, attachSteps_pass_iff hattachments]
        simp

/-- **Attaching disks.** A request is accepted exactly if the machine and the disk are stored, each
attachment of the disk names a stored machine, and the request breaks no rule of the catalog. A
machine or disk that is not stored is reported, the machine first; then the fault of an attachment
without its machine; and otherwise the first rule that does not pass gives the answer. -/
theorem attachDisk_decided_by_catalog (inv : Inventory) (c : Capabilities) (disk : Disk)
    (vmId : Uuid) (snapshotId : Option Uuid) :
    ((Operation.attachDisk disk vmId snapshotId).judge inv c = .ok .accepted ↔
      ∃ vm stored, inv.vm? vmId = some vm ∧ inv.disk? disk.id = some stored ∧
        (∀ a, inv.IsAttachmentOf disk.id a → ∃ w, inv.vm? a.vmId = some w) ∧
        Attachable inv c stored disk vm snapshotId) ∧
    (inv.vm? vmId = none →
      (Operation.attachDisk disk vmId snapshotId).judge inv c = .ok (.reject .vmNotFound)) ∧
    (∀ vm, inv.vm? vmId = some vm → inv.disk? disk.id = none →
      (Operation.attachDisk disk vmId snapshotId).judge inv c = .ok (.reject .diskNotFound)) ∧
    (∀ vm stored fault, inv.vm? vmId = some vm → inv.disk? disk.id = some stored →
      inv.attachmentsOf disk.id = .error fault →
      (Operation.attachDisk disk vmId snapshotId).judge inv c = .error fault) ∧
    (∀ vm stored attachments, inv.vm? vmId = some vm → inv.disk? disk.id = some stored →
      inv.attachmentsOf disk.id = .ok attachments →
      Step.FirstDecides (.ofTables inv c)
        (Operation.attachSteps stored disk vmId vm snapshotId attachments)
        ((Operation.attachDisk disk vmId snapshotId).judge inv c)) := by
  refine ⟨Operation.attachDisk_accepted_iff, ?_, ?_, ?_, ?_⟩
  · intro hvm
    rw [Operation.judge_attachDisk, hvm]
  · intro vm hvm hdisk
    simp only [Operation.judge_attachDisk, hvm, hdisk]
  · intro vm stored fault hvm hdisk hfault
    simp only [Operation.judge_attachDisk, hvm, hdisk, hfault, error_bind]
  · intro vm stored attachments hvm hdisk hattachments
    simp only [Operation.judge_attachDisk, hvm, hdisk, hattachments, ok_bind]
    exact Step.firstDecides_answer _ _

/-! ## Which reason is given -/

namespace Operation

open Objection Step DiskRule

/-- The objections to attaching a disk, in the order in which they are looked at. -/
def attachObjections (inv : Inventory) (c : Capabilities) (disk : Disk) (vmId : Uuid)
    (snapshotId : Option Uuid) : List Objection :=
  match inv.vm? vmId with
  | none => [.reject True ⟨.vmNotFound, []⟩]
  | some vm =>
    match inv.disk? disk.id with
    | none => [.reject True ⟨.diskNotFound, []⟩]
    | some stored =>
      missingVmObjections inv (inv.attachmentRows disk.id) ++
      List.flatten [
        [.reject (stored.infrastructureStore = true) ⟨.ovfDiskNotSupported, []⟩],
        [.reject (stored.isHostedEngineLun = true) ⟨.hostedEngineDisk, []⟩],
        if snapshotId.isSome = true then
          [.reject (stored.storageType ∈ [.lun, .cinder]) ⟨.storageTypeNotSupported,
            [⟨"diskStorageType", stored.storageType.displayName⟩]⟩]
        else [],
        [.reject (inv.IsAttached disk.id vmId snapshotId)
          ⟨.diskAlreadyAttached, [⟨"vmName", vm.name⟩]⟩],
        readOnlyObjections disk,
        virtioScsiObjections inv c disk (some vm),
        interfaceObjections c disk.interface (some vm),
        reservationObjections disk (some vm)]

theorem settle_notAlreadyAttached {disk vmId : Uuid} {vmName : String} {snapshotId : Option Uuid}
    {attachments : List (Vm × Attachment)} (h : inv.attachmentsOf disk = .ok attachments) :
    Settle [.reject (inv.IsAttached disk vmId snapshotId)
        ⟨.diskAlreadyAttached, [⟨"vmName", vmName⟩]⟩]
      (.ok (notAlreadyAttached vmId vmName snapshotId attachments)) := by
  rw [← exists_mem_attachments_iff h]
  unfold notAlreadyAttached
  split
  · rename_i hany
    exact .raised ⟨by simpa using hany, rfl⟩
  · rename_i hnone
    exact .passed (by simpa using hnone) .unopposed

theorem settle_attachObjections {disk : Disk} {vmId : Uuid} {snapshotId : Option Uuid} :
    Settle (attachObjections inv c disk vmId snapshotId)
      ((attachDisk disk vmId snapshotId).judge inv c) := by
  rw [judge_attachDisk]
  unfold attachObjections
  cases inv.vm? vmId with
  | none => exact .raised ⟨trivial, rfl⟩
  | some vm =>
    cases inv.disk? disk.id with
    | none => exact .raised ⟨trivial, rfl⟩
    | some stored =>
      refine settle_attachmentsOf fun attachments hattachments => settle_answer ?_
      -- one entry for each rule, in the order of the plan
      exact
        .cons (settle_answer_singleton rfl settle_notInfrastructureStore) <|
        .cons (settle_answer_singleton rfl settle_notHostedEngineLun) <|
        .cons (settle_answer_singleton_ite .rfl fun _ => settle_storageTypeNotIn) <|
        .cons (settle_answer_singleton rfl (settle_notAlreadyAttached hattachments)) <|
        .cons (settle_answer_singleton rfl settle_readOnlyCompatible) <|
        .cons (settle_answer_singleton rfl settle_interfaceCompatibility) <|
        .cons (settle_answer_singleton rfl settle_interfaceSupportedForVm) <|
        .cons (settle_answer_singleton rfl settle_scsiReservationValid) .nil

end Operation

/-- **Why a disk is not attached.** The result of a request is the answer of its first objection
that is raised, and an acceptance if none is. -/
theorem attachDisk_settled_by_objections (inv : Inventory) (c : Capabilities) (disk : Disk)
    (vmId : Uuid) (snapshotId : Option Uuid) (result : Except Fault Verdict) :
    (Operation.attachDisk disk vmId snapshotId).judge inv c = result ↔
      Objection.Settle (Operation.attachObjections inv c disk vmId snapshotId) result :=
  Operation.settle_attachObjections.eq_iff

end VmAdmission
