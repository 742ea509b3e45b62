import VmAdmission.Proofs.Loading
import VmAdmission.Proofs.Rule.Objections

/-!
# The catalog for updates of disks

`DiskUpdatable` is the list of everything that an update of a disk must satisfy, with the machine
that it is made through, if one is named. Whether something changes is judged by comparing the
stored disk with the proposed one. `updateDisk_decided_by_catalog`: an update is accepted exactly if
its rows are stored, the disk is attached to the machine itself, and no rule is broken. Otherwise
the first objection gives the reason (`updateDisk_settled_by_objections`).
-/

namespace VmAdmission

variable {inv : Inventory} {c : Capabilities}

/-- An update of a disk, through a machine where one is named, that breaks no rule. -/
structure DiskUpdatable (inv : Inventory) (c : Capabilities) (stored proposed : Disk)
    (vm? : Option Vm) : Prop where
  not_store : stored.infrastructureStore = false
  not_hostedEngineLun : stored.isHostedEngineLun = false
  read_only : proposed.readOnly = true →
    proposed.interface ≠ .ide ∧ proposed.scsiPassthrough = false
  virtioScsi : proposed.interface = .virtioScsi →
    ¬ (proposed.sgio.isSome = true ∧ proposed.storageType = .image) ∧
      ∀ vm, vm? = some vm → HasVirtioScsi inv c vm ∧ SupportsInterface c vm .virtioScsi
  interface : stored.interface ≠ proposed.interface →
    ∀ vm, vm? = some vm → SupportsInterface c vm proposed.interface
  reservation : ∀ lun, proposed.backing = .lun lun → lun.usingScsiReservation = true →
    vm?.isSome = true ∧ proposed.sgio ≠ some .filtered
  /-- What has to reach a running guest changes only while each machine that the disk is plugged
  into, through a snapshot or not, is down. -/
  running : stored.interface ≠ proposed.interface ∨ stored.readOnly ≠ proposed.readOnly ∨
      stored.sgio ≠ proposed.sgio ∨ stored.scsiPassthrough ≠ proposed.scsiPassthrough →
    ∀ a vm, inv.IsAttachmentOf proposed.id a → inv.vm? a.vmId = some vm → a.plugged = true →
      vm.status = .down

theorem Operation.changesHotFields_iff {stored proposed : Disk} :
    changesHotFields stored proposed = true ↔
      stored.interface ≠ proposed.interface ∨ stored.readOnly ≠ proposed.readOnly ∨
        stored.sgio ≠ proposed.sgio ∨ stored.scsiPassthrough ≠ proposed.scsiPassthrough := by
  simp [changesHotFields, or_assoc]

/-- The rules pass together exactly if the update breaks none of the catalog. -/
theorem Operation.updateDiskSteps_pass_iff {stored proposed : Disk} {vm? : Option Vm}
    {attachments : List (Vm × Attachment)}
    (h : inv.attachmentsOf proposed.id = .ok attachments) :
    (∀ s ∈ updateDiskSteps stored proposed vm? attachments, s.Passes (.ofTables inv c)) ↔
      DiskUpdatable inv c stored proposed vm? := by
  simp only [updateDiskSteps, List.forall_mem_cons, List.not_mem_nil, false_implies,
    implies_true, and_true, Step.Passes, Consult.pure_eq_done, Consult.accepts_done, true_implies,
    decide_eq_true_eq,
    DiskRule.notInfrastructureStore_eq_accepted_iff, DiskRule.notHostedEngineLun_eq_accepted_iff,
    DiskRule.readOnlyCompatible_eq_accepted_iff, DiskRule.accepts_interfaceCompatibility_iff,
    DiskRule.accepts_interfaceSupportedForVm_iff, DiskRule.scsiReservationValid_eq_accepted_iff,
    changesHotFields_iff, DiskRule.pluggedOnlyToDownVms,
    DiskRule.pluggedOnlyToDown_eq_accepted_iff, true_or, Inventory.forall_mem_attachmentsOf_iff h]
  constructor
  · rintro ⟨hstore, hlun, hreadOnly, hvirtio, hinterface, hreservation, hrunning⟩
    exact
      { not_store := hstore
        not_hostedEngineLun := hlun
        read_only := hreadOnly
        virtioScsi := hvirtio
        interface := hinterface
        reservation := hreservation
        running := hrunning }
  · intro h
    exact ⟨h.not_store, h.not_hostedEngineLun, h.read_only, h.virtioScsi, h.interface,
      h.reservation, h.running⟩

theorem Operation.updateDisk_accepted_iff {disk : Disk} {vmId : Option Uuid} :
    (updateDisk disk vmId).judge inv c = .ok .accepted ↔
      ∃ stored, inv.disk? disk.id = some stored ∧
        (∀ a, inv.IsAttachmentOf disk.id a → ∃ w, inv.vm? a.vmId = some w) ∧
        (∀ v, vmId = some v → inv.IsAttached disk.id v none) ∧
        DiskUpdatable inv c stored disk (vmId.bind inv.vm?) := by
  cases hdisk : inv.disk? disk.id with
  | none => simp [judge_updateDisk, hdisk]
  | some stored =>
    simp only [Option.some.injEq, exists_eq_left', ← Inventory.exists_attachmentsOf_iff]
    cases hattachments : inv.attachmentsOf disk.id with
    | error fault => simp [judge_updateDisk, hdisk, hattachments]
    | ok attachments =>
      by_cases hv : ∀ v, vmId = some v → inv.IsAttached disk.id v none
      · rw [judge_updateDisk_of_attached hdisk hattachments hv, Step.answer_eq_accepted_iff,
          updateDiskSteps_pass_iff hattachments]
        exact ⟨fun h => ⟨⟨attachments, rfl⟩, hv, h⟩, fun h => h.2.2⟩
      · refine ⟨fun h => absurd h ?_, fun h => absurd h.2.1 hv⟩
        -- some machine is named, and the disk is not attached to it
        push Not at hv
        obtain ⟨v, rfl, hv⟩ := hv
        rw [judge_updateDisk_of_not_attached hdisk hattachments hv]
        exact notAttached_ne_accepted

/-- **Updates of disks.** An update is accepted exactly if the disk is stored, each of its
attachments names a stored machine, it is attached to the machine that is named, if one is, and the
update breaks no rule of the catalog. A disk that is not stored is reported, and then the fault of
an attachment without its machine; where the disk is not attached to the machine itself, be it
attached through a snapshot, a missing machine is told from a missing attachment; and otherwise the
first rule that does not pass gives the answer. -/
theorem updateDisk_decided_by_catalog (inv : Inventory) (c : Capabilities) (disk : Disk)
    (vmId : Option Uuid) :
    ((Operation.updateDisk disk vmId).judge inv c = .ok .accepted ↔
      ∃ stored, inv.disk? disk.id = some stored ∧
        (∀ a, inv.IsAttachmentOf disk.id a → ∃ w, inv.vm? a.vmId = some w) ∧
        (∀ v, vmId = some v → inv.IsAttached disk.id v none) ∧
        DiskUpdatable inv c stored disk (vmId.bind inv.vm?)) ∧
    (inv.disk? disk.id = none →
      (Operation.updateDisk disk vmId).judge inv c = .ok (.reject .diskNotFound)) ∧
    (∀ stored fault, inv.disk? disk.id = some stored →
      inv.attachmentsOf disk.id = .error fault →
      (Operation.updateDisk disk vmId).judge inv c = .error fault) ∧
    (∀ stored v, inv.disk? disk.id = some stored →
      (∀ a, inv.IsAttachmentOf disk.id a → ∃ w, inv.vm? a.vmId = some w) →
      vmId = some v → ¬ inv.IsAttached disk.id v none →
      (inv.vm? v = none →
        (Operation.updateDisk disk vmId).judge inv c = .ok (.reject .vmNotFound)) ∧
      (∀ vm, inv.vm? v = some vm →
        (Operation.updateDisk disk vmId).judge inv c = .ok (.reject .diskNotAttached))) ∧
    (∀ stored attachments, inv.disk? disk.id = some stored →
      inv.attachmentsOf disk.id = .ok attachments →
      (∀ v, vmId = some v → inv.IsAttached disk.id v none) →
      Step.FirstDecides (.ofTables inv c)
        (Operation.updateDiskSteps stored disk (vmId.bind inv.vm?) attachments)
        ((Operation.updateDisk disk vmId).judge inv c)) := by
  refine ⟨Operation.updateDisk_accepted_iff, ?_, ?_, ?_, ?_⟩
  · intro hdisk
    simp only [Operation.judge_updateDisk, hdisk]
  · intro stored fault hdisk hfault
    simp only [Operation.judge_updateDisk, hdisk, hfault, error_bind]
  · rintro stored v hdisk hjoined rfl hv
    obtain ⟨attachments, hattachments⟩ := Inventory.exists_attachmentsOf_iff.2 hjoined
    rw [Operation.judge_updateDisk_of_not_attached hdisk hattachments hv]
    unfold Operation.notAttached
    refine ⟨fun hvm => ?_, fun vm hvm => ?_⟩
    · rw [hvm]
    · rw [hvm]
  · intro stored attachments hdisk hattachments hv
    rw [Operation.judge_updateDisk_of_attached hdisk hattachments hv]
    exact Step.firstDecides_answer _ _

/-! ## Which reason is given -/

namespace Operation

open Objection Step DiskRule

/-- The objections to an update of a disk, in the order in which they are looked at. -/
def updateDiskObjections (inv : Inventory) (c : Capabilities) (disk : Disk) (vmId : Option Uuid) :
    List Objection :=
  match inv.disk? disk.id with
  | none => [.reject True ⟨.diskNotFound, []⟩]
  | some stored =>
    missingVmObjections inv (inv.attachmentRows disk.id) ++
    vmId.elim [] (attachedObjections inv disk.id) ++
    List.flatten [
      [.reject (stored.infrastructureStore = true) ⟨.ovfDiskNotSupported, []⟩],
      [.reject (stored.isHostedEngineLun = true) ⟨.hostedEngineDisk, []⟩],
      readOnlyObjections disk,
      virtioScsiObjections inv c disk (vmId.bind inv.vm?),
      if stored.interface ≠ disk.interface then
        interfaceObjections c disk.interface (vmId.bind inv.vm?)
      else [],
      reservationObjections disk (vmId.bind inv.vm?),
      if stored.interface ≠ disk.interface ∨ stored.readOnly ≠ disk.readOnly ∨
          stored.sgio ≠ disk.sgio ∨ stored.scsiPassthrough ≠ disk.scsiPassthrough then
        runningObjections inv false (inv.attachmentRows disk.id)
      else []]

theorem settle_updateDiskObjections {disk : Disk} {vmId : Option Uuid} :
    Settle (updateDiskObjections inv c disk vmId) ((updateDisk disk vmId).judge inv c) := by
  rw [judge_updateDisk]
  unfold updateDiskObjections
  cases inv.disk? disk.id with
  | none => exact .raised ⟨trivial, rfl⟩
  | some stored =>
    simp only [List.append_assoc]
    refine settle_attachmentsOf fun attachments hattachments => ?_
    -- the rules are the same with a machine and without, so they are matched once
    have hsteps (vm? : Option Vm) :
        Settle _ (answer (.ofTables inv c) (updateDiskSteps stored disk vm? attachments)) :=
      settle_answer <|
        .cons (settle_answer_singleton rfl settle_notInfrastructureStore) <|
        .cons (settle_answer_singleton rfl settle_notHostedEngineLun) <|
        .cons (settle_answer_singleton rfl settle_readOnlyCompatible) <|
        .cons (settle_answer_singleton rfl settle_interfaceCompatibility) <|
        .cons (settle_answer_singleton_ite decide_eq_true_iff fun _ =>
          settle_interfaceSupportedForVm) <|
        .cons (settle_answer_singleton rfl settle_scsiReservationValid) <|
        .cons (settle_answer_singleton_ite changesHotFields_iff fun _ =>
          settle_running hattachments) .nil
    cases vmId with
    | none => exact hsteps none
    | some v =>
      cases hactive : activeAttachment? attachments v with
      | none =>
        have hv := (activeAttachment?_eq_none_iff hattachments).1 hactive
        simp only [hactive]
        exact (settle_notAttached hv).append_of_not_accepted notAttached_ne_accepted _
      | some joined =>
        obtain ⟨hvm, ha⟩ := of_activeAttachment?_eq_some hattachments hactive
        simp only [hactive, Option.bind_some, hvm]
        exact (settle_attachedObjections hvm ⟨_, ha⟩).append_of_accepted (hsteps _)

end Operation

/-- **Why a disk is not updated.** The result of an update is the answer of its first objection that
is raised, and an acceptance if none is. -/
theorem updateDisk_settled_by_objections (inv : Inventory) (c : Capabilities) (disk : Disk)
    (vmId : Option Uuid) (result : Except Fault Verdict) :
    (Operation.updateDisk disk vmId).judge inv c = result ↔
      Objection.Settle (Operation.updateDiskObjections inv c disk vmId) result :=
  Operation.settle_updateDiskObjections.eq_iff

end VmAdmission
