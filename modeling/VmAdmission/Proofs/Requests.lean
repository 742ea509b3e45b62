import VmAdmission.Proofs.HostedEngine
import VmAdmission.Proofs.Loading

/-!
# Requests to attach a disk

A request bears a whole disk, of which the stored one says what the disk is. Two requests that ask
for the same (`Disk.RequestsLike`) have the same plan, and so the same decision by any services
(`attachDisk_decided_by_request`), if the rule about SGIO on images strikes both of them or neither.
That rule looks at the backing that the request states, and not at the stored one: a request that
states another backing gets past it (`attachDisk_past_image_rule`).
-/

namespace VmAdmission

/-! ## What is asked for -/

/-- Whether a SCSI reservation is requested, which only a LUN can be. -/
def Disk.requestsReservation (d : Disk) : Bool := d.backing.lun?.any Lun.usingScsiReservation

/-- Two disks bear the same identifier, are presented to a guest in the same way, and request a
reservation both or neither. -/
structure Disk.RequestsLike (d e : Disk) : Prop where
  id : d.id = e.id
  interface : d.interface = e.interface
  readOnly : d.readOnly = e.readOnly
  sgio : d.sgio = e.sgio
  scsiPassthrough : d.scsiPassthrough = e.scsiPassthrough
  reservation : d.requestsReservation = e.requestsReservation

/-- The disk is on VirtIO-SCSI with SGIO, and states an image as its backing. -/
def Disk.PutsSgioOnImage (d : Disk) : Prop :=
  d.interface = .virtioScsi ∧ d.sgio.isSome = true ∧ d.storageType = .image

instance (d : Disk) : Decidable d.PutsSgioOnImage :=
  inferInstanceAs (Decidable (_ ∧ _ ∧ _))

/-! ## Rules on requests -/

namespace DiskRule

/-- Of the backing, the rule about reservations looks only at whether one is requested. -/
theorem scsiReservationValid_eq (disk : Disk) (vm? : Option Vm) :
    scsiReservationValid disk vm? =
      if !disk.requestsReservation then .accepted
      else if vm?.isNone then .reject .scsiReservationOnFloatingDisk
      else .rejectIf (disk.sgio = some .filtered) .sgioIsFiltered := by
  unfold scsiReservationValid Disk.requestsReservation
  cases disk.backing with
  | image size => rfl
  | cinder size => rfl
  | lun lun => rfl

theorem interfaceCompatibility_of_putsSgioOnImage {disk : Disk} (h : disk.PutsSgioOnImage)
    (vm? : Option Vm) :
    interfaceCompatibility disk vm? = .done (.reject .scsiGenericIoOnImageDisk) := by
  obtain ⟨hinterface, hsgio⟩ := h
  unfold interfaceCompatibility
  rw [if_neg (not_not.2 hinterface), if_pos hsgio]
  rfl

end DiskRule

namespace Disk.RequestsLike

variable {d e : Disk}

theorem readOnlyCompatible_eq (h : d.RequestsLike e) :
    DiskRule.readOnlyCompatible d = DiskRule.readOnlyCompatible e := by
  unfold DiskRule.readOnlyCompatible
  rw [h.readOnly, h.interface, h.scsiPassthrough]

theorem interfaceSupportedForVm_eq (h : d.RequestsLike e) (vm? : Option Vm) :
    DiskRule.interfaceSupportedForVm d vm? = DiskRule.interfaceSupportedForVm e vm? := by
  unfold DiskRule.interfaceSupportedForVm
  rw [h.interface]

theorem scsiReservationValid_eq (h : d.RequestsLike e) (vm? : Option Vm) :
    DiskRule.scsiReservationValid d vm? = DiskRule.scsiReservationValid e vm? := by
  rw [DiskRule.scsiReservationValid_eq, DiskRule.scsiReservationValid_eq, h.reservation, h.sgio]

/-- The rule about VirtIO-SCSI is the only one that looks at the stated kind of backing. -/
theorem interfaceCompatibility_eq (h : d.RequestsLike e)
    (himage : d.PutsSgioOnImage ↔ e.PutsSgioOnImage) (vm? : Option Vm) :
    DiskRule.interfaceCompatibility d vm? = DiskRule.interfaceCompatibility e vm? := by
  by_cases hd : d.PutsSgioOnImage
  · rw [DiskRule.interfaceCompatibility_of_putsSgioOnImage hd,
      DiskRule.interfaceCompatibility_of_putsSgioOnImage (himage.1 hd)]
  · have he : ¬ e.PutsSgioOnImage := fun he => hd (himage.2 he)
    unfold DiskRule.interfaceCompatibility
    by_cases hinterface : e.interface = .virtioScsi
    · have hsgio : ¬ (d.sgio.isSome = true ∧ d.storageType = .image) := fun hs =>
        hd ⟨h.interface.trans hinterface, hs⟩
      have hsgio' : ¬ (e.sgio.isSome = true ∧ e.storageType = .image) := fun hs =>
        he ⟨hinterface, hs⟩
      rw [h.interface, if_neg hsgio, if_neg hsgio']
    · rw [h.interface, if_pos hinterface, if_pos hinterface]

theorem attachSteps_eq (h : d.RequestsLike e) (himage : d.PutsSgioOnImage ↔ e.PutsSgioOnImage)
    (stored : Disk) (vmId : Uuid) (vm : Vm) (snapshotId : Option Uuid)
    (attachments : List (Vm × Attachment)) :
    Operation.attachSteps stored d vmId vm snapshotId attachments =
      Operation.attachSteps stored e vmId vm snapshotId attachments := by
  unfold Operation.attachSteps
  rw [h.readOnlyCompatible_eq, h.interfaceCompatibility_eq himage, h.interfaceSupportedForVm_eq,
    h.scsiReservationValid_eq]

end Disk.RequestsLike

/-! ## Decisions -/

namespace Operation

/-- Operations of one kind, about the same rows and with the same plan, are decided alike. -/
theorem decision_congr {op op' : Operation} (hplan : op.plan = op'.plan)
    (hkind : op.kind = op'.kind) (hcontext : op.checkContext = op'.checkContext) :
    op.decision = op'.decision := by
  funext services asked
  unfold decision closingLog context
  rw [hplan, hkind, hcontext]

variable {d e : Disk} {vmId : Uuid} {snapshotId : Option Uuid} {inv : Inventory}
  {c : Capabilities}

theorem plan_attachDisk_eq (h : d.RequestsLike e)
    (himage : d.PutsSgioOnImage ↔ e.PutsSgioOnImage) :
    (attachDisk d vmId snapshotId).plan = (attachDisk e vmId snapshotId).plan := by
  simp only [plan, attachPlan, h.id, h.attachSteps_eq himage]

/-- The rules before the one about VirtIO-SCSI do not look at the backing that is stated. -/
theorem attachSteps_eq_append (h : d.RequestsLike e) (stored : Disk) (vm : Vm)
    (attachments : List (Vm × Attachment)) :
    attachSteps stored e vmId vm snapshotId attachments =
      (attachSteps stored d vmId vm snapshotId attachments).take 5 ++
        (attachSteps stored e vmId vm snapshotId attachments).drop 5 := by
  simp only [attachSteps, h.readOnlyCompatible_eq]
  rfl

/-- A request that the rule about SGIO on images strikes is rejected by it, unless something before
it decides both requests. -/
theorem attachDisk_of_putsSgioOnImage (h : d.RequestsLike e) (he : e.PutsSgioOnImage) :
    (attachDisk e vmId snapshotId).judge inv c = .ok (.reject .scsiGenericIoOnImageDisk) ∨
      (attachDisk e vmId snapshotId).judge inv c = (attachDisk d vmId snapshotId).judge inv c ∧
        (attachDisk d vmId snapshotId).judge inv c ≠ .ok .accepted := by
  rw [judge_attachDisk, judge_attachDisk, ← h.id]
  cases inv.vm? vmId with
  | none => exact .inr ⟨rfl, by simp⟩
  | some vm =>
    cases inv.disk? d.id with
    | none => exact .inr ⟨rfl, by simp⟩
    | some stored =>
      cases inv.attachmentsOf d.id with
      | error fault => exact .inr ⟨rfl, by simp⟩
      | ok attachments =>
        simp only [ok_bind]
        rw [attachSteps_eq_append h]
        by_cases hb : Step.answer (.ofTables inv c)
            ((attachSteps stored d vmId vm snapshotId attachments).take 5) = .ok .accepted
        · left
          rw [Step.answer_append (Step.answer_eq_accepted_iff.1 hb)]
          simp only [attachSteps, List.drop_succ_cons, List.drop_zero, Step.answer,
            DiskRule.interfaceCompatibility_of_putsSgioOnImage he, Consult.eval_done]
          rfl
        · right
          have hd := Step.answer_append_of_not_accepted
            ((attachSteps stored d vmId vm snapshotId attachments).drop 5) hb
          rw [List.take_append_drop] at hd
          rw [Step.answer_append_of_not_accepted _ hb, hd]
          exact ⟨rfl, hb⟩

end Operation

/-- **Requests to attach a disk.** Two requests that ask for the same have the same decision, by any
services: the same result, the same queries and the same log. Neither the alias, the flag of an
internal volume, the size nor the LUN that they state matters, nor does the kind of backing, unless
the rule about SGIO on images strikes one of them only. Then that one is rejected by this rule, or
else the two have the same result and are not accepted. -/
theorem attachDisk_decided_by_request {d e : Disk} (h : d.RequestsLike e) (vmId : Uuid)
    (snapshotId : Option Uuid) :
    ((d.PutsSgioOnImage ↔ e.PutsSgioOnImage) → ∀ services asked,
      (Operation.attachDisk d vmId snapshotId).decision services asked =
        (Operation.attachDisk e vmId snapshotId).decision services asked) ∧
    (e.PutsSgioOnImage → ∀ inv c,
      (Operation.attachDisk e vmId snapshotId).judge inv c =
          .ok (.reject .scsiGenericIoOnImageDisk) ∨
        (Operation.attachDisk e vmId snapshotId).judge inv c =
            (Operation.attachDisk d vmId snapshotId).judge inv c ∧
          (Operation.attachDisk d vmId snapshotId).judge inv c ≠ .ok .accepted) := by
  constructor
  · intro himage services asked
    have hcontext : (Operation.attachDisk d vmId snapshotId).checkContext =
        (Operation.attachDisk e vmId snapshotId).checkContext := by
      simp only [Operation.checkContext, Operation.context, Operation.kind, h.id]
    rw [Operation.decision_congr (Operation.plan_attachDisk_eq h himage) rfl hcontext]
  · intro he inv c
    exact Operation.attachDisk_of_putsSgioOnImage h he

/-! ## A request that states another backing -/

namespace Requests

/-- A machine with a VirtIO-SCSI controller, and a disk on an image that is not attached. -/
def inventory : Inventory where
  vms := [{ HostedEngine.engine with name := "vm", origin := .ovirt }]
  clusters := HostedEngine.inventory.clusters
  hosts := []
  disks := [HostedEngine.data]
  attachments := []
  controllers := [⟨HostedEngine.engine.id, .virtioScsi⟩]

/-- A request for the disk with SGIO on VirtIO-SCSI, which states a backing. -/
def stating (backing : Backing) : Disk :=
  { HostedEngine.data with interface := .virtioScsi, sgio := some .unfiltered, backing }

/-- The same request, which states a LUN, another alias and an internal volume. -/
def renamed : Disk :=
  { stating (.lun ⟨"lun", false⟩) with
    diskAlias := "other"
    infrastructureStore := true }

end Requests

section Stating

open Requests

/-- An alias, a flag and a LUN in the place of an external volume change nothing, and stating the
image that the disk is on has the request rejected. -/
theorem attachDisk_decided_by_request_for_data :
    (stating (.cinder 1)).RequestsLike renamed ∧
    (stating (.cinder 1)).RequestsLike (stating (.image 1)) ∧
    ((Operation.attachDisk (stating (.cinder 1)) HostedEngine.engine.id none).decision
        (Answers.ofTables inventory .builtIn).toServices [] =
      (Operation.attachDisk renamed HostedEngine.engine.id none).decision
        (Answers.ofTables inventory .builtIn).toServices []) ∧
    (Operation.attachDisk (stating (.image 1)) HostedEngine.engine.id none).judge
        inventory .builtIn =
      .ok (.reject .scsiGenericIoOnImageDisk) := by
  have hrenamed : (stating (.cinder 1)).RequestsLike renamed := ⟨rfl, rfl, rfl, rfl, rfl, rfl⟩
  have himage : (stating (.cinder 1)).RequestsLike (stating (.image 1)) :=
    ⟨rfl, rfl, rfl, rfl, rfl, rfl⟩
  refine ⟨hrenamed, himage, ?_, ?_⟩
  · refine (attachDisk_decided_by_request hrenamed _ _).1 ?_ _ _
    decide
  · -- the request for an external volume is accepted
    refine ((attachDisk_decided_by_request himage _ _).2 (by decide) _ _).resolve_right ?_
    rintro ⟨-, hne⟩
    apply hne
    decide +kernel

/-- Two requests that ask for the same, for a disk that is stored on an image: the one that states
the image is rejected for SGIO on it, and the one that states a LUN is accepted. -/
theorem attachDisk_past_image_rule :
    (stating (.lun ⟨"lun", false⟩)).RequestsLike (stating (.image 1)) ∧
    (inventory.disk? (stating (.image 1)).id).map Disk.storageType = some .image ∧
    (Operation.attachDisk (stating (.lun ⟨"lun", false⟩)) HostedEngine.engine.id none).judge
        inventory .builtIn =
      .ok .accepted ∧
    (Operation.attachDisk (stating (.image 1)) HostedEngine.engine.id none).judge
        inventory .builtIn =
      .ok (.reject .scsiGenericIoOnImageDisk) := by
  refine ⟨⟨rfl, rfl, rfl, rfl, rfl, rfl⟩, rfl, ?_, ?_⟩
  · decide +kernel
  · decide +kernel

end Stating

end VmAdmission
