import VmAdmission.Proofs.Catalog.UpdateDisk
import VmAdmission.Proofs.ProtectedDisks
import VmAdmission.Proofs.Requests

/-!
# What an update of a disk declares

An update proposes a whole disk, and the proposed row replaces the stored one. Whether the disk is
protected from updates is judged by the stored row; whether it can be used as proposed, and on the
backing that it is proposed to have, by the proposed one. The flag of an internal volume, the alias
and the backing are not compared: a disk may become another one by an update
(`updateDisk_redeclares_disk`), though not a protected one an ordinary one.
`updateDisk_judged_by_declaration` says what holds of the disk before and afterwards, and how little
of the declaration is looked at.
-/

namespace VmAdmission

variable {inv : Inventory} {c : Capabilities}

/-! ## Proposals that ask for the same -/

namespace Disk.RequestsLike

variable {d e : Disk}

theorem changesHotFields_eq (h : d.RequestsLike e) (stored : Disk) :
    Operation.changesHotFields stored d = Operation.changesHotFields stored e := by
  unfold Operation.changesHotFields
  rw [h.interface, h.readOnly, h.sgio, h.scsiPassthrough]

theorem updateDiskSteps_eq (h : d.RequestsLike e)
    (himage : d.PutsSgioOnImage ↔ e.PutsSgioOnImage) (stored : Disk) (vm? : Option Vm)
    (attachments : List (Vm × Attachment)) :
    Operation.updateDiskSteps stored d vm? attachments =
      Operation.updateDiskSteps stored e vm? attachments := by
  unfold Operation.updateDiskSteps
  rw [h.readOnlyCompatible_eq, h.interfaceCompatibility_eq himage, h.interfaceSupportedForVm_eq,
    h.scsiReservationValid_eq, h.changesHotFields_eq, h.interface]
  rfl

end Disk.RequestsLike

theorem Operation.plan_updateDisk_eq {d e : Disk} {vmId : Option Uuid} (h : d.RequestsLike e)
    (himage : d.PutsSgioOnImage ↔ e.PutsSgioOnImage) :
    (updateDisk d vmId).plan = (updateDisk e vmId).plan := by
  simp only [plan, updateDiskPlan, h.id, h.updateDiskSteps_eq himage]

/-! ## Proposals that are accepted -/

namespace DiskUpdatable

variable {stored proposed : Disk} {vm? : Option Vm} (h : DiskUpdatable inv c stored proposed vm?)

include h

theorem not_putsSgioOnImage : ¬ proposed.PutsSgioOnImage := fun hputs =>
  (h.virtioScsi hputs.1).1 hputs.2

/-- A reservation has a machine to be made for, and SCSI commands are not filtered. -/
theorem of_requestsReservation (hr : proposed.requestsReservation = true) :
    vm?.isSome = true ∧ proposed.sgio ≠ some .filtered := by
  unfold Disk.requestsReservation Backing.lun? at hr
  split at hr
  · rename_i lun hlun
    exact h.reservation lun hlun hr
  · cases hr

end DiskUpdatable

/-- **What an update of a disk declares.** Let an update be accepted. Then the stored disk is
neither an internal volume nor the LUN behind the hosted-engine machine, so that no update changes a
protected disk into an ordinary one. The disk is afterwards what the update declares, and breaks no
rule about the backing that it then has: SGIO is not put on an image, and a reservation is made for
a machine, and not filtered.

Apart from that, two updates that ask for the same have the same decision, by any services: the same
result, the same queries and the same log. So neither the flag of an internal volume, the alias, the
size nor the LUN that they declare matters, nor does the kind of backing beyond these two rules. -/
theorem updateDisk_judged_by_declaration (disk : Disk) (vmId : Option Uuid) :
    (∀ inv c, (Operation.updateDisk disk vmId).judge inv c = .ok .accepted →
      (∃ stored, inv.disk? disk.id = some stored ∧ stored.infrastructureStore = false ∧
        stored.isHostedEngineLun = false) ∧
      (∀ choice, (inv.commit choice (.updateDisk disk vmId)).disk? disk.id = some disk) ∧
      ¬ disk.PutsSgioOnImage ∧
      (disk.requestsReservation = true → vmId.isSome = true ∧ disk.sgio ≠ some .filtered)) ∧
    ∀ e, disk.RequestsLike e → (disk.PutsSgioOnImage ↔ e.PutsSgioOnImage) →
      ∀ services asked, (Operation.updateDisk disk vmId).decision services asked =
        (Operation.updateDisk e vmId).decision services asked := by
  constructor
  · intro inv c hacc
    obtain ⟨stored, hstored, -, -, hupdatable⟩ := Operation.updateDisk_accepted_iff.1 hacc
    refine ⟨⟨stored, hstored, hupdatable.not_store, hupdatable.not_hostedEngineLun⟩,
      fun choice => Inventory.disk?_commit_updateDisk_self hstored,
      hupdatable.not_putsSgioOnImage, fun hr => ?_⟩
    obtain ⟨hvm, hsgio⟩ := hupdatable.of_requestsReservation hr
    refine ⟨?_, hsgio⟩
    cases vmId with
    | none => exact hvm
    | some vmId => rfl
  · intro e h himage services asked
    have hcontext : (Operation.updateDisk disk vmId).checkContext =
        (Operation.updateDisk e vmId).checkContext := by
      simp only [Operation.checkContext, Operation.context, Operation.kind, h.id]
    rw [Operation.decision_congr (Operation.plan_updateDisk_eq h himage) rfl hcontext]

/-! ## Disks to try it with -/

namespace DiskIdentity

/-- An ordinary LUN. -/
def ordinary : Disk := { ProtectedDisks.lun with diskAlias := "ordinary" }

/-- The LUN and a disk on an image, neither of them attached. -/
def floating : Inventory := { Inventory.empty with disks := [HostedEngine.data, ordinary] }

end DiskIdentity

section Declaring

open DiskIdentity ProtectedDisks Requests

/-- The disk on an image may be declared an internal volume: the stored one is none, and the update
has the same decision as one that changes nothing. -/
theorem updateDisk_judged_by_declaration_for_volume :
    (Operation.updateDisk volume none).judge floating .builtIn = .ok .accepted ∧
    (∃ stored, floating.disk? volume.id = some stored ∧ stored.infrastructureStore = false ∧
      stored.isHostedEngineLun = false) ∧
    (Operation.updateDisk volume none).decision (Answers.ofTables floating .builtIn).toServices [] =
      (Operation.updateDisk HostedEngine.data none).decision
        (Answers.ofTables floating .builtIn).toServices [] := by
  have hacc : (Operation.updateDisk volume none).judge floating .builtIn = .ok .accepted := by
    decide +kernel
  have halike : volume.RequestsLike HostedEngine.data := ⟨rfl, rfl, rfl, rfl, rfl, rfl⟩
  obtain ⟨haccepted, hsame⟩ := updateDisk_judged_by_declaration volume none
  exact ⟨hacc, (haccepted _ _ hacc).1, hsame _ halike (by decide) _ _⟩

/-- An ordinary disk becomes an internal volume, a LUN becomes the one behind the hosted-engine
machine by its alias, and a disk on an image becomes a LUN. The last of these updates would be
rejected if it declared the image that the disk is on. -/
theorem updateDisk_redeclares_disk :
    ((Operation.updateDisk volume none).judge floating .builtIn = .ok .accepted ∧
      (floating.disk? volume.id).map Disk.infrastructureStore = some false ∧
      volume.infrastructureStore = true) ∧
    ((Operation.updateDisk lun none).judge floating .builtIn = .ok .accepted ∧
      (floating.disk? lun.id).map Disk.isHostedEngineLun = some false ∧
      lun.isHostedEngineLun = true) ∧
    ((Operation.updateDisk (stating (.lun ⟨"lun", false⟩)) none).judge floating .builtIn =
        .ok .accepted ∧
      (floating.disk? (stating (.lun ⟨"lun", false⟩)).id).map Disk.storageType = some .image ∧
      (stating (.lun ⟨"lun", false⟩)).storageType = .lun ∧
      (Operation.updateDisk (stating (.image 1)) none).judge floating .builtIn =
        .ok (.reject .scsiGenericIoOnImageDisk)) := by
  refine ⟨⟨?_, rfl, rfl⟩, ⟨?_, ?_, ?_⟩, ?_, rfl, rfl, ?_⟩
  all_goals decide +kernel

end Declaring

end VmAdmission
