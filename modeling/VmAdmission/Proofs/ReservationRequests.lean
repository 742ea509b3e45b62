import VmAdmission.Proofs.Footprint
import VmAdmission.Proofs.Reservations

/-!
# Requests for SCSI reservations

A disk may be attached or updated with a request for a SCSI reservation. On both lists the rule about
reservations always applies, so a request that is accepted has passed it, by any services
(`reservation_requests_accepted`). It asks for a machine to reserve for, which the inventory then
knows, and refuses SGIO that is filtered. SGIO that is not set is taken for unfiltered
(`attachDisk_unset_as_unfiltered`), so that a reservation is accepted on a disk whose SGIO is not set
to unfiltered (`reservation_without_sgio`).
-/

namespace VmAdmission

variable {services : Services} {disk : Disk} {inv : Inventory} {c : Capabilities}

/-! ## Rules that were run -/

/-- Of a checklist that accepts, each rule that applies was run, and accepted. -/
theorem Step.exists_run_of_foldl_accepted {steps : List Step} {asked : List Query}
    {events : List Event}
    (h : ((steps.map (toCheck services)).foldl Checklist.Progress.step ⟨none, asked, events⟩).result =
      .ok .accepted)
    {s : Step} (hs : s ∈ steps) (ha : s.applies = true) :
    ∃ before after, s.rule.run services before = (.ok .accepted, after) := by
  induction steps generalizing asked events with
  | nil => cases hs
  | cons first steps ih =>
    rw [List.map_cons, List.foldl_cons] at h
    by_cases hfirst : first.applies = true
    · rw [step_of_applies hfirst] at h
      unfold Checklist.Progress.perform at h
      rcases hrun : (first.toCheck services).body asked with ⟨fault | verdict, after⟩
      · rw [hrun, Checklist.Progress.foldl_step_of_stopped rfl] at h
        cases h
      · cases verdict with
        | rejected r =>
          rw [hrun, Checklist.Progress.foldl_step_of_stopped rfl] at h
          cases h
        | accepted =>
          rw [hrun] at h
          rcases List.mem_cons.1 hs with rfl | hs
          · exact ⟨asked, after, hrun⟩
          · exact ih h hs
    · rw [step_of_not_applies hfirst] at h
      rcases List.mem_cons.1 hs with rfl | hs
      · exact absurd ha hfirst
      · exact ih h hs

/-! ## The machine to reserve for -/

/-- The disk that an operation presents, as opposed to one that it only names. -/
def Operation.presented? : Operation → Option Disk
  | .attachDisk disk _ _ | .updateDisk disk _ => some disk
  | .updateVm _ | .detachDisk _ _ | .removeDisk _ | .removeDiskSnapshots _ => none

/-- The inventory knows a machine: it finds it by its identifier, or lists it as one that the disk is
attached to. -/
inductive Services.KnowVm (services : Services) (diskId vmId : Uuid) : Prop
  | found {asked : List Query} {vm : Vm}
    (h : services asked (.inventory (.vm vmId)) = .ok (some vm)) : KnowVm services diskId vmId
  | listed {asked : List Query} {attachments : List (Vm × Attachment)} {vm : Vm} {a : Attachment}
    (h : services asked (.inventory (.attachmentsOf diskId)) = .ok attachments)
    (hmem : (vm, a) ∈ attachments) (hid : vm.id = vmId) : KnowVm services diskId vmId

/-- A machine that the tables know is stored. -/
theorem Services.KnowVm.exists_vm? {diskId vmId : Uuid}
    (h : (Answers.ofTables inv c).toServices.KnowVm diskId vmId) :
    ∃ vm, inv.vm? vmId = some vm := by
  cases h with
  | @found _ vm h => exact ⟨vm, Except.ok.inj h⟩
  | @listed _ _ vm a h hmem hid =>
    obtain ⟨-, hvm⟩ := (Inventory.mem_attachmentsOf h).1 hmem
    refine ⟨vm, ?_⟩
    rw [← hid, Inventory.id_of_vm? hvm]
    exact hvm

/-- A plan settles nothing but rejections, or has a rule on its list that judges the reservation,
always, for a machine or none; and such a machine is named, and the inventory knows it. -/
def Plan.JudgesReservation (services : Services) (disk : Disk) (vmId? : Option Uuid) : Plan → Prop
  | .settled verdict => verdict ≠ .accepted
  | .checks steps => ∃ vm? : Option Vm,
    (⟨"scsi_reservation", true, .done (DiskRule.scsiReservationValid disk vm?)⟩ : Step) ∈ steps ∧
      ∀ vm, vm? = some vm → ∃ v, vmId? = some v ∧ services.KnowVm disk.id v

namespace Operation

variable {op : Operation}

theorem keeps_judgesReservation (hop : op.presented? = some disk) :
    op.plan.Keeps (fun q a => ∃ asked, services asked q = .ok a) (fun _ => True)
      (Plan.JudgesReservation services disk op.vmId?) := by
  have hrejected (reason : Reason) :
      Plan.JudgesReservation services disk op.vmId? (.rejected reason) :=
    Verdict.reject_ne_accepted reason
  cases op with
  | attachDisk requested vmId snapshotId =>
    cases hop
    refine keeps_attachPlan hrejected trivial trivial trivial fun vm stored attachments hvm => ?_
    obtain ⟨asked, hfound⟩ := hvm
    exact ⟨some vm, by simp [attachSteps], fun _ _ => ⟨vmId, rfl, .found hfound⟩⟩
  | updateDisk proposed vmId =>
    cases hop
    refine keeps_updateDiskPlan hrejected trivial trivial (fun _ _ => trivial)
      fun stored vm? attachments hgiven hnamed => ?_
    obtain ⟨asked, hlist⟩ := hgiven
    refine ⟨vm?, by simp [updateDiskSteps], fun vm hvm => ?_⟩
    obtain ⟨hid, a, hmem⟩ := hnamed vm hvm
    exact ⟨vm.id, hid, .listed hlist hmem rfl⟩
  | updateVm => cases hop
  | detachDisk => cases hop
  | removeDisk => cases hop
  | removeDiskSnapshots => cases hop

/-- An operation that is accepted has passed the rule about reservations. -/
theorem exists_scsiReservationValid_of_accepted {asked : List Query}
    (hop : op.presented? = some disk) (hacc : (op.decision services asked).result = .ok .accepted) :
    ∃ vm? : Option Vm, DiskRule.scsiReservationValid disk vm? = .accepted ∧
      ∀ vm, vm? = some vm → ∃ v, op.vmId? = some v ∧ services.KnowVm disk.id v := by
  unfold decision at hacc
  rcases hload : op.plan.run services asked with ⟨fault | plan, after⟩
  · rw [hload] at hacc
    cases hacc
  · rw [hload] at hacc
    have hplan : plan.JudgesReservation services disk op.vmId? :=
      (keeps_judgesReservation hop).of_run (fun before q a ha => ⟨before, ha⟩) hload
    cases plan with
    | settled verdict => exact absurd (Except.ok.inj hacc) hplan
    | checks steps =>
      obtain ⟨vm?, hstep, hknown⟩ := hplan
      obtain ⟨_, _, hrun⟩ := Step.exists_run_of_foldl_accepted hacc hstep rfl
      exact ⟨vm?, Except.ok.inj (congrArg Prod.fst hrun), hknown⟩

end Operation

/-- **Requests for reservations.** Let an operation attach or update a disk with a request for a
SCSI reservation, and be accepted. By any services, and whatever they answer, its SGIO is then not
filtered, and the operation names a machine that the inventory knows. By tables, the machine is
stored. -/
theorem reservation_requests_accepted {op : Operation} (hop : op.presented? = some disk)
    (hr : disk.requestsReservation = true) :
    (∀ services asked, (op.decision services asked).result = .ok .accepted →
      disk.sgio ≠ some .filtered ∧ ∃ v, op.vmId? = some v ∧ services.KnowVm disk.id v) ∧
    (∀ inv c, op.judge inv c = .ok .accepted →
      disk.sgio ≠ some .filtered ∧ ∃ v vm, op.vmId? = some v ∧ inv.vm? v = some vm) := by
  have hany (services : Services) (asked : List Query)
      (hacc : (op.decision services asked).result = .ok .accepted) :
      disk.sgio ≠ some .filtered ∧ ∃ v, op.vmId? = some v ∧ services.KnowVm disk.id v := by
    obtain ⟨vm?, hvalid, hknown⟩ := Operation.exists_scsiReservationValid_of_accepted hop hacc
    rw [DiskRule.scsiReservationValid_eq, hr] at hvalid
    cases vm? with
    | none => simp at hvalid
    | some vm => exact ⟨by simpa using hvalid, hknown vm rfl⟩
  refine ⟨hany, fun inv c hacc => ?_⟩
  obtain ⟨hsgio, v, hv, hknown⟩ := hany _ _ hacc
  obtain ⟨vm, hvm⟩ := hknown.exists_vm?
  exact ⟨hsgio, v, vm, hv, hvm⟩

/-! ## SGIO that is not set -/

theorem DiskRule.interfaceCompatibility_sgio_unset (himage : disk.storageType ≠ .image)
    (vm? : Option Vm) :
    interfaceCompatibility { disk with sgio := none } vm? =
      interfaceCompatibility { disk with sgio := some .unfiltered } vm? := by
  have hunfiltered : ¬ ((some ScsiGenericIo.unfiltered).isSome = true ∧
      ({ disk with sgio := some .unfiltered } : Disk).storageType = .image) := fun h => himage h.2
  unfold interfaceCompatibility
  rw [if_neg hunfiltered]
  rfl

theorem DiskRule.scsiReservationValid_sgio_unset (disk : Disk) (vm? : Option Vm) :
    scsiReservationValid { disk with sgio := none } vm? =
      scsiReservationValid { disk with sgio := some .unfiltered } vm? := by
  rw [scsiReservationValid_eq, scsiReservationValid_eq]
  rfl

/-- A disk that is not on an image is attached with SGIO left unset as with unfiltered SGIO: by any
services, with the same result, the same queries and the same log. -/
theorem Operation.attachDisk_unset_as_unfiltered (himage : disk.storageType ≠ .image) (vmId : Uuid)
    (snapshotId : Option Uuid) :
    (attachDisk { disk with sgio := none } vmId snapshotId).decision =
      (attachDisk { disk with sgio := some .unfiltered } vmId snapshotId).decision := by
  have hsteps (stored : Disk) (vm : Vm) (attachments : List (Vm × Attachment)) :
      attachSteps stored { disk with sgio := none } vmId vm snapshotId attachments =
        attachSteps stored { disk with sgio := some .unfiltered } vmId vm snapshotId
          attachments := by
    unfold attachSteps
    rw [DiskRule.interfaceCompatibility_sgio_unset himage, DiskRule.scsiReservationValid_sgio_unset]
    rfl
  refine decision_congr ?_ rfl rfl
  simp only [plan, attachPlan, hsteps]

/-! ## Disks to try it with -/

namespace ReservationRequests

/-- The LUN with SGIO left unset. -/
def unset (usingScsiReservation : Bool) : Disk :=
  { Reservations.lun usingScsiReservation with sgio := none }

/-- The LUN, with SGIO left unset, is plugged into a machine that stays on its host. -/
def holding : Inventory :=
  { Usability.alone Reservations.pinned with disks := [unset false] }

end ReservationRequests

section Requesting

open Reservations ReservationRequests

/-- A LUN with unfiltered SGIO is attached with a reservation, to a machine that is stored. -/
theorem reservation_requests_accepted_for_pinned :
    (Operation.attachDisk (lun true) pinned.id none).judge (inventory pinned) .builtIn =
      .ok .accepted ∧
    (lun true).sgio ≠ some .filtered ∧
    ∃ vm, (inventory pinned).vm? pinned.id = some vm := by
  have hacc : (Operation.attachDisk (lun true) pinned.id none).judge (inventory pinned) .builtIn =
      .ok .accepted := by
    decide +kernel
  obtain ⟨hsgio, _, vm, ⟨⟩, hvm⟩ := (reservation_requests_accepted rfl rfl).2 _ _ hacc
  exact ⟨hacc, hsgio, vm, hvm⟩

/-- With SGIO left unset, a LUN is attached with a reservation, and one that is attached is updated
to request one. Neither is accepted with filtered SGIO. -/
theorem reservation_without_sgio :
    (unset true).requestsReservation = true ∧ (unset true).sgio = none ∧
    ((Operation.attachDisk (unset true) pinned.id none).judge (inventory pinned) .builtIn =
        .ok .accepted ∧
      (Operation.attachDisk { unset true with sgio := some .filtered } pinned.id none).judge
          (inventory pinned) .builtIn =
        .ok (.reject .sgioIsFiltered)) ∧
    ((Operation.updateDisk (unset true) (some pinned.id)).judge holding .builtIn = .ok .accepted ∧
      (Operation.updateDisk { unset true with sgio := some .filtered } (some pinned.id)).judge
          holding .builtIn =
        .ok (.reject .sgioIsFiltered)) := by
  refine ⟨rfl, rfl, ⟨?_, ?_⟩, ?_, ?_⟩
  all_goals decide +kernel

end Requesting

end VmAdmission
