import VmAdmission.Proofs.Catalog.UpdateVm
import VmAdmission.Proofs.Requests
import VmAdmission.Proofs.Run
import VmAdmission.Proofs.Usability

/-!
# SCSI reservations of migratable machines

A machine that holds a SCSI reservation through a disk cannot be migrated. An update that makes a
machine migratable looks for reservations; an attachment that brings one does not look at whether
the machine is migratable. So no migratable machine holds a reservation exactly as long as none is
attached to one (`reservations_stay_off_migratable_iff`), and one that is attached can be accepted,
after which the machine is refused any update that leaves it migratable
(`reservation_attached_to_migratable`).
-/

namespace VmAdmission

/-- An attachment is entered as it was requested: plugged, and with the reservation that the
request's LUN asks for. -/
def Proposal.AttachesAsRequested (p : Proposal) : Prop :=
  ∀ disk vmId snapshotId, p.operation = .attachDisk disk vmId snapshotId →
    p.choice.plugged = true ∧ p.choice.usingScsiReservation = disk.requestsReservation

namespace Inventory

/-- No migratable machine holds a SCSI reservation through a disk plugged into it. -/
def ReservationFree (inv : Inventory) : Prop :=
  ∀ vm ∈ inv.vms, vm.migrationSupport = .migratable →
    ∀ a, inv.IsPluggedInto vm.id a → a.usingScsiReservation = false

instance : DecidablePred ReservationFree := fun inv =>
  decidable_of_iff (∀ vm ∈ inv.vms, vm.migrationSupport = .migratable → ∀ a ∈ inv.attachments,
      a.vmId = vm.id ∧ a.snapshotId = none ∧ a.plugged = true → a.usingScsiReservation = false)
    (by simp only [ReservationFree, IsPluggedInto, and_imp])

/-- The operation attaches a disk with a reservation to a migratable machine itself. -/
def ReservesForMigratable (inv : Inventory) : Operation → Prop
  | .attachDisk disk vmId none => disk.requestsReservation = true ∧
      ∃ vm ∈ inv.vms, vm.id = vmId ∧ vm.migrationSupport = .migratable
  | _ => False

instance (inv : Inventory) : DecidablePred inv.ReservesForMigratable
  | .attachDisk _ _ none => inferInstanceAs (Decidable (_ ∧ _))
  | .attachDisk _ _ (some _) | .updateVm _ | .updateDisk _ _ | .detachDisk _ _ | .removeDisk _
  | .removeDiskSnapshots _ => inferInstanceAs (Decidable False)

variable {inv next : Inventory} {c : Capabilities} {choice : CommitChoice}

/-! ## One step -/

theorem ReservationFree.of_subset (h : inv.ReservationFree) (hvms : next.vms = inv.vms)
    (hrows : next.attachments ⊆ inv.attachments) : next.ReservationFree := by
  intro vm hvm hmigratable a ha
  exact h vm (hvms ▸ hvm) hmigratable a ⟨hrows ha.1, ha.2⟩

/-- An update that leaves a machine migratable is accepted only if it holds no reservation. -/
theorem ReservationFree.commit_updateVm (h : inv.ReservationFree) {u : VmUpdate}
    (hacc : (Operation.updateVm u).judge inv c = .ok .accepted) :
    (inv.commit choice (.updateVm u)).ReservationFree := by
  obtain ⟨current, cluster, os, hvm, -, -, hchange⟩ := Operation.updateVm_accepted_iff.1 hacc
  intro vm hmem hmigratable a ha
  obtain ⟨stored, hstored, rfl⟩ := List.mem_map.1 hmem
  by_cases hid : stored.id = u.vm.id
  · rw [if_pos hid] at hmigratable ha
    have hplugged : inv.IsPluggedInto current.id a := (id_of_vm? hvm).symm ▸ ha
    exact (hchange.reservation_free hmigratable a hplugged).2
  · rw [if_neg hid] at hmigratable ha
    exact h stored hstored hmigratable a ha

section Attach

variable {disk : Disk} {vmId : Uuid} {snapshotId : Option Uuid}

theorem isPluggedInto_commit_attachDisk {vm : Uuid} {a : Attachment} :
    (inv.commit choice (.attachDisk disk vmId snapshotId)).IsPluggedInto vm a ↔
      inv.IsPluggedInto vm a ∨
        a = ⟨vmId, disk.id, choice.plugged, snapshotId, choice.usingScsiReservation⟩ ∧
          vmId = vm ∧ snapshotId = none ∧ choice.plugged = true := by
  simp only [commit, IsPluggedInto, List.mem_append, List.mem_singleton]
  constructor
  · rintro ⟨ha | rfl, hrest⟩
    · exact .inl ⟨ha, hrest⟩
    · exact .inr ⟨rfl, hrest⟩
  · rintro (⟨ha, hrest⟩ | ⟨rfl, hrest⟩)
    · exact ⟨.inl ha, hrest⟩
    · exact ⟨.inr rfl, hrest⟩

/-- An attachment that is entered as requested breaks what holds exactly if it brings a reservation
to a migratable machine itself. -/
theorem reservationFree_commit_attachDisk_iff (h : inv.ReservationFree)
    (hplugged : choice.plugged = true)
    (hreservation : choice.usingScsiReservation = disk.requestsReservation) :
    (inv.commit choice (.attachDisk disk vmId snapshotId)).ReservationFree ↔
      ¬ inv.ReservesForMigratable (.attachDisk disk vmId snapshotId) := by
  constructor
  · intro hfree hreserves
    cases snapshotId with
    | some snapshot => exact hreserves
    | none =>
      obtain ⟨hrequested, vm, hvm, rfl, hmigratable⟩ := hreserves
      have hnone : choice.usingScsiReservation = false :=
        hfree vm hvm hmigratable _
          (isPluggedInto_commit_attachDisk.2 (.inr ⟨rfl, rfl, rfl, hplugged⟩))
      rw [hreservation, hrequested] at hnone
      cases hnone
  · intro hnot vm hvm hmigratable a ha
    rcases isPluggedInto_commit_attachDisk.1 ha with ha | ⟨rfl, rfl, rfl, -⟩
    · exact h vm hvm hmigratable a ha
    · by_contra hreserved
      rw [hreservation, Bool.not_eq_false] at hreserved
      exact hnot ⟨hreserved, vm, hvm, rfl, hmigratable⟩

end Attach

theorem reservationFree_commit_iff {p : Proposal} (h : inv.ReservationFree)
    (hp : p.AttachesAsRequested) (hacc : p.operation.judge inv c = .ok .accepted) :
    (inv.commit p.choice p.operation).ReservationFree ↔
      ¬ inv.ReservesForMigratable p.operation := by
  obtain ⟨op, choice⟩ := p
  cases op with
  | updateVm u => exact iff_of_true (h.commit_updateVm hacc) id
  | attachDisk disk vmId snapshotId =>
    obtain ⟨hplugged, hreservation⟩ := hp disk vmId snapshotId rfl
    exact reservationFree_commit_attachDisk_iff h hplugged hreservation
  | updateDisk disk vmId => exact iff_of_true (h.of_subset rfl fun _ ha => ha) id
  | detachDisk diskId vmId =>
    exact iff_of_true (h.of_subset rfl fun _ ha => (List.mem_filter.1 ha).1) id
  | removeDisk diskId =>
    exact iff_of_true (h.of_subset rfl fun _ ha => (List.mem_filter.1 ha).1) id
  | removeDiskSnapshots diskId =>
    exact iff_of_true (h.of_subset rfl fun _ ha => (List.mem_filter.1 ha).1) id

end Inventory

/-! ## Runs -/

/-- **Reservations of migratable machines.** Where no migratable machine holds a SCSI reservation
through a disk plugged into it, and attachments are entered as they are requested, this stays so all
along a run exactly if no accepted attachment brings a reservation to a machine that is migratable.
No other operation, an update that makes a machine migratable included, ever breaks it. -/
theorem reservations_stay_off_migratable_iff (inv : Inventory) (c : Capabilities)
    (ps : List Proposal) (h : inv.ReservationFree) (hps : ∀ p ∈ ps, p.AttachesAsRequested) :
    inv.Always c Inventory.ReservationFree ps ↔
      inv.Throughout c (fun inv op => ¬ inv.ReservesForMigratable op) ps := by
  refine Inventory.always_iff_throughout (fun before p hpre hacc hbefore => ?_) h
  have hmem : p ∈ ps := hpre.subset (List.mem_append_right _ (List.mem_singleton_self _))
  exact Inventory.reservationFree_commit_iff hbefore (hps p hmem) hacc

/-! ## A LUN that is reserved -/

namespace Reservations

/-- A LUN on VirtIO-SCSI that takes SCSI commands as they are. -/
def lun (usingScsiReservation : Bool) : Disk :=
  { Usability.scsiDisk with
    sgio := some .unfiltered
    backing := .lun ⟨"lun", usingScsiReservation⟩ }

/-- A machine with a VirtIO-SCSI controller, and a LUN that is not attached. -/
def inventory (vm : Vm) : Inventory :=
  { Usability.alone vm with
    disks := [lun false]
    attachments := [] }

/-- A machine that stays on its host. -/
def pinned : Vm := { Usability.linux with migrationSupport := .pinnedToHost }

/-- The LUN is attached to a machine, with a reservation. -/
def attach (vm : Vm) : Proposal where
  operation := .attachDisk (lun true) vm.id none
  choice := ⟨true, true, false, []⟩

theorem attachesAsRequested_attach (vm : Vm) : (attach vm).AttachesAsRequested := by
  rintro disk vmId snapshotId hop
  cases hop
  exact ⟨rfl, rfl⟩

theorem attachesAsRequested_update (vm : Vm) : (HostedEngine.update vm).AttachesAsRequested := by
  rintro disk vmId snapshotId hop
  cases hop

end Reservations

section Reserved

open Reservations

/-- A machine that stays on its host gets the reservation, and is then not made migratable. -/
theorem reservations_stay_off_migratable_for_pinned :
    (inventory pinned).accepted .builtIn [attach pinned, HostedEngine.update Usability.linux] =
        [.attachDisk (lun true) pinned.id none] ∧
      (inventory pinned).Always .builtIn Inventory.ReservationFree
        [attach pinned, HostedEngine.update Usability.linux] := by
  refine ⟨by decide +kernel, ?_⟩
  refine (reservations_stay_off_migratable_iff _ .builtIn _ (by decide) ?_).2 ?_
  · simp only [List.forall_mem_cons, List.not_mem_nil, false_implies, implies_true, and_true]
    exact ⟨attachesAsRequested_attach pinned, attachesAsRequested_update Usability.linux⟩
  · simp only [Inventory.throughout_cons, Inventory.throughout_nil, and_true]
    decide +kernel

/-- A migratable machine gets the reservation all the same, and is then refused an update that
changes nothing. -/
theorem reservation_attached_to_migratable :
    (inventory Usability.linux).UniqueIds ∧ (inventory Usability.linux).ReservationFree ∧
    (attach Usability.linux).AttachesAsRequested ∧
    (Operation.attachDisk (lun true) Usability.linux.id none).judge
        (inventory Usability.linux) .builtIn = .ok .accepted ∧
    ¬ ((inventory Usability.linux).run .builtIn [attach Usability.linux]).ReservationFree ∧
    (Operation.updateVm ⟨Usability.linux, none⟩).judge
        ((inventory Usability.linux).run .builtIn [attach Usability.linux]) .builtIn =
      .ok (.reject .vmUsesScsiReservation) := by
  refine ⟨⟨?_, ?_, ?_, ?_⟩, ?_, attachesAsRequested_attach _, ?_, ?_, ?_⟩
  · decide
  · decide
  · decide
  · decide
  · decide
  · decide +kernel
  · decide +kernel
  · decide +kernel

end Reserved

end VmAdmission
