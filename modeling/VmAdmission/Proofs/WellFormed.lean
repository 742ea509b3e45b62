import VmAdmission.Proofs.Catalog.AttachDisk
import VmAdmission.Proofs.Faults
import VmAdmission.Proofs.Run
import VmAdmission.Proofs.Usability
import Mathlib.Data.List.Nodup

/-!
# Well-formed inventories

An inventory is well formed if machines and disks have identifiers of their own, every attachment
names rows that are stored, and no disk is attached twice in one place. Every accepted operation
keeps it so: of the two that could break it, an attachment is refused where there is one already,
and a removal takes the disk's attachments along. A well-formed inventory answers every query, so
over a whole run the only faults are gaps in the capability tables (`inventory_stays_well_formed`).
-/

namespace VmAdmission

/-- Where an attachment is: the machine, the disk, and the snapshot that it goes through, if any. -/
def Attachment.place (a : Attachment) : Uuid × Uuid × Option Uuid :=
  (a.vmId, a.diskId, a.snapshotId)

namespace Inventory

/-- Identifiers are unique, attachments name stored rows, and no two are in the same place. -/
structure WellFormed (inv : Inventory) : Prop where
  vms : (inv.vms.map Vm.id).Nodup
  disks : (inv.disks.map Disk.id).Nodup
  no_dangling : inv.NoDangling
  places : (inv.attachments.map Attachment.place).Nodup

instance : DecidablePred NoDangling := fun inv =>
  inferInstanceAs (Decidable (∀ a ∈ inv.attachments, _))

instance : DecidablePred WellFormed := fun inv =>
  decidable_of_iff ((inv.vms.map Vm.id).Nodup ∧ (inv.disks.map Disk.id).Nodup ∧ inv.NoDangling ∧
      (inv.attachments.map Attachment.place).Nodup)
    ⟨fun ⟨hvms, hdisks, hstored, hplaces⟩ => ⟨hvms, hdisks, hstored, hplaces⟩,
      fun h => ⟨h.vms, h.disks, h.no_dangling, h.places⟩⟩

variable {inv next last : Inventory} {c : Capabilities} {op : Operation} {ops : List Operation}
  {choice : CommitChoice}

/-! ## One step -/

theorem noDangling_iff :
    inv.NoDangling ↔ ∀ a ∈ inv.attachments,
      a.vmId ∈ inv.vms.map Vm.id ∧ a.diskId ∈ inv.disks.map Disk.id := by
  unfold NoDangling
  simp only [isSome_vm?_iff, isSome_disk?_iff]

namespace WellFormed

/-- Taking rows away is harmless as long as no attachment loses its disk. -/
theorem of_sublist (h : inv.WellFormed) (hvms : next.vms.map Vm.id = inv.vms.map Vm.id)
    (hdisks : (next.disks.map Disk.id).Sublist (inv.disks.map Disk.id))
    (hrows : next.attachments.Sublist inv.attachments)
    (hkept : ∀ a ∈ next.attachments, a.diskId ∈ inv.disks.map Disk.id →
      a.diskId ∈ next.disks.map Disk.id) : next.WellFormed where
  vms := hvms ▸ h.vms
  disks := h.disks.sublist hdisks
  no_dangling := by
    refine noDangling_iff.2 fun a ha => ?_
    obtain ⟨hvm, hdisk⟩ := noDangling_iff.1 h.no_dangling a (hrows.subset ha)
    exact ⟨hvms ▸ hvm, hkept a ha hdisk⟩
  places := h.places.sublist (hrows.map _)

/-- An attachment is entered only between stored rows, and in a place that is free. -/
theorem commit_attachDisk (h : inv.WellFormed) {disk : Disk} {vmId : Uuid}
    {snapshotId : Option Uuid}
    (hacc : (Operation.attachDisk disk vmId snapshotId).judge inv c = .ok .accepted) :
    (inv.commit choice (.attachDisk disk vmId snapshotId)).WellFormed := by
  obtain ⟨vm, stored, hvm, hstored, -, hattachable⟩ := Operation.attachDisk_accepted_iff.1 hacc
  have hvms : (inv.commit choice (.attachDisk disk vmId snapshotId)).vms.map Vm.id =
      inv.vms.map Vm.id := map_id_vms_commit
  have hdisks : (inv.commit choice (.attachDisk disk vmId snapshotId)).disks.map Disk.id =
      inv.disks.map Disk.id := map_id_disks_commit (by simp)
  have hfree : (vmId, disk.id, snapshotId) ∉ inv.attachments.map Attachment.place := by
    intro hplace
    obtain ⟨a, ha, heq⟩ := List.mem_map.1 hplace
    obtain ⟨hv, hd, hs⟩ : a.vmId = vmId ∧ a.diskId = disk.id ∧ a.snapshotId = snapshotId := by
      simpa [Attachment.place] using heq
    exact hattachable.not_attached ⟨a, ⟨ha, hd⟩, hv.trans (id_of_vm? hvm).symm, hs⟩
  constructor
  · rw [hvms]
    exact h.vms
  · rw [hdisks]
    exact h.disks
  · rw [noDangling_iff, hvms, hdisks]
    intro a ha
    rcases List.mem_append.1 ha with ha | ha
    · exact noDangling_iff.1 h.no_dangling a ha
    · obtain rfl := List.mem_singleton.1 ha
      exact ⟨isSome_vm?_iff.1 (by simp [hvm]), isSome_disk?_iff.1 (by simp [hstored])⟩
  · have hplaces : (inv.attachments.map Attachment.place ++ [(vmId, disk.id, snapshotId)]).Nodup :=
      List.concat_eq_append ▸ h.places.concat hfree
    simpa only [commit, List.map_append, List.map_singleton, Attachment.place] using hplaces

theorem commit (h : inv.WellFormed) (hacc : op.judge inv c = .ok .accepted) :
    (inv.commit choice op).WellFormed := by
  -- every operation but a removal leaves the disks' identifiers as they are
  have hkept (hop : ∀ diskId, op ≠ .removeDisk diskId)
      (hrows : (inv.commit choice op).attachments.Sublist inv.attachments) :
      (inv.commit choice op).WellFormed := by
    have hdisks : (inv.commit choice op).disks.map Disk.id = inv.disks.map Disk.id :=
      map_id_disks_commit hop
    refine h.of_sublist map_id_vms_commit ?_ hrows fun a _ hdisk => ?_
    · rw [hdisks]
    · rwa [hdisks]
  cases op with
  | updateVm u => exact hkept (by simp) (List.Sublist.refl _)
  | attachDisk disk vmId snapshotId => exact h.commit_attachDisk hacc
  | updateDisk disk vmId => exact hkept (by simp) (List.Sublist.refl _)
  | detachDisk diskId vmId => exact hkept (by simp) List.filter_sublist
  | removeDisk diskId =>
    refine h.of_sublist map_id_vms_commit (List.filter_sublist.map _) List.filter_sublist ?_
    intro a ha hdisk
    have hother : a.diskId ≠ diskId := by simpa using (List.mem_filter.1 ha).2
    obtain ⟨disk, hmem, hid⟩ := List.mem_map.1 hdisk
    refine List.mem_map.2 ⟨disk, List.mem_filter.2 ⟨hmem, ?_⟩, hid⟩
    simpa [hid] using hother
  | removeDiskSnapshots diskId => exact hkept (by simp) List.filter_sublist

end WellFormed

/-! ## Answers -/

/-- Where no attachment dangles, every query to the inventory is answered. -/
theorem NoDangling.exists_answer (h : inv.NoDangling) (q : InventoryQuery) :
    ∃ a, inv.answer q = .ok a := by
  cases q with
  | vm id => exact ⟨_, rfl⟩
  | cluster id => exact ⟨_, rfl⟩
  | host id => exact ⟨_, rfl⟩
  | disk id => exact ⟨_, rfl⟩
  | attachmentsOf disk =>
    exact exists_attachmentsOf_iff.2 fun a ha => Option.isSome_iff_exists.1 (h a ha.1).1
  | disksOf vm onlyPlugged =>
    refine exists_mapM_eq_ok_iff.2 fun a ha => ?_
    obtain ⟨disk, hdisk⟩ := Option.isSome_iff_exists.1 (h a (List.mem_filter.1 ha).1).2
    exact ⟨(disk, a), withDisk_eq_ok_iff.2 ⟨hdisk, rfl⟩⟩
  | isNameInUse name pool => exact ⟨_, rfl⟩
  | hasController vm kind => exact ⟨_, rfl⟩

end Inventory

/-- The tables have no answer, and the fault says to what. -/
def Capabilities.Lacks (c : Capabilities) (fault : Fault) : Prop :=
  (∃ id, fault = .unknownOs id ∧ c.os? id = none) ∨
    ∃ setting v, fault = .missingSetting setting v ∧ c.settings.limit? setting v = none

namespace Capabilities

variable {c : Capabilities} {fault : Fault}

theorem lacks_of_answerOs_eq_error {q : OsQuery} (h : c.answerOs q = .error fault) :
    c.Lacks fault := by
  obtain ⟨hnone, rfl⟩ := answerOs_eq_error_iff.1 h
  exact .inl ⟨q.osId, rfl, hnone⟩

theorem lacks_of_answerSettings_eq_error {q : SettingsQuery}
    (h : c.answerSettings q = .error fault) : c.Lacks fault := by
  cases q with
  | limit setting v =>
    obtain ⟨hnone, rfl⟩ := answerSettings_limit_eq_error_iff.1 h
    exact .inr ⟨setting, v, rfl, hnone⟩
  | supportsFeature f v => cases h
  | maxNameLength isWindows => cases h
  | minMemory => cases h
  | monitorCounts => cases h
  | allowsProtectedEditing => cases h

end Capabilities

/-- The fault of a judgement is that of one of the queries put for it. -/
theorem Operation.exists_query_of_judge_eq_error {op : Operation} {inv : Inventory}
    {c : Capabilities} {fault : Fault} (h : op.judge inv c = .error fault) :
    ∃ q, Answers.ofTables inv c q = .error fault := by
  have hdecision : (Answers.ofTables inv c).toServices.AccountFor [] (op.judge inv c)
      (op.decision (Answers.ofTables inv c).toServices []).asked := op.accountFor_decision
  obtain ⟨calls, -, hcalls⟩ := hdecision
  rw [h] at hcalls
  obtain ⟨before, q, -, hq⟩ := hcalls.exists_last
  exact ⟨q, hq⟩

/-- Judged by a well-formed inventory, nothing but a gap in the capability tables is a fault. -/
theorem Inventory.WellFormed.lacks_of_judge_eq_error {op : Operation} {inv : Inventory}
    {c : Capabilities} {fault : Fault} (h : inv.WellFormed)
    (hfault : op.judge inv c = .error fault) : c.Lacks fault := by
  obtain ⟨q, hq⟩ := Operation.exists_query_of_judge_eq_error hfault
  cases q with
  | inventory q =>
    obtain ⟨a, ha⟩ := h.no_dangling.exists_answer q
    cases ha.symm.trans hq
  | os q => exact Capabilities.lacks_of_answerOs_eq_error hq
  | settings q => exact Capabilities.lacks_of_answerSettings_eq_error hq

/-! ## Runs -/

namespace Inventory

variable {inv next last : Inventory} {c : Capabilities} {op : Operation} {ops : List Operation}

/-- An operation is carried out as `commit` says, or by an update that replaces the machine's row
by any other with its identifier. -/
inductive CommitsTo (inv : Inventory) : Operation → Inventory → Prop
  | commit (choice : CommitChoice) (op : Operation) : CommitsTo inv op (inv.commit choice op)
  | replace (u : VmUpdate) (row : Vm → Vm) (controllers : List Controller)
      (hrow : ∀ vm, (row vm).id = u.vm.id) :
    CommitsTo inv (.updateVm u) { inv.mapVm u.vm.id row with controllers := controllers }

/-- Operations are judged one after another, each by the inventory that those before it left, and
those accepted are carried out. -/
inductive RunsTo (c : Capabilities) : Inventory → List Operation → Inventory → Prop
  | nil (inv : Inventory) : RunsTo c inv [] inv
  | accepted {inv next last : Inventory} {op : Operation} {ops : List Operation}
      (hacc : op.judge inv c = .ok .accepted) (hcommits : inv.CommitsTo op next)
      (hrest : RunsTo c next ops last) : RunsTo c inv (op :: ops) last
  | refused {inv last : Inventory} {op : Operation} {ops : List Operation}
      (hrefused : op.judge inv c ≠ .ok .accepted) (hrest : RunsTo c inv ops last) :
    RunsTo c inv (op :: ops) last

/-- The run of some proposals is one of their operations. -/
theorem runsTo_run (inv : Inventory) (ps : List Proposal) :
    RunsTo c inv (ps.map Proposal.operation) (inv.run c ps) := by
  induction ps generalizing inv with
  | nil => exact .nil inv
  | cons p ps ih =>
    rw [List.map_cons]
    by_cases hp : p.operation.judge inv c = .ok .accepted
    · rw [run_cons_of_accepted hp]
      exact .accepted hp (.commit p.choice p.operation) (ih _)
    · rw [run_cons_of_not_accepted hp]
      exact .refused hp (ih inv)

theorem WellFormed.of_commitsTo (h : inv.WellFormed) (hacc : op.judge inv c = .ok .accepted)
    (hcommits : inv.CommitsTo op next) : next.WellFormed := by
  cases hcommits with
  | commit choice => exact h.commit hacc
  | replace u row controllers hrow =>
    exact h.of_sublist (map_id_vms_mapVm fun vm _ => hrow vm) (List.Sublist.refl _)
      (List.Sublist.refl _) fun _ _ hdisk => hdisk

theorem WellFormed.of_runsTo (h : inv.WellFormed) (hrun : RunsTo c inv ops last) :
    last.WellFormed := by
  induction hrun with
  | nil => exact h
  | accepted hacc hcommits _ ih => exact ih (h.of_commitsTo hacc hcommits)
  | refused _ _ ih => exact ih h

end Inventory

/-- **Well-formed inventories.** However operations are proposed, and carried out where they are
accepted, an inventory that is well formed stays so. No operation of the run meets a fault of the
inventory: whichever is judged next, a fault is an operating system that the capability tables do
not know, or a limit that they do not set at a version. -/
theorem inventory_stays_well_formed (c : Capabilities) {inv last : Inventory}
    {ops : List Operation} (h : inv.WellFormed) (hrun : Inventory.RunsTo c inv ops last) :
    last.WellFormed ∧
      ∀ (op : Operation) (fault : Fault), op.judge last c = .error fault →
        (∃ id, fault = .unknownOs id ∧ c.os? id = none) ∨
          ∃ setting v, fault = .missingSetting setting v ∧
            c.settings.limit? setting v = none := by
  have hlast : last.WellFormed := h.of_runsTo hrun
  exact ⟨hlast, fun op fault hfault => hlast.lacks_of_judge_eq_error hfault⟩

/-! ## A run to try it with -/

namespace Refit

/-- A machine's disk is detached and attached again, once and once more, and then removed. -/
def moves : List Operation := [
  .detachDisk Usability.scsiDisk.id Usability.linux.id,
  .attachDisk Usability.scsiDisk Usability.linux.id none,
  .attachDisk Usability.scsiDisk Usability.linux.id none,
  .removeDisk Usability.scsiDisk.id]

/-- The moves as proposals; a new attachment is not plugged. -/
def proposals : List Proposal := moves.map fun op => ⟨op, ⟨false, false, false, []⟩⟩

/-- The inventory that the run is on: a machine with one disk. -/
def start : Inventory := Usability.alone Usability.linux

end Refit

open Refit in
/-- All moves but the second attachment in the same place are accepted. What is left holds no disk,
is well formed and meets no fault of its own. -/
theorem inventory_stays_well_formed_after_refit :
    start.WellFormed ∧ start.accepted .builtIn proposals = moves.eraseIdx 2 ∧
    (start.run .builtIn proposals).disks = [] ∧
    (start.run .builtIn proposals).WellFormed ∧
    ∀ (op : Operation) (fault : Fault),
      op.judge (start.run .builtIn proposals) .builtIn = .error fault →
        (∃ id, fault = .unknownOs id ∧ Capabilities.builtIn.os? id = none) ∨
          ∃ setting v, fault = .missingSetting setting v ∧
            Capabilities.builtIn.settings.limit? setting v = none := by
  have hstart : start.WellFormed := by decide +kernel
  refine ⟨hstart, by decide +kernel, by decide +kernel, ?_⟩
  exact inventory_stays_well_formed .builtIn hstart (Inventory.runsTo_run start proposals)

end VmAdmission
