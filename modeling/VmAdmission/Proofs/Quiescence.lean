import VmAdmission.Proofs.Catalog.AttachDisk
import VmAdmission.Proofs.Catalog.Removal
import VmAdmission.Proofs.Usability

/-!
# Quieter inventories

An inventory grows quieter as machines go down, attachments are unplugged or give up a reservation,
and controllers are added (`Inventory.QuietsTo`). What the rules ask of the rows only becomes easier
to satisfy: rows are found where they were, with the same identifiers, and whatever is plugged in
or reserved was so before. `quieting_keeps_acceptance`: what is accepted is accepted of every
quieter inventory.
-/

namespace VmAdmission

/-! ## Rows side by side -/

section Lists

variable {α β : Type} {R : α → β → Prop} {xs : List α} {ys : List β}

theorem exists_mem_left_of_forall₂ (h : List.Forall₂ R xs ys) {y : β} (hy : y ∈ ys) :
    ∃ x ∈ xs, R x y := by
  induction h with
  | nil => exact absurd hy List.not_mem_nil
  | cons hxy _ ih =>
    rcases List.mem_cons.1 hy with rfl | hy
    · exact ⟨_, List.mem_cons_self, hxy⟩
    · obtain ⟨x, hx, hxy⟩ := ih hy
      exact ⟨x, List.mem_cons_of_mem _ hx, hxy⟩

theorem exists_mem_right_of_forall₂ (h : List.Forall₂ R xs ys) {x : α} (hx : x ∈ xs) :
    ∃ y ∈ ys, R x y :=
  exists_mem_left_of_forall₂ h.flip hx

/-- Beside what is found first on one side stands what is found first on the other. -/
theorem exists_find?_right_of_forall₂ (h : List.Forall₂ R xs ys) {p : α → Bool} {q : β → Bool}
    (hpq : ∀ x y, R x y → q y = p x) {x : α} (hx : xs.find? p = some x) :
    ∃ y, ys.find? q = some y ∧ R x y := by
  induction h with
  | nil => cases hx
  | @cons x₀ y₀ xs ys hxy _ ih =>
    rw [List.find?_cons] at hx
    rw [List.find?_cons, hpq x₀ y₀ hxy]
    cases hp : p x₀ with
    | false =>
      rw [hp] at hx
      exact ih hx
    | true =>
      rw [hp] at hx
      cases hx
      exact ⟨y₀, rfl, hxy⟩

end Lists

/-! ## Quieter rows -/

/-- A machine is as it was, or it has gone down. -/
inductive Vm.QuietsTo (vm : Vm) : Vm → Prop
  | same : QuietsTo vm vm
  | down : QuietsTo vm { vm with status := .down }

/-- An attachment is where it was, and is plugged or holds a reservation only if it did. -/
structure Attachment.QuietsTo (a a' : Attachment) : Prop where
  vmId : a'.vmId = a.vmId
  diskId : a'.diskId = a.diskId
  snapshotId : a'.snapshotId = a.snapshotId
  plugged : a'.plugged = true → a.plugged = true
  reservation : a'.usingScsiReservation = true → a.usingScsiReservation = true

/-- Row by row, machines and attachments have grown quieter; no controller is lost, and the other
tables are as they were. -/
structure Inventory.QuietsTo (inv inv' : Inventory) : Prop where
  vms : List.Forall₂ Vm.QuietsTo inv.vms inv'.vms
  clusters : inv'.clusters = inv.clusters
  hosts : inv'.hosts = inv.hosts
  disks : inv'.disks = inv.disks
  attachments : List.Forall₂ Attachment.QuietsTo inv.attachments inv'.attachments
  controllers : inv.controllers ⊆ inv'.controllers

namespace Vm.QuietsTo

variable {vm vm' : Vm} (h : vm.QuietsTo vm')

include h

theorem id : vm'.id = vm.id := by cases h <;> rfl

theorem name : vm'.name = vm.name := by cases h <;> rfl

theorem storagePoolId : vm'.storagePoolId = vm.storagePoolId := by cases h <;> rfl

theorem clusterId : vm'.clusterId = vm.clusterId := by cases h <;> rfl

theorem origin : vm'.origin = vm.origin := by cases h <;> rfl

theorem isHostedEngine : vm'.isHostedEngine = vm.isHostedEngine := by cases h <;> rfl

theorem status (hdown : vm.status = .down) : vm'.status = .down := by
  cases h with
  | same => exact hdown
  | down => rfl

theorem supportsInterface {c : Capabilities} {i : DiskInterface} (hs : SupportsInterface c vm i) :
    SupportsInterface c vm' i := by
  cases h <;> exact hs

end Vm.QuietsTo

namespace Inventory.QuietsTo

variable {inv inv' : Inventory} {c : Capabilities} {id diskId vmId : Uuid} (h : inv.QuietsTo inv')

include h

/-! ## Rows that are found -/

theorem cluster? : inv'.cluster? id = inv.cluster? id := by
  rw [Inventory.cluster?, h.clusters]
  rfl

theorem host? : inv'.host? id = inv.host? id := by
  rw [Inventory.host?, h.hosts]
  rfl

theorem disk? : inv'.disk? id = inv.disk? id := by
  rw [Inventory.disk?, h.disks]
  rfl

theorem exists_vm? {vm : Vm} (hvm : inv.vm? id = some vm) :
    ∃ vm', inv'.vm? id = some vm' ∧ vm.QuietsTo vm' :=
  exists_find?_right_of_forall₂ h.vms (fun vm vm' hq => by rw [hq.id]) hvm

theorem exists_vm?_before {vm' : Vm} (hvm : inv'.vm? id = some vm') :
    ∃ vm, inv.vm? id = some vm ∧ vm.QuietsTo vm' :=
  exists_find?_right_of_forall₂ h.vms.flip (fun vm' vm hq => by rw [hq.id]) hvm

theorem exists_isAttachmentOf {a : Attachment} (ha : inv.IsAttachmentOf diskId a) :
    ∃ a', inv'.IsAttachmentOf diskId a' ∧ a.QuietsTo a' := by
  obtain ⟨a', ha', hq⟩ := exists_mem_right_of_forall₂ h.attachments ha.1
  exact ⟨a', ⟨ha', hq.diskId.trans ha.2⟩, hq⟩

theorem exists_isAttachmentOf_before {a' : Attachment} (ha : inv'.IsAttachmentOf diskId a') :
    ∃ a, inv.IsAttachmentOf diskId a ∧ a.QuietsTo a' := by
  obtain ⟨a, hmem, hq⟩ := exists_mem_left_of_forall₂ h.attachments ha.1
  exact ⟨a, ⟨hmem, hq.diskId.symm.trans ha.2⟩, hq⟩

theorem exists_isPluggedInto_before {a' : Attachment} (ha : inv'.IsPluggedInto vmId a') :
    ∃ a, inv.IsPluggedInto vmId a ∧ a.QuietsTo a' := by
  obtain ⟨hmem, hvm, hs, hplugged⟩ := ha
  obtain ⟨a, ha, hq⟩ := exists_mem_left_of_forall₂ h.attachments hmem
  exact ⟨a, ⟨ha, hq.vmId.symm.trans hvm, hq.snapshotId.symm.trans hs, hq.plugged hplugged⟩, hq⟩

theorem exists_activeRow? {a : Attachment} (ha : inv.activeRow? diskId vmId = some a) :
    ∃ a', inv'.activeRow? diskId vmId = some a' ∧ a.QuietsTo a' := by
  have hrows : List.Forall₂ Attachment.QuietsTo (inv.attachmentRows diskId)
      (inv'.attachmentRows diskId) :=
    List.rel_filter (fun a a' hq => by simp [hq.diskId]) h.attachments
  exact exists_find?_right_of_forall₂ hrows (fun a a' hq => by rw [hq.vmId, hq.snapshotId]) ha

theorem isAttached_iff {snapshotId : Option Uuid} :
    inv'.IsAttached diskId vmId snapshotId ↔ inv.IsAttached diskId vmId snapshotId := by
  constructor
  · rintro ⟨a', ha', hvm, hs⟩
    obtain ⟨a, ha, hq⟩ := h.exists_isAttachmentOf_before ha'
    exact ⟨a, ha, hq.vmId.symm.trans hvm, hq.snapshotId.symm.trans hs⟩
  · rintro ⟨a, ha, hvm, hs⟩
    obtain ⟨a', ha', hq⟩ := h.exists_isAttachmentOf ha
    exact ⟨a', ha', hq.vmId.trans hvm, hq.snapshotId.trans hs⟩

/-! ## What is asked of them -/

/-- The disk's attachments can be joined as before. -/
theorem joined (hjoined : ∀ a, inv.IsAttachmentOf diskId a → ∃ w, inv.vm? a.vmId = some w) :
    ∀ a', inv'.IsAttachmentOf diskId a' → ∃ w, inv'.vm? a'.vmId = some w := by
  intro a' ha'
  obtain ⟨a, ha, hq⟩ := h.exists_isAttachmentOf_before ha'
  obtain ⟨vm, hvm⟩ := hjoined a ha
  obtain ⟨vm', hvm', -⟩ := h.exists_vm? hvm
  exact ⟨vm', hq.vmId ▸ hvm'⟩

/-- A disk that was plugged into no running machine, of the attachments in question, is plugged into
none. -/
theorem not_running {p : Option Uuid → Prop}
    (hrunning : ∀ a vm, inv.IsAttachmentOf diskId a → inv.vm? a.vmId = some vm → p a.snapshotId →
      a.plugged = true → vm.status = .down) :
    ∀ a' vm', inv'.IsAttachmentOf diskId a' → inv'.vm? a'.vmId = some vm' → p a'.snapshotId →
      a'.plugged = true → vm'.status = .down := by
  intro a' vm' ha' hvm' hp hplugged
  obtain ⟨a, ha, hq⟩ := h.exists_isAttachmentOf_before ha'
  rw [hq.vmId] at hvm'
  rw [hq.snapshotId] at hp
  obtain ⟨vm, hvm, hquiets⟩ := h.exists_vm?_before hvm'
  exact hquiets.status (hrunning a vm ha hvm hp (hq.plugged hplugged))

theorem hasVirtioScsi {vm vm' : Vm} (hquiets : vm.QuietsTo vm') (hscsi : HasVirtioScsi inv c vm) :
    HasVirtioScsi inv' c vm' := by
  obtain ⟨hfeature, ctl, hctl, hvm, hkind⟩ := hscsi
  refine ⟨?_, ctl, h.controllers hctl, hvm.trans hquiets.id.symm, hkind⟩
  cases hquiets <;> exact hfeature

/-! ## The rules together -/

theorem attachable {stored requested : Disk} {vm vm' : Vm} {snapshotId : Option Uuid}
    (hquiets : vm.QuietsTo vm') (ha : Attachable inv c stored requested vm snapshotId) :
    Attachable inv' c stored requested vm' snapshotId :=
  { ha with
    not_attached := by
      rw [h.isAttached_iff, hquiets.id]
      exact ha.not_attached
    virtioScsi := fun hi => ⟨(ha.virtioScsi hi).1, h.hasVirtioScsi hquiets (ha.virtioScsi hi).2⟩
    interface := hquiets.supportsInterface ha.interface }

theorem diskUpdatable {stored proposed : Disk} {vmId? : Option Uuid}
    (hu : DiskUpdatable inv c stored proposed (vmId?.bind inv.vm?)) :
    DiskUpdatable inv' c stored proposed (vmId?.bind inv'.vm?) := by
  have hbefore {vm' : Vm} (hvm : vmId?.bind inv'.vm? = some vm') :
      ∃ vm, vmId?.bind inv.vm? = some vm ∧ vm.QuietsTo vm' := by
    obtain ⟨vmId, rfl, hvm⟩ := Option.bind_eq_some_iff.1 hvm
    exact h.exists_vm?_before hvm
  have hfound (hvm : (vmId?.bind inv.vm?).isSome = true) :
      (vmId?.bind inv'.vm?).isSome = true := by
    obtain ⟨vm, hvm⟩ := Option.isSome_iff_exists.1 hvm
    obtain ⟨vmId, rfl, hvm⟩ := Option.bind_eq_some_iff.1 hvm
    obtain ⟨vm', hvm', -⟩ := h.exists_vm? hvm
    exact Option.isSome_iff_exists.2 ⟨vm', hvm'⟩
  exact
    { hu with
      virtioScsi := fun hi => by
        obtain ⟨hsgio, hmachine⟩ := hu.virtioScsi hi
        refine ⟨hsgio, fun vm' hvm' => ?_⟩
        obtain ⟨vm, hvm, hquiets⟩ := hbefore hvm'
        obtain ⟨hscsi, hsupports⟩ := hmachine vm hvm
        exact ⟨h.hasVirtioScsi hquiets hscsi, hquiets.supportsInterface hsupports⟩
      interface := fun hchanged vm' hvm' => by
        obtain ⟨vm, hvm, hquiets⟩ := hbefore hvm'
        exact hquiets.supportsInterface (hu.interface hchanged vm hvm)
      reservation := fun lun hlun hreserved =>
        (hu.reservation lun hlun hreserved).imp_left hfound
      running := fun hchanged a' vm' ha' hvm' =>
        h.not_running (p := fun _ => True) (fun a vm ha hvm _ => hu.running hchanged a vm ha hvm)
          a' vm' ha' hvm' trivial }

theorem removable {disk : Disk} (hr : Removable inv disk) : Removable inv' disk where
  not_store := hr.not_store
  not_protected := by
    intro a' vm' ha' hvm'
    obtain ⟨a, ha, hq⟩ := h.exists_isAttachmentOf_before ha'
    obtain ⟨vm, hvm, hquiets⟩ := h.exists_vm?_before hvm'
    rw [hquiets.isHostedEngine]
    exact hr.not_protected a vm ha (hq.vmId ▸ hvm)
  not_running := fun a' vm' ha' hvm' =>
    h.not_running (p := fun _ => True) (fun a vm ha hvm _ => hr.not_running a vm ha hvm)
      a' vm' ha' hvm' trivial

theorem snapshotsRemovable {disk : Disk} (hr : SnapshotsRemovable inv disk) :
    SnapshotsRemovable inv' disk where
  not_store := hr.not_store
  not_running := h.not_running (p := fun snapshotId => snapshotId.isSome = true) hr.not_running

theorem admissible {os : OsEntry} {current current' proposed : Vm} {cluster : Cluster}
    {enabled : Option Bool} (hquiets : current.QuietsTo current')
    (ha : VmChange.Admissible inv c os ⟨current, proposed, cluster⟩ enabled) :
    VmChange.Admissible inv' c os ⟨current', proposed, cluster⟩ enabled where
  name := ha.name
  memory := ha.memory
  monitors := ha.monitors
  topology := ha.topology
  name_free := by
    refine ha.name_free.imp (fun hsame => hsame.trans hquiets.name.symm) fun hfree vm' hvm' => ?_
    obtain ⟨vm, hvm, hq⟩ := exists_mem_left_of_forall₂ h.vms hvm'
    rw [hq.storagePoolId, hq.name, hquiets.storagePoolId]
    exact hfree vm hvm
  cluster_kept := ha.cluster_kept.trans hquiets.clusterId.symm
  hosts := fun id hid => by
    rw [h.host?]
    exact ha.hosts id hid
  cpu := ha.cpu
  virtioScsi_unused := by
    intro hoff a' ha'
    obtain ⟨a, hplugged, hq⟩ := h.exists_isPluggedInto_before ha'
    rw [h.disk?, hq.diskId]
    exact ha.virtioScsi_unused hoff a (hquiets.id ▸ hplugged)
  virtioScsi_supported := ha.virtioScsi_supported
  editable := by
    rw [hquiets.origin]
    exact ha.editable
  reservation_free := by
    intro hmigratable a' ha'
    obtain ⟨a, hplugged, hq⟩ := h.exists_isPluggedInto_before ha'
    obtain ⟨hdisk, hfree⟩ := ha.reservation_free hmigratable a (hquiets.id ▸ hplugged)
    rw [h.disk?, hq.diskId]
    refine ⟨hdisk, Bool.eq_false_iff.2 fun hreserved => ?_⟩
    exact Bool.eq_false_iff.1 hfree (hq.reservation hreserved)

end Inventory.QuietsTo

theorem Detachable.quiets {disk : Disk} {vm vm' : Vm} {a a' : Attachment}
    (hd : Detachable disk vm a) (hvm : vm.QuietsTo vm') (ha : a.QuietsTo a') :
    Detachable disk vm' a' where
  not_store := hd.not_store
  not_protected := by
    rw [hvm.isHostedEngine]
    exact hd.not_protected
  not_running := fun hplugged => hvm.status (hd.not_running (ha.plugged hplugged))

/-! ## Acceptance -/

/-- **Quieter inventories.** Whatever is accepted by an inventory is accepted by each that comes of
it as any of its machines go down, any of its attachments are unplugged or give up their
reservation, and any controllers are added. -/
theorem quieting_keeps_acceptance {inv inv' : Inventory} {c : Capabilities} {op : Operation}
    (h : inv.QuietsTo inv') (hacc : op.judge inv c = .ok .accepted) :
    op.judge inv' c = .ok .accepted := by
  cases op with
  | updateVm u =>
    obtain ⟨current, cluster, os, hvm, hcluster, hos, hadmissible⟩ :=
      Operation.updateVm_accepted_iff.1 hacc
    obtain ⟨current', hvm', hquiets⟩ := h.exists_vm? hvm
    refine Operation.updateVm_accepted_iff.2 ⟨current', cluster, os, hvm', ?_, hos,
      h.admissible hquiets hadmissible⟩
    rw [h.cluster?, hquiets.clusterId]
    exact hcluster
  | attachDisk disk vmId snapshotId =>
    obtain ⟨vm, stored, hvm, hdisk, hjoined, hattachable⟩ :=
      Operation.attachDisk_accepted_iff.1 hacc
    obtain ⟨vm', hvm', hquiets⟩ := h.exists_vm? hvm
    exact Operation.attachDisk_accepted_iff.2 ⟨vm', stored, hvm', h.disk?.trans hdisk,
      h.joined hjoined, h.attachable hquiets hattachable⟩
  | updateDisk disk vmId =>
    obtain ⟨stored, hdisk, hjoined, hattached, hupdatable⟩ :=
      Operation.updateDisk_accepted_iff.1 hacc
    exact Operation.updateDisk_accepted_iff.2 ⟨stored, h.disk?.trans hdisk, h.joined hjoined,
      fun v hv => h.isAttached_iff.2 (hattached v hv), h.diskUpdatable hupdatable⟩
  | detachDisk diskId vmId =>
    obtain ⟨disk, vm, a, hdisk, hjoined, hvm, ha, hdetachable⟩ :=
      Operation.detachDisk_accepted_iff_row.1 hacc
    obtain ⟨vm', hvm', hquiets⟩ := h.exists_vm? hvm
    obtain ⟨a', ha', hq⟩ := h.exists_activeRow? ha
    exact Operation.detachDisk_accepted_iff_row.2 ⟨disk, vm', a', h.disk?.trans hdisk,
      h.joined hjoined, hvm', ha', hdetachable.quiets hquiets hq⟩
  | removeDisk diskId =>
    obtain ⟨disk, hdisk, hjoined, hremovable⟩ := Operation.removeDisk_accepted_iff.1 hacc
    exact Operation.removeDisk_accepted_iff.2 ⟨disk, h.disk?.trans hdisk, h.joined hjoined,
      h.removable hremovable⟩
  | removeDiskSnapshots diskId =>
    obtain ⟨disk, hdisk, hjoined, hremovable⟩ := Operation.removeDiskSnapshots_accepted_iff.1 hacc
    exact Operation.removeDiskSnapshots_accepted_iff.2 ⟨disk, h.disk?.trans hdisk,
      h.joined hjoined, h.snapshotsRemovable hremovable⟩

/-! ## A machine that goes down -/

namespace Quieting

open Usability

/-- A disk is plugged into two machines, and one of them is running. -/
def busy : Inventory := sharing HostedEngine.data linux [{ windows with status := .up }]

/-- The running machine has gone down, the disk is unplugged, and a controller is added. -/
def quiet : Inventory :=
  { shared with
    attachments := shared.attachments.map fun a => { a with plugged := false }
    controllers := ⟨windows.id, .virtioScsi⟩ :: shared.controllers }

theorem busy_quietsTo_quiet : busy.QuietsTo quiet where
  vms := .cons .same (.cons .down .nil)
  clusters := rfl
  hosts := rfl
  disks := rfl
  attachments := by
    have hsame : busy.attachments = shared.attachments := rfl
    rw [hsame]
    refine List.forall₂_map_right_iff.2 (List.forall₂_same.2 fun a _ => ?_)
    exact ⟨rfl, rfl, rfl, fun hplugged => absurd hplugged Bool.false_ne_true, id⟩
  controllers := List.subset_cons_of_subset _ (List.Subset.refl _)

end Quieting

open Usability Quieting in
/-- The disk is detached from the machine that is down, before and after the other one goes down. -/
theorem quieting_keeps_detachment :
    (Operation.detachDisk HostedEngine.data.id linux.id).judge busy .builtIn = .ok .accepted ∧
    (Operation.detachDisk HostedEngine.data.id linux.id).judge quiet .builtIn = .ok .accepted := by
  have hacc : (Operation.detachDisk HostedEngine.data.id linux.id).judge busy .builtIn =
      .ok .accepted := by
    decide +kernel
  exact ⟨hacc, quieting_keeps_acceptance busy_quietsTo_quiet hacc⟩

end VmAdmission
