import VmAdmission.Capabilities.BuiltIn
import VmAdmission.Proofs.Catalog.Removal
import VmAdmission.Proofs.Catalog.UpdateVm
import VmAdmission.Proofs.Run

/-!
# Disks of the hosted-engine machine

A disk that is attached to the machine that runs the management stack is neither detached from it
nor removed, over every run in which nothing releases it (`hostedEngine_disk_stays`). What releases
it is an update that gives the machine an ordinary origin, or one that makes the disk the LUN behind
the machine. A managed machine cannot be given another origin unless protected machines may be
edited; one that is not managed can (`hostedEngine_disk_released`). The disk of a managed machine,
too, can be made the LUN (`hostedEngine_disk_released_as_lun`).
-/

namespace VmAdmission

/-! ## What keeps a disk and what ends it -/

/-- The disk is attached to a hosted-engine machine itself, and is not the LUN behind it. -/
structure Inventory.HoldsForHostedEngine (inv : Inventory) (vm disk : Uuid) : Prop where
  attached : inv.IsAttached disk vm none
  hostedEngine : ∃ w, inv.vm? vm = some w ∧ w.isHostedEngine = true
  not_lun : ∀ d, inv.disk? disk = some d → d.isHostedEngineLun = false

/-- The operation gives the machine an ordinary origin, or makes the disk the LUN behind the
hosted-engine machine. -/
def Operation.Releases (vm disk : Uuid) : Operation → Prop
  | .updateVm u => u.vm.id = vm ∧ u.vm.isHostedEngine = false
  | .updateDisk d _ => d.id = disk ∧ d.isHostedEngineLun = true
  | _ => False

namespace Inventory.HoldsForHostedEngine

variable {inv : Inventory} {c : Capabilities} {vm disk : Uuid} {op : Operation}

/-! ## One step -/

theorem not_accepted (h : inv.HoldsForHostedEngine vm disk) (ht : op.TakesAway vm disk) :
    op.judge inv c ≠ .ok .accepted := by
  obtain ⟨⟨a, ha, rfl, -⟩, ⟨w, hw, hengine⟩, hlun⟩ := h
  intro hacc
  cases op with
  | detachDisk d v =>
    obtain ⟨rfl, rfl⟩ := ht
    obtain ⟨stored, attachments, joined, hd, hattachments, hjoined, hdetach⟩ :=
      Operation.detachDisk_accepted_iff.1 hacc
    have hvm := (Operation.of_activeAttachment?_eq_some hattachments hjoined).1
    cases hvm.symm.trans hw
    rcases hdetach.not_protected with hp | hp
    · exact absurd hp (by simp [hlun stored hd])
    · exact absurd hengine (by simp [hp])
  | removeDisk d =>
    obtain rfl := ht
    obtain ⟨stored, hd, -, hremove⟩ := Operation.removeDisk_accepted_iff.1 hacc
    rcases hremove.not_protected a w ((Inventory.id_of_disk? hd).symm ▸ ha) hw with hp | hp
    · exact absurd hp (by simp [hlun stored hd])
    · exact absurd hengine (by simp [hp])
  | updateVm u => exact ht
  | attachDisk d v s => exact ht
  | updateDisk d v => exact ht
  | removeDiskSnapshots d => exact ht

theorem hostedEngine_commit {choice : CommitChoice} (h : inv.HoldsForHostedEngine vm disk)
    (hr : ¬ op.Releases vm disk) :
    ∃ w, (inv.commit choice op).vm? vm = some w ∧ w.isHostedEngine = true := by
  obtain ⟨w, hw, hengine⟩ := h.hostedEngine
  by_cases hu : ∃ u, op = .updateVm u ∧ u.vm.id = vm
  · obtain ⟨u, rfl, hid⟩ := hu
    have hrow : w.id = u.vm.id := (Inventory.id_of_vm? hw).trans hid.symm
    rw [vm?_commit_updateVm, hw, Option.map_some, if_pos hrow]
    refine ⟨_, rfl, ?_⟩
    rw [Vm.isHostedEngine_updatedTo]
    by_contra hordinary
    exact hr ⟨hid, by simpa using hordinary⟩
  · have hkept : ∀ u, op = .updateVm u → u.vm.id ≠ vm := fun u he hid => hu ⟨u, he, hid⟩
    exact ⟨w, (vm?_commit_of_not_updated hkept).trans hw, hengine⟩

theorem not_lun_commit {choice : CommitChoice} (h : inv.HoldsForHostedEngine vm disk)
    (hr : ¬ op.Releases vm disk) {d : Disk} (hd : (inv.commit choice op).disk? disk = some d) :
    d.isHostedEngineLun = false := by
  obtain ⟨stored, hstored, rfl | ⟨requested, _, _, rfl, rfl⟩ | ⟨v, rfl⟩⟩ :=
    exists_disk?_of_commit hd
  · exact h.not_lun d hstored
  · rw [Disk.isHostedEngineLun_presentedAs]
    exact h.not_lun stored hstored
  · by_contra hlun
    exact hr ⟨Inventory.id_of_disk? hd, by simpa using hlun⟩

/-- An accepted operation that does not release the disk keeps it where it is. -/
theorem commit {choice : CommitChoice} (h : inv.HoldsForHostedEngine vm disk)
    (hacc : op.judge inv c = .ok .accepted) (hr : ¬ op.Releases vm disk) :
    (inv.commit choice op).HoldsForHostedEngine vm disk where
  attached := isAttached_commit (fun ht => h.not_accepted ht hacc) h.attached
  hostedEngine := h.hostedEngine_commit hr
  not_lun _ hd := h.not_lun_commit hr hd

end Inventory.HoldsForHostedEngine

/-! ## Managed machines -/

namespace Inventory

variable {inv : Inventory} {c : Capabilities} {vm disk : Uuid}

/-- The machine is stored, runs the management stack and is managed by it. -/
def HasManaged (inv : Inventory) (vm : Uuid) : Prop :=
  ∃ w, inv.vm? vm = some w ∧ w.isManagedHostedEngine = true

/-- A managed machine is not updated unless protected machines may be edited. -/
theorem HasManaged.not_updated (h : inv.HasManaged vm)
    (hedit : c.settings.allowEditingHostedEngine = false) {u : VmUpdate}
    (hacc : (Operation.updateVm u).judge inv c = .ok .accepted) : u.vm.id ≠ vm := by
  rintro rfl
  obtain ⟨w, hw, hmanaged⟩ := h
  obtain ⟨current, cluster, os, hvm, -, -, ha⟩ := Operation.updateVm_accepted_iff.1 hacc
  cases hvm.symm.trans hw
  have horigin : w.origin = .managedHostedEngine := by
    simpa [Vm.isManagedHostedEngine] using hmanaged
  have hallowed := ha.editable (.inl horigin)
  rw [hedit] at hallowed
  cases hallowed

theorem HasManaged.run (h : inv.HasManaged vm) (hedit : c.settings.allowEditingHostedEngine = false)
    (ps : List Proposal) : (inv.run c ps).HasManaged vm := by
  refine run_induction (P := (HasManaged · vm)) (Q := fun _ => True) ?_ h fun _ _ => trivial
  intro inv op choice h hacc _
  have hkept : ∀ u, op = .updateVm u → u.vm.id ≠ vm := by
    rintro u rfl
    exact h.not_updated hedit hacc
  obtain ⟨w, hw, hmanaged⟩ := h
  exact ⟨w, (vm?_commit_of_not_updated hkept).trans hw, hmanaged⟩

end Inventory

/-! ## Runs -/

/-- **Disks of the hosted-engine machine.** A disk attached to a hosted-engine machine, and not the
LUN behind it, is not taken away by any operation after any run in which no accepted operation
releases it. Where the machine is managed and protected machines may not be edited, no update of the
machine is accepted in any run, so that only an update of the disk can release it. -/
theorem hostedEngine_disk_stays (inv : Inventory) (c : Capabilities) (vm disk : Uuid)
    (h : inv.HoldsForHostedEngine vm disk) :
    (∀ ps, (∀ op ∈ inv.accepted c ps, ¬ op.Releases vm disk) →
      ∀ op : Operation, op.TakesAway vm disk → op.judge (inv.run c ps) c ≠ .ok .accepted) ∧
    (inv.HasManaged vm → c.settings.allowEditingHostedEngine = false →
      ∀ ps u, .updateVm u ∈ inv.accepted c ps → u.vm.id ≠ vm) := by
  constructor
  · intro ps hkept op ht
    have hrun : (inv.run c ps).HoldsForHostedEngine vm disk :=
      Inventory.run_induction (P := (Inventory.HoldsForHostedEngine · vm disk))
        (fun _ _ _ h hacc hr => h.commit hacc hr) h hkept
    exact hrun.not_accepted ht
  · intro hmanaged hedit ps u hu
    obtain ⟨before, -, hacc⟩ := Inventory.judge_of_mem_accepted hu
    exact (hmanaged.run hedit before).not_updated hedit hacc

/-! ## A machine that is not managed -/

/-- The identifier that repeats one digit. -/
def Uuid.repeated (digit : Fin 16) : Uuid := ⟨List.replicate 32 digit, List.length_replicate⟩

namespace HostedEngine

/-- A hosted-engine machine that is down. -/
def engine : Vm where
  id := .repeated ⟨1, by decide⟩
  name := "HostedEngine"
  status := .down
  clusterId := .repeated ⟨2, by decide⟩
  storagePoolId := .repeated ⟨3, by decide⟩
  osId := 0
  migrationSupport := .migratable
  origin := .hostedEngine
  clusterCompatibilityVersion := ⟨4, 2⟩
  customCompatibilityVersion := none
  memoryMb := 4096
  numOfMonitors := 1
  cpuTopology := .single
  cpuName := none
  dedicatedHosts := []

/-- A disk of the machine's, on an image. -/
def data : Disk where
  id := .repeated ⟨4, by decide⟩
  diskAlias := "data"
  interface := .virtio
  readOnly := false
  sgio := none
  scsiPassthrough := false
  infrastructureStore := false
  backing := .image 1073741824

/-- The machine and its disk. -/
def inventory : Inventory where
  vms := [engine]
  clusters :=
    [{ id := .repeated ⟨2, by decide⟩
       compatibilityVersion := ⟨4, 2⟩
       architecture := .x86_64
       cpuName := none }]
  hosts := []
  disks := [data]
  attachments :=
    [{ vmId := engine.id
       diskId := data.id
       plugged := true
       snapshotId := none
       usingScsiReservation := false }]
  controllers := []

/-- An update of the machine, which has no controllers before or afterwards. -/
def update (vm : Vm) : Proposal where
  operation := .updateVm ⟨vm, none⟩
  choice := ⟨true, false, false, []⟩

/-- The machine and its disk, where the machine is managed. -/
def managed : Inventory :=
  { inventory with vms := [{ engine with origin := .managedHostedEngine }] }

/-- The machine's disk as the LUN behind the machine. -/
def lun : Disk :=
  { data with
    diskAlias := Disk.hostedEngineAlias
    backing := .lun ⟨"lun", false⟩ }

/-- An update that makes the machine's disk the LUN. -/
def exposure : Proposal where
  operation := .updateDisk lun (some engine.id)
  choice := ⟨true, false, false, []⟩

theorem holds_inventory : inventory.HoldsForHostedEngine engine.id data.id := by
  refine ⟨?_, ⟨engine, rfl, rfl⟩, ?_⟩
  · exact ⟨_, ⟨List.mem_singleton_self _, rfl⟩, rfl, rfl⟩
  · intro d hd
    cases hd
    rfl

theorem holds_managed : managed.HoldsForHostedEngine engine.id data.id := by
  refine ⟨?_, ⟨_, rfl, rfl⟩, ?_⟩
  · exact ⟨_, ⟨List.mem_singleton_self _, rfl⟩, rfl, rfl⟩
  · intro d hd
    cases hd
    rfl

end HostedEngine

/-- The disk stays after an accepted update that gives the machine more memory. -/
theorem hostedEngine_disk_stays_after_update :
    HostedEngine.inventory.accepted .builtIn
        [HostedEngine.update { HostedEngine.engine with memoryMb := 8192 }] =
      [.updateVm ⟨{ HostedEngine.engine with memoryMb := 8192 }, none⟩] ∧
    (Operation.detachDisk HostedEngine.data.id HostedEngine.engine.id).judge
        (HostedEngine.inventory.run .builtIn
          [HostedEngine.update { HostedEngine.engine with memoryMb := 8192 }]) .builtIn ≠
      .ok .accepted := by
  have haccepted : HostedEngine.inventory.accepted .builtIn
      [HostedEngine.update { HostedEngine.engine with memoryMb := 8192 }] =
        [.updateVm ⟨{ HostedEngine.engine with memoryMb := 8192 }, none⟩] := by
    decide +kernel
  refine ⟨haccepted, ?_⟩
  refine (hostedEngine_disk_stays _ .builtIn _ _ HostedEngine.holds_inventory).1 _ ?_ _ ⟨rfl, rfl⟩
  rw [haccepted, List.forall_mem_singleton]
  rintro ⟨-, hordinary⟩
  cases hordinary

/-- A machine that is not managed may be given an ordinary origin, and then its disk is detached:
identifiers are unique, no attachment dangles, and the disk is held at the start. -/
theorem hostedEngine_disk_released :
    HostedEngine.inventory.UniqueIds ∧ HostedEngine.inventory.NoDangling ∧
      HostedEngine.inventory.HoldsForHostedEngine HostedEngine.engine.id HostedEngine.data.id ∧
      (Operation.detachDisk HostedEngine.data.id HostedEngine.engine.id).judge
          (HostedEngine.inventory.run .builtIn
            [HostedEngine.update { HostedEngine.engine with origin := .ovirt }]) .builtIn =
        .ok .accepted := by
  refine ⟨⟨?_, ?_, ?_, ?_⟩, ?_, HostedEngine.holds_inventory, ?_⟩
  · decide
  · decide
  · decide
  · decide
  · unfold Inventory.NoDangling
    decide
  · decide +kernel

/-- A managed machine keeps its origin, but its disk may be given a LUN and the reserved alias, and
then it is detached, and removed as well: identifiers are unique, no attachment dangles, the disk is
held at the start, and protected machines may not be edited. -/
theorem hostedEngine_disk_released_as_lun :
    HostedEngine.managed.UniqueIds ∧ HostedEngine.managed.NoDangling ∧
      HostedEngine.managed.HoldsForHostedEngine HostedEngine.engine.id HostedEngine.data.id ∧
      HostedEngine.managed.HasManaged HostedEngine.engine.id ∧
      Capabilities.builtIn.settings.allowEditingHostedEngine = false ∧
      HostedEngine.managed.accepted .builtIn [HostedEngine.exposure] =
        [.updateDisk HostedEngine.lun (some HostedEngine.engine.id)] ∧
      (Operation.detachDisk HostedEngine.data.id HostedEngine.engine.id).judge
          (HostedEngine.managed.run .builtIn [HostedEngine.exposure]) .builtIn =
        .ok .accepted ∧
      (Operation.removeDisk HostedEngine.data.id).judge
          (HostedEngine.managed.run .builtIn [HostedEngine.exposure]) .builtIn =
        .ok .accepted := by
  refine ⟨⟨?_, ?_, ?_, ?_⟩, ?_, HostedEngine.holds_managed, ⟨_, rfl, rfl⟩, ?_, ?_, ?_, ?_⟩
  · decide
  · decide
  · decide
  · decide
  · unfold Inventory.NoDangling
    decide
  · rfl
  · decide +kernel
  · decide +kernel
  · decide +kernel

end VmAdmission
