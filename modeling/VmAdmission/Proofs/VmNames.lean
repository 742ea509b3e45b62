import VmAdmission.Proofs.Catalog.UpdateVm
import VmAdmission.Proofs.Run
import VmAdmission.Proofs.Usability
import Mathlib.Data.List.Nodup

/-!
# Names of machines

A machine's name is to be its own within its storage pool. An update that gives the machine another
name looks that name up in the pool that the machine is in, and one that keeps the name looks
nothing up; no rule looks at the pool that the update puts the machine into. So names stay unique
exactly as long as no machine is moved into a pool in which its name is used
(`names_stay_unique_iff`), and a machine that is can be accepted (`names_shared_after_move`).
-/

namespace VmAdmission

/-- A machine's name and the storage pool in which it is to be unique. -/
def Vm.scopedName (vm : Vm) : String × Uuid := (vm.name, vm.storagePoolId)

@[simp] theorem Vm.scopedName_updatedTo (stored proposed : Vm) :
    (stored.updatedTo proposed).scopedName = proposed.scopedName := rfl

namespace Inventory

/-- No two machines share both the name and the storage pool. -/
def UniqueNames (inv : Inventory) : Prop := (inv.vms.map Vm.scopedName).Nodup

instance : DecidablePred UniqueNames := fun inv =>
  inferInstanceAs (Decidable (inv.vms.map Vm.scopedName).Nodup)

/-- The operation puts a machine into another storage pool, in which its name is used. -/
def MovesOntoName (inv : Inventory) : Operation → Prop
  | .updateVm u => ∃ current ∈ inv.vm? u.vm.id, u.vm.storagePoolId ≠ current.storagePoolId ∧
      inv.isNameInUse u.vm.name u.vm.storagePoolId = true
  | _ => False

instance (inv : Inventory) : DecidablePred inv.MovesOntoName
  | .updateVm u => inferInstanceAs (Decidable (∃ current ∈ inv.vm? u.vm.id, _))
  | .attachDisk _ _ _ | .updateDisk _ _ | .detachDisk _ _ | .removeDisk _
  | .removeDiskSnapshots _ => inferInstanceAs (Decidable False)

variable {inv : Inventory} {c : Capabilities} {op : Operation} {u : VmUpdate} {current : Vm}
  {choice : CommitChoice}

/-! ## Machines that stay -/

theorem map_id_vms_run (ps : List Proposal) :
    (inv.run c ps).vms.map Vm.id = inv.vms.map Vm.id := by
  refine run_induction (P := fun next => next.vms.map Vm.id = inv.vms.map Vm.id)
    (Q := fun _ => True) ?_ rfl fun _ _ => trivial
  intro next op choice h _ _
  exact map_id_vms_commit.trans h

/-! ## One step -/

/-- After an update, names are unique exactly if no other machine bears the proposed name in the
proposed pool. -/
theorem uniqueNames_commit_updateVm_iff (hids : (inv.vms.map Vm.id).Nodup)
    (hnames : inv.UniqueNames) (hvm : inv.vm? u.vm.id = some current) :
    (inv.commit choice (.updateVm u)).UniqueNames ↔
      ∀ other ∈ inv.vms, other.id ≠ u.vm.id → other.scopedName ≠ u.vm.scopedName := by
  have hnext : (inv.commit choice (.updateVm u)).vms.map Vm.scopedName =
      inv.vms.map fun vm => if vm.id = u.vm.id then u.vm.scopedName else vm.scopedName := by
    simp only [commit, mapVm, List.map_map]
    refine List.map_congr_left fun vm _ => ?_
    by_cases hid : vm.id = u.vm.id
    · simp [hid]
    · simp [hid]
  have hcurrent : current.id = u.vm.id := id_of_vm? hvm
  unfold UniqueNames
  rw [hnext, List.nodup_map_iff_inj_on (List.Nodup.of_map _ hids)]
  constructor
  · intro hinj other hother hne hname
    have hsame : other = current :=
      hinj other hother current (List.mem_of_find?_eq_some hvm)
        (by rw [if_neg hne, if_pos hcurrent, hname])
    exact hne (hsame ▸ hcurrent)
  · intro hfree x hx y hy hxy
    by_cases hxid : x.id = u.vm.id
    · by_cases hyid : y.id = u.vm.id
      · exact List.inj_on_of_nodup_map hids hx hy (hxid.trans hyid.symm)
      · rw [if_pos hxid, if_neg hyid] at hxy
        exact absurd hxy.symm (hfree y hy hyid)
    · by_cases hyid : y.id = u.vm.id
      · rw [if_neg hxid, if_pos hyid] at hxy
        exact absurd hxy (hfree x hx hxid)
      · rw [if_neg hxid, if_neg hyid] at hxy
        exact List.inj_on_of_nodup_map hnames hx hy hxy

/-- In the pool that the machine is in, the rule about names keeps others from the proposed one. -/
theorem not_shared_of_pool_kept (hnames : inv.UniqueNames)
    (hvm : inv.vm? u.vm.id = some current) (hpool : u.vm.storagePoolId = current.storagePoolId)
    (hfree : u.vm.name = current.name ∨
      ∀ vm ∈ inv.vms, vm.storagePoolId = current.storagePoolId → vm.name ≠ u.vm.name)
    {other : Vm} (hother : other ∈ inv.vms) (hne : other.id ≠ u.vm.id) :
    other.scopedName ≠ u.vm.scopedName := by
  intro hname
  obtain ⟨hn, hp⟩ := Prod.mk.inj hname
  rcases hfree with hkept | hfree
  · have hsame : other = current := by
      refine List.inj_on_of_nodup_map hnames hother (List.mem_of_find?_eq_some hvm) ?_
      exact Prod.ext (hn.trans hkept) (hp.trans hpool)
    exact hne (hsame ▸ id_of_vm? hvm)
  · exact hfree other hother (hp.trans hpool) hn

/-- In another pool, no other machine bears the proposed name exactly if it is not used there. -/
theorem not_shared_iff_of_pool_changed (hids : (inv.vms.map Vm.id).Nodup)
    (hvm : inv.vm? u.vm.id = some current) (hpool : u.vm.storagePoolId ≠ current.storagePoolId) :
    (∀ other ∈ inv.vms, other.id ≠ u.vm.id → other.scopedName ≠ u.vm.scopedName) ↔
      inv.isNameInUse u.vm.name u.vm.storagePoolId = false := by
  rw [isNameInUse_eq_false_iff]
  constructor
  · intro hfree vm hmem hp hn
    have hne : vm.id ≠ u.vm.id := by
      intro hid
      have hsame : vm = current :=
        List.inj_on_of_nodup_map hids hmem (List.mem_of_find?_eq_some hvm)
          (hid.trans (id_of_vm? hvm).symm)
      exact hpool (hp.symm.trans (congrArg Vm.storagePoolId hsame))
    exact hfree vm hmem hne (Prod.ext hn hp)
  · intro hunused other hother _ hname
    obtain ⟨hn, hp⟩ := Prod.mk.inj hname
    exact hunused other hother hp hn

/-- Names are unique after an accepted operation exactly if it moves no machine onto a used name. -/
theorem uniqueNames_commit_iff (hids : (inv.vms.map Vm.id).Nodup) (hnames : inv.UniqueNames)
    (hacc : op.judge inv c = .ok .accepted) :
    (inv.commit choice op).UniqueNames ↔ ¬ inv.MovesOntoName op := by
  cases op with
  | updateVm u =>
    obtain ⟨current, cluster, os, hvm, -, -, h⟩ := Operation.updateVm_accepted_iff.1 hacc
    rw [uniqueNames_commit_updateVm_iff hids hnames hvm]
    simp only [MovesOntoName, hvm, Option.mem_some_iff, exists_eq_left']
    by_cases hpool : u.vm.storagePoolId = current.storagePoolId
    · exact iff_of_true
        (fun _ hother hne => not_shared_of_pool_kept hnames hvm hpool h.name_free hother hne)
        fun hmoves => hmoves.1 hpool
    · rw [not_shared_iff_of_pool_changed hids hvm hpool]
      simp [hpool]
  | attachDisk disk vmId snapshotId => exact iff_of_true hnames id
  | updateDisk disk vmId => exact iff_of_true hnames id
  | detachDisk diskId vmId => exact iff_of_true hnames id
  | removeDisk diskId => exact iff_of_true hnames id
  | removeDiskSnapshots diskId => exact iff_of_true hnames id

end Inventory

/-! ## Runs -/

/-- **Names of machines.** Where no two machines share their identifier, nor both their name and
their storage pool, the latter stays so all along a run exactly if no accepted update puts a machine
into another pool in which its name is used. -/
theorem names_stay_unique_iff (inv : Inventory) (c : Capabilities) (ps : List Proposal)
    (hids : (inv.vms.map Vm.id).Nodup) (hnames : inv.UniqueNames) :
    inv.Always c Inventory.UniqueNames ps ↔
      inv.Throughout c (fun inv op => ¬ inv.MovesOntoName op) ps := by
  refine Inventory.always_iff_throughout (fun before p _ hacc hbefore => ?_) hnames
  have hids' : ((inv.run c before).vms.map Vm.id).Nodup :=
    (Inventory.map_id_vms_run before).symm ▸ hids
  exact Inventory.uniqueNames_commit_iff hids' hbefore hacc

/-! ## Two pools -/

namespace VmNames

/-- A machine of another pool with the same name. -/
def twin : Vm :=
  { Usability.linux with
    id := .repeated ⟨9, by decide⟩
    storagePoolId := .repeated ⟨6, by decide⟩ }

/-- A machine of that pool with another name. -/
def db : Vm := { twin with id := .repeated ⟨7, by decide⟩, name := "db" }

/-- Three machines in two pools. -/
def inventory : Inventory :=
  { HostedEngine.inventory with
    vms := [Usability.linux, twin, db]
    attachments := [] }

/-- The machine in the other pool, under a name. -/
def movedAs (name : String) : Vm :=
  { Usability.linux with
    name
    storagePoolId := twin.storagePoolId }

end VmNames

section Moves

open VmNames

/-- A machine is given a free name and then moved into the other pool, in which that name is free as
well: names stay unique all along. -/
theorem names_stay_unique_after_move :
    inventory.accepted .builtIn
        [HostedEngine.update { Usability.linux with name := "web" },
          HostedEngine.update (movedAs "web")] =
      [.updateVm ⟨{ Usability.linux with name := "web" }, none⟩,
        .updateVm ⟨movedAs "web", none⟩] ∧
    inventory.Always .builtIn Inventory.UniqueNames
        [HostedEngine.update { Usability.linux with name := "web" },
          HostedEngine.update (movedAs "web")] := by
  refine ⟨by decide +kernel, ?_⟩
  refine (names_stay_unique_iff inventory .builtIn _ (by decide) (by decide)).2 ?_
  simp only [Inventory.throughout_cons, Inventory.throughout_nil, and_true]
  decide +kernel

/-- A machine that is moved into the other pool is given a name that is used there, and one that is
moved there under its own name finds another machine with it. Both updates are accepted. -/
theorem names_shared_after_move :
    (inventory.vms.map Vm.id).Nodup ∧ inventory.UniqueNames ∧
    ((Operation.updateVm ⟨movedAs "db", none⟩).judge inventory .builtIn = .ok .accepted ∧
      ¬ (inventory.run .builtIn [HostedEngine.update (movedAs "db")]).UniqueNames) ∧
    ((Operation.updateVm ⟨movedAs "linux", none⟩).judge inventory .builtIn = .ok .accepted ∧
      ¬ (inventory.run .builtIn [HostedEngine.update (movedAs "linux")]).UniqueNames) := by
  refine ⟨by decide, by decide, ⟨?_, ?_⟩, ⟨?_, ?_⟩⟩
  · decide +kernel
  · decide +kernel
  · decide +kernel
  · decide +kernel

end Moves

end VmAdmission
