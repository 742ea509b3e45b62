import VmAdmission.Proofs.Locality
import VmAdmission.Proofs.RowOrder

/-!
# Operations on different disks

An operation on a disk reads rows of that disk, machines and controllers; carried out, it changes
rows of that disk. So what it comes to is the same by inventories that differ in other disks only
(`Inventory.AlikeOn`), and operations on other disks make no more than such a difference. In a run
of operations on pairwise different disks each is therefore judged as if it came first, and each
disk is left as its own operation alone leaves it, in whichever order they come:
`disk_operations_independent`.
-/

namespace VmAdmission

variable {inv inv' inv'' : Inventory} {c : Capabilities} {id : Uuid} {op : Operation}
  {choice : CommitChoice} {p : Proposal} {ps : List Proposal}

namespace Inventory

/-! ## Inventories that are alike on a disk -/

/-- Two inventories hold the same machines, clusters, hosts and controllers. -/
structure SameMachines (inv inv' : Inventory) : Prop where
  vms : inv.vms = inv'.vms
  clusters : inv.clusters = inv'.clusters
  hosts : inv.hosts = inv'.hosts
  controllers : inv.controllers = inv'.controllers

namespace SameMachines

theorem symm (h : inv.SameMachines inv') : inv'.SameMachines inv :=
  ⟨h.vms.symm, h.clusters.symm, h.hosts.symm, h.controllers.symm⟩

theorem trans (h : inv.SameMachines inv') (h' : inv'.SameMachines inv'') :
    inv.SameMachines inv'' :=
  ⟨h.vms.trans h'.vms, h.clusters.trans h'.clusters, h.hosts.trans h'.hosts,
    h.controllers.trans h'.controllers⟩

end SameMachines

/-- Two inventories differ in other disks and their attachments at most. -/
structure AlikeOn (inv inv' : Inventory) (id : Uuid) : Prop where
  machines : inv.SameMachines inv'
  disks : inv.diskRows id = inv'.diskRows id
  attachments : inv.attachmentRows id = inv'.attachmentRows id

namespace AlikeOn

theorem refl (inv : Inventory) (id : Uuid) : inv.AlikeOn inv id := ⟨⟨rfl, rfl, rfl, rfl⟩, rfl, rfl⟩

theorem symm (h : inv.AlikeOn inv' id) : inv'.AlikeOn inv id :=
  ⟨h.machines.symm, h.disks.symm, h.attachments.symm⟩

theorem trans (h : inv.AlikeOn inv' id) (h' : inv'.AlikeOn inv'' id) : inv.AlikeOn inv'' id :=
  ⟨h.machines.trans h'.machines, h.disks.trans h'.disks, h.attachments.trans h'.attachments⟩

theorem agreeOnDisk (h : inv.AlikeOn inv' id) (vmId? : Option Uuid) :
    inv.AgreeOnDisk inv' id vmId? where
  disk := by
    rw [disk?, disk?, ← List.head?_filter, ← List.head?_filter]
    exact congrArg List.head? h.disks
  attachments := h.attachments
  attached a _ := by rw [vm?, vm?, h.machines.vms]
  named vmId _ := by rw [vm?, vm?, h.machines.vms]
  controller vmId _ := by rw [hasController, hasController, h.machines.controllers]

/-- An operation on the disk comes to the same. -/
theorem judge_eq (h : inv.AlikeOn inv' id) (hop : op.disk? = some id) :
    op.judge inv c = op.judge inv' c := by
  unfold Operation.judge
  rw [Operation.decision_eq_of_reads c [] fun q hq => (h.agreeOnDisk op.vmId?).answer_eq hop hq]

end AlikeOn

/-! ## What operations leave alike -/

/-- Operations on disks leave all other tables as they are. -/
theorem sameMachines_commit (hop : op.disk? = some id) :
    (inv.commit choice op).SameMachines inv := by
  cases op with
  | updateVm u => cases hop
  | attachDisk disk vmId snapshotId => exact ⟨rfl, rfl, rfl, rfl⟩
  | updateDisk disk vmId => exact ⟨rfl, rfl, rfl, rfl⟩
  | detachDisk diskId vmId => exact ⟨rfl, rfl, rfl, rfl⟩
  | removeDisk diskId => exact ⟨rfl, rfl, rfl, rfl⟩
  | removeDiskSnapshots diskId => exact ⟨rfl, rfl, rfl, rfl⟩

theorem AlikeOn.diskRows_mapDisk_eq {target : Uuid} {f : Disk → Disk} (h : inv.AlikeOn inv' id)
    (hf : ∀ disk, disk.id = target → (f disk).id = target) :
    (inv.mapDisk target f).diskRows id = (inv'.mapDisk target f).diskRows id := by
  rw [diskRows_mapDisk hf, diskRows_mapDisk hf, h.disks]

theorem AlikeOn.attachmentRows_dropAttachments_eq (h : inv.AlikeOn inv' id)
    (drops : Attachment → Bool) :
    (inv.dropAttachments drops).attachmentRows id =
      (inv'.dropAttachments drops).attachmentRows id := by
  have hrows (inv : Inventory) : (inv.dropAttachments drops).attachmentRows id =
      (inv.attachmentRows id).filter (!drops ·) := List.filter_comm _ _ _
  rw [hrows, hrows, h.attachments]

/-- Inventories that are alike on a disk are still so once an operation on it is carried out: what
it leaves of the disk's rows depends on these rows alone. -/
theorem AlikeOn.commit (h : inv.AlikeOn inv' id) (hop : op.disk? = some id) :
    (inv.commit choice op).AlikeOn (inv'.commit choice op) id where
  machines := ((sameMachines_commit hop).trans h.machines).trans (sameMachines_commit hop).symm
  disks := by
    cases op with
    | updateVm u => cases hop
    | attachDisk disk vmId snapshotId =>
      refine h.diskRows_mapDisk_eq fun d hd => ?_
      split
      · exact hd
      · exact hd
    | updateDisk disk vmId => exact h.diskRows_mapDisk_eq fun _ _ => rfl
    | detachDisk diskId vmId => exact h.disks
    | removeDisk diskId =>
      have hrows (inv : Inventory) : (inv.commit choice (.removeDisk diskId)).diskRows id =
          (inv.diskRows id).filter fun disk => disk.id ≠ diskId := List.filter_comm _ _ _
      rw [hrows, hrows, h.disks]
    | removeDiskSnapshots diskId => exact h.disks
  attachments := by
    cases op with
    | updateVm u => cases hop
    | attachDisk disk vmId snapshotId =>
      unfold attachmentRows Inventory.commit
      rw [List.filter_append, List.filter_append]
      exact congrArg (· ++ _) h.attachments
    | updateDisk disk vmId => exact h.attachments
    | detachDisk diskId vmId => exact h.attachmentRows_dropAttachments_eq _
    | removeDisk diskId => exact h.attachmentRows_dropAttachments_eq _
    | removeDiskSnapshots diskId => exact h.attachmentRows_dropAttachments_eq _

theorem AlikeOn.advance (h : inv.AlikeOn inv' id) (hop : p.operation.disk? = some id) :
    (inv.advance c p).AlikeOn (inv'.advance c p) id := by
  unfold Inventory.advance
  rw [h.judge_eq hop]
  split
  · exact h.commit hop
  · exact h

/-- What happens to other disks leaves an inventory alike. -/
theorem alikeOn_advance_of_other (hop : p.operation.disk? ≠ none)
    (hother : p.operation.disk? ≠ some id) : (inv.advance c p).AlikeOn inv id := by
  obtain ⟨other, hdisk⟩ := Option.ne_none_iff_exists'.1 hop
  unfold advance
  split
  · have hleads : inv.Leads p.operation (inv.commit p.choice p.operation) := leads_commit
    obtain ⟨hdisks, hattachments⟩ := hleads.rows_of_other hother
    exact ⟨sameMachines_commit hdisk, hdisks, hattachments⟩
  · exact .refl inv id

end Inventory

/-! ## Proposals on different disks -/

/-- The proposals are about disks, no two about the same one. -/
structure OnDistinctDisks (ps : List Proposal) : Prop where
  on_disks : ∀ p ∈ ps, p.operation.disk? ≠ none
  distinct : (ps.map fun p => p.operation.disk?).Nodup

instance : DecidablePred OnDistinctDisks := fun ps =>
  decidable_of_iff ((∀ p ∈ ps, p.operation.disk? ≠ none) ∧
      (ps.map fun p => p.operation.disk?).Nodup)
    ⟨fun ⟨ho, hd⟩ => ⟨ho, hd⟩, fun h => ⟨h.on_disks, h.distinct⟩⟩

namespace OnDistinctDisks

theorem perm {ps' : List Proposal} (h : OnDistinctDisks ps) (hperm : ps.Perm ps') :
    OnDistinctDisks ps' where
  on_disks q hq := h.on_disks q (hperm.mem_iff.2 hq)
  distinct := (hperm.map _).nodup_iff.1 h.distinct

theorem tail (h : OnDistinctDisks (p :: ps)) : OnDistinctDisks ps where
  on_disks q hq := h.on_disks q (List.mem_cons_of_mem _ hq)
  distinct := (List.nodup_cons.1 h.distinct).2

/-- The first proposal is about another disk than a later one. -/
theorem head_ne {q : Proposal} (h : OnDistinctDisks (p :: ps)) (hq : q ∈ ps) :
    p.operation.disk? ≠ q.operation.disk? := fun he =>
  (List.nodup_cons.1 h.distinct).1 (List.mem_map.2 ⟨q, hq, he.symm⟩)

end OnDistinctDisks

namespace Inventory

/-! ## Runs -/

/-- The proposals with what judging them comes to, each by the inventory that those before it
left. -/
def outcomes (c : Capabilities) :
    Inventory → List Proposal → List (Proposal × Except Fault Verdict)
  | _, [] => []
  | inv, p :: ps => (p, p.operation.judge inv c) :: outcomes c (inv.advance c p) ps

/-- Each proposal is judged as if it came first: those before it are about other disks. -/
theorem outcomes_eq (h : OnDistinctDisks ps) :
    inv.outcomes c ps = ps.map fun p => (p, p.operation.judge inv c) := by
  induction ps generalizing inv with
  | nil => rfl
  | cons p ps ih =>
    rw [outcomes, ih h.tail, List.map_cons]
    congr 1
    refine List.map_congr_left fun q hq => ?_
    obtain ⟨id, hid⟩ := Option.ne_none_iff_exists'.1 (h.tail.on_disks q hq)
    have halike : (inv.advance c p).AlikeOn inv id :=
      alikeOn_advance_of_other (h.on_disks p List.mem_cons_self) (hid ▸ h.head_ne hq)
    rw [halike.judge_eq hid]

theorem alikeOn_run_of_others (h : OnDistinctDisks ps)
    (hothers : ∀ p ∈ ps, p.operation.disk? ≠ some id) : (inv.run c ps).AlikeOn inv id := by
  induction ps generalizing inv with
  | nil => exact .refl inv id
  | cons p ps ih =>
    rw [List.forall_mem_cons] at hothers
    have hfirst : (inv.advance c p).AlikeOn inv id :=
      alikeOn_advance_of_other (h.on_disks p List.mem_cons_self) hothers.1
    exact (ih h.tail hothers.2).trans hfirst

/-- A disk is left as the proposal on it leaves it alone: those before and behind it are about other
disks. -/
theorem alikeOn_run_of_mem (h : OnDistinctDisks ps) (hp : p ∈ ps)
    (hop : p.operation.disk? = some id) : (inv.run c ps).AlikeOn (inv.advance c p) id := by
  induction ps generalizing inv with
  | nil => cases hp
  | cons q ps ih =>
    change ((inv.advance c q).run c ps).AlikeOn (inv.advance c p) id
    rcases List.mem_cons.1 hp with rfl | hmem
    · exact alikeOn_run_of_others h.tail fun q hq he => h.head_ne hq (hop.trans he.symm)
    · have hfirst : (inv.advance c q).AlikeOn inv id :=
        alikeOn_advance_of_other (h.on_disks q List.mem_cons_self) (hop ▸ h.head_ne hmem)
      exact (ih h.tail hmem).trans (hfirst.advance hop)

theorem alikeOn_run_of_perm {ps' : List Proposal} (h : OnDistinctDisks ps) (hperm : ps.Perm ps')
    (id : Uuid) : (inv.run c ps).AlikeOn (inv.run c ps') id := by
  by_cases hany : ∃ p ∈ ps, p.operation.disk? = some id
  · obtain ⟨p, hp, hop⟩ := hany
    exact (alikeOn_run_of_mem h hp hop).trans
      (alikeOn_run_of_mem (h.perm hperm) (hperm.mem_iff.1 hp) hop).symm
  · have hothers : ∀ p ∈ ps, p.operation.disk? ≠ some id := fun p hp hop => hany ⟨p, hp, hop⟩
    exact (alikeOn_run_of_others h hothers).trans
      (alikeOn_run_of_others (h.perm hperm) fun p hp => hothers p (hperm.mem_iff.2 hp)).symm

/-- Lists with the same rows of each key hold the same rows. -/
theorem perm_of_filter_eq {α κ : Type} [DecidableEq α] [DecidableEq κ] {key : α → κ}
    {rows rows' : List α}
    (h : ∀ k, rows.filter (fun x => key x = k) = rows'.filter fun x => key x = k) :
    rows.Perm rows' := by
  rw [List.perm_iff_count]
  intro x
  have hcount := congrArg (List.count x) (h (key x))
  rwa [List.count_filter (by simp), List.count_filter (by simp)] at hcount

/-- Inventories that are alike on every disk hold the same rows. -/
theorem reorders_of_alikeOn (h : ∀ id, inv.AlikeOn inv' id) : inv.Reorders inv' := by
  have hmachines : inv.SameMachines inv' := (h (.repeated ⟨0, by decide⟩)).machines
  exact
    { vms := .of_eq hmachines.vms
      clusters := .of_eq hmachines.clusters
      hosts := .of_eq hmachines.hosts
      disks := perm_of_filter_eq fun id => (h id).disks
      attachments := perm_of_filter_eq fun id => (h id).attachments
      controllers := .of_eq hmachines.controllers }

end Inventory

/-- **Operations on different disks.** Let proposals be about disks, no two about the same one, and
be judged one after another, each carried out if it is accepted. In whichever order they come, each
has the result that it has by the inventory at the start, be it a verdict or a fault. Each disk is
left with its attachments as its own proposal alone leaves it, and all orders lead to the same rows,
in whatever order these stand in the tables. -/
theorem disk_operations_independent {ps : List Proposal} (inv : Inventory) (c : Capabilities)
    (h : OnDistinctDisks ps) :
    (∀ order, order.Perm ps →
      inv.outcomes c order = order.map fun p => (p, p.operation.judge inv c)) ∧
    (∀ p ∈ ps, ∀ id, p.operation.disk? = some id →
      (inv.run c ps).AlikeOn (inv.advance c p) id) ∧
    (∀ order, order.Perm ps → (inv.run c order).Reorders (inv.run c ps)) := by
  refine ⟨fun order hperm => ?_, fun p hp id hop => ?_, fun order hperm => ?_⟩
  · exact Inventory.outcomes_eq (h.perm hperm.symm)
  · exact Inventory.alikeOn_run_of_mem h hp hop
  · exact Inventory.reorders_of_alikeOn fun id =>
      Inventory.alikeOn_run_of_perm (h.perm hperm.symm) hperm id

namespace Independence

open Usability

/-- A disk on an image. -/
def disk (digit : Fin 16) : Disk := { HostedEngine.data with id := .repeated digit }

def first : Disk := disk ⟨10, by decide⟩

def second : Disk := disk ⟨11, by decide⟩

def attached : Disk := disk ⟨12, by decide⟩

def stray : Disk := disk ⟨13, by decide⟩

/-- A machine beside four disks, of which one is attached to it. Another is attached to a machine
that is not stored. -/
def crowd : Inventory :=
  { alone linux with
    disks := [first, second, attached, stray]
    attachments := [
      { plugged linux with diskId := attached.id },
      { plugged windows with diskId := stray.id }] }

/-- Whoever carries out an operation plugs an attachment, and presents the disk as requested. -/
def propose (operation : Operation) : Proposal := ⟨operation, true, false, true, []⟩

/-- Two disks are attached to the machine, one is made read-only, and one is removed. -/
def changes : List Proposal := [
  propose (.attachDisk first linux.id none),
  propose (.attachDisk second linux.id none),
  propose (.updateDisk { attached with readOnly := true } (some linux.id)),
  propose (.removeDisk stray.id)]

end Independence

open Usability Independence in
/-- In reverse order, too, the first three are accepted and the removal meets a fault, and the same
rows are left behind, in another order. -/
theorem disk_operations_independent_in_reverse :
    changes.map (fun p => p.operation.judge crowd .builtIn) =
      [.ok .accepted, .ok .accepted, .ok .accepted, .error (.missingVm windows.id)] ∧
    crowd.outcomes .builtIn changes.reverse =
      changes.reverse.map (fun p => (p, p.operation.judge crowd .builtIn)) ∧
    (crowd.run .builtIn changes.reverse).Reorders (crowd.run .builtIn changes) ∧
    crowd.run .builtIn changes.reverse ≠ crowd.run .builtIn changes := by
  have hdistinct : OnDistinctDisks changes := by decide +kernel
  have hreverse : changes.reverse.Perm changes := List.reverse_perm changes
  obtain ⟨hresults, -, hrows⟩ := disk_operations_independent crowd .builtIn hdistinct
  exact ⟨by decide +kernel, hresults _ hreverse, hrows _ hreverse, by decide +kernel⟩

end VmAdmission
