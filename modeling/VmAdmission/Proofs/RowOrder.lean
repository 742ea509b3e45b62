import VmAdmission.Proofs.Footprint
import VmAdmission.Proofs.Usability
import VmAdmission.Proofs.WellFormed

/-!
# The order of rows

The tables of an inventory are lists, and rows are looked up from the front. Where identifiers are
unique and no disk is attached twice to one machine itself, inventories that hold the same rows
(`Inventory.Reorders`) find the same ones, and their joins hold the same rows as well. Only two
things are named by whichever comes first: of several running machines that a disk is plugged into,
the one that a rejection names, and of several missing rows, the one that a fault names
(`Operation.IsHeldUpBy`, `Operation.Misses`). `reordering_keeps_decision`: nothing else changes.
-/

namespace VmAdmission

/-! ## Results side by side -/

section Results

variable {α β : Type} {R : α → α → Prop} {S : β → β → Prop} {among : Fault → Prop}

/-- Two results that are alike: values that are related, or faults that are the same or are both
among some. -/
inductive Alike (R : α → α → Prop) (among : Fault → Prop) :
    Except Fault α → Except Fault α → Prop
  | ok {x y : α} (h : R x y) : Alike R among (.ok x) (.ok y)
  | same (fault : Fault) : Alike R among (.error fault) (.error fault)
  | among {fault fault' : Fault} (h : among fault) (h' : among fault') :
    Alike R among (.error fault) (.error fault')

theorem Alike.refl (hR : ∀ x, R x x) (x : Except Fault α) : Alike R among x x := by
  cases x with
  | error fault => exact .same fault
  | ok x => exact .ok (hR x)

theorem Alike.bind {x y : Except Fault α} {f g : α → Except Fault β} (h : Alike R among x y)
    (hfg : ∀ a b, x = .ok a → R a b → Alike S among (f a) (g b)) :
    Alike S among (x >>= f) (y >>= g) := by
  cases h with
  | ok hab => exact hfg _ _ rfl hab
  | same fault => exact .same fault
  | among hf hg => exact .among hf hg

/-- Traversed in another order, a list gives the same values in another order, or some fault that
one of its elements meets. -/
theorem alike_mapM {f : α → Except Fault β} {xs xs' : List α} (h : xs.Perm xs')
    (hfault : ∀ x ∈ xs, ∀ fault, f x = .error fault → among fault) :
    Alike List.Perm among (xs.mapM f) (xs'.mapM f) := by
  cases hys : xs.mapM f with
  | ok ys =>
    obtain ⟨ys', hys', hperm⟩ := exists_mapM_of_perm h hys
    rw [hys']
    exact .ok hperm
  | error fault =>
    cases hys' : xs'.mapM f with
    | ok ys' =>
      obtain ⟨ys, hok, -⟩ := exists_mapM_of_perm h.symm hys'
      cases hys.symm.trans hok
    | error fault' =>
      obtain ⟨x, hx, hxfault⟩ := exists_mem_of_mapM_eq_error hys
      obtain ⟨x', hx', hxfault'⟩ := exists_mem_of_mapM_eq_error hys'
      exact .among (hfault x hx fault hxfault) (hfault x' (h.mem_iff.2 hx') fault' hxfault')

end Results

/-! ## Tables in another order -/

namespace Inventory

/-- Each table holds the same rows, in any order. -/
structure Reorders (inv inv' : Inventory) : Prop where
  vms : inv.vms.Perm inv'.vms
  clusters : inv.clusters.Perm inv'.clusters
  hosts : inv.hosts.Perm inv'.hosts
  disks : inv.disks.Perm inv'.disks
  attachments : inv.attachments.Perm inv'.attachments
  controllers : inv.controllers.Perm inv'.controllers

/-- No disk is attached twice to the same machine itself. -/
def AttachedOnce (inv : Inventory) : Prop :=
  ((inv.attachments.filter fun a => a.snapshotId.isNone).map Attachment.place).Nodup

instance : DecidablePred AttachedOnce := fun _ => inferInstanceAs (Decidable (List.Nodup _))

end Inventory

/-- A query that joins two tables, and answers with a list. -/
def InventoryQuery.IsJoin : InventoryQuery → Prop
  | .attachmentsOf _ | .disksOf _ _ => True
  | .vm _ | .cluster _ | .host _ | .disk _ | .isNameInUse _ _ | .hasController _ _ => False

/-! ## What is named by order -/

/-- The rejection that names a running machine. -/
def Vm.notDown (vm : Vm) : Verdict := (Verdict.reject .vmIsNotDown).filling "vmName" vm.name

namespace Operation

/-- The attachments that no running machine may have plugged in. A detachment is not among the
operations: it looks at a single attachment, the same in any order. -/
def Disturbs : Operation → Attachment → Prop
  | .updateDisk disk _, a => a.diskId = disk.id
  | .removeDisk diskId, a => a.diskId = diskId
  | .removeDiskSnapshots diskId, a => a.diskId = diskId ∧ a.snapshotId.isSome = true
  | .updateVm _, _ | .attachDisk _ _ _, _ | .detachDisk _ _, _ => False

/-- The machine is not down, and one of the attachments in question is plugged into it. -/
def IsHeldUpBy (inv : Inventory) (op : Operation) (vm : Vm) : Prop :=
  ∃ a ∈ inv.attachments, op.Disturbs a ∧ inv.vm? a.vmId = some vm ∧ a.plugged = true ∧
    vm.status ≠ .down

/-- A row that the joins for an operation need is missing. -/
inductive Misses (inv : Inventory) : Operation → Fault → Prop
  | vm {op : Operation} {diskId : Uuid} {a : Attachment} (hop : op.disk? = some diskId)
    (ha : inv.IsAttachmentOf diskId a) (hvm : inv.vm? a.vmId = none) :
    Misses inv op (.missingVm a.vmId)
  | disk {u : VmUpdate} {a : Attachment} (ha : inv.IsPluggedInto u.vm.id a)
    (hdisk : inv.disk? a.diskId = none) : Misses inv (.updateVm u) (.missingDisk a.diskId)

/-- Two verdicts are the same, or each names a running machine that holds the operation up. -/
inductive NamesAlike (inv : Inventory) (op : Operation) : Verdict → Verdict → Prop
  | same (v : Verdict) : NamesAlike inv op v v
  | notDown {vm vm' : Vm} (h : op.IsHeldUpBy inv vm) (h' : op.IsHeldUpBy inv vm') :
    NamesAlike inv op vm.notDown vm'.notDown

/-- Two results of an operation are alike. -/
abbrev ResultsAlike (inv : Inventory) (op : Operation) :
    Except Fault Verdict → Except Fault Verdict → Prop :=
  Alike (op.NamesAlike inv) (op.Misses inv)

variable {inv : Inventory} {op : Operation} {answers answers' : Answers}

theorem ResultsAlike.refl (result : Except Fault Verdict) : op.ResultsAlike inv result result :=
  Alike.refl .same result

theorem ResultsAlike.accepted_iff {x y : Except Fault Verdict} (h : op.ResultsAlike inv x y) :
    x = .ok .accepted ↔ y = .ok .accepted := by
  cases h with
  | ok h =>
    cases h with
    | same v => rfl
    | notDown h h' => simp [Vm.notDown]
  | same fault => rfl
  | among h h' => simp

/-- Rules that come one by one to alike results, come to alike results in order. -/
theorem ResultsAlike.answer {steps steps' : List Step}
    (h : List.Forall₂ (fun s s' => s.applies = s'.applies ∧
      op.ResultsAlike inv (s.rule.eval answers) (s'.rule.eval answers')) steps steps') :
    op.ResultsAlike inv (Step.answer answers steps) (Step.answer answers' steps') := by
  induction h with
  | nil => exact .refl _
  | @cons s s' steps steps' hs _ ih =>
    obtain ⟨happlies, hrule⟩ := hs
    have hpasses : s.Passes answers ↔ s'.Passes answers' := by
      rw [Step.Passes, Step.Passes, happlies]
      exact imp_congr_right fun _ => hrule.accepted_iff
    by_cases hs : s.Passes answers
    · rw [Step.answer_cons_of_passes hs, Step.answer_cons_of_passes (hpasses.1 hs)]
      exact ih
    · rw [Step.answer_cons_of_not_passes hs, Step.answer_cons_of_not_passes (mt hpasses.2 hs)]
      exact hrule

/-- The same, where the rules are the same and only the answers to them differ. -/
theorem ResultsAlike.answer_same {steps : List Step}
    (h : Plan.EachRule (fun rule => op.ResultsAlike inv (rule.eval answers) (rule.eval answers'))
      (.checks steps)) :
    op.ResultsAlike inv (Step.answer answers steps) (Step.answer answers' steps) :=
  .answer (List.forall₂_same.2 fun s hs => ⟨rfl, h s hs⟩)

end Operation

namespace DiskRule

variable {onlyThroughSnapshots : Bool} {attachments attachments' : List (Vm × Attachment)}

/-- A machine that is named is not down, and an attachment in question is plugged into it. -/
theorem pluggedOnlyToDown_eq_accepted_or (onlyThroughSnapshots : Bool)
    (attachments : List (Vm × Attachment)) :
    pluggedOnlyToDown onlyThroughSnapshots attachments = .accepted ∨
      ∃ joined ∈ attachments,
        (onlyThroughSnapshots = false ∨ joined.2.snapshotId.isSome = true) ∧
        joined.2.plugged = true ∧ joined.1.status ≠ .down ∧
        pluggedOnlyToDown onlyThroughSnapshots attachments = joined.1.notDown := by
  rcases pluggedOnlyToDown_cases onlyThroughSnapshots attachments with
    ⟨-, haccepted⟩ | ⟨joined, hfirst, hrejected⟩
  · exact .inl haccepted
  · obtain ⟨hquestion, hplugged, hdown⟩ := hfirst.holds
    exact .inr ⟨joined, hfirst.mem, hquestion, hplugged, hdown, hrejected⟩

/-- In another order, another of the running machines may be named. -/
theorem namesAlike_pluggedOnlyToDown {inv : Inventory} {op : Operation}
    (h : attachments.Perm attachments')
    (hheld : ∀ joined ∈ attachments,
      onlyThroughSnapshots = false ∨ joined.2.snapshotId.isSome = true →
      joined.2.plugged = true → joined.1.status ≠ .down → op.IsHeldUpBy inv joined.1) :
    op.NamesAlike inv (pluggedOnlyToDown onlyThroughSnapshots attachments)
      (pluggedOnlyToDown onlyThroughSnapshots attachments') := by
  have haccepted : pluggedOnlyToDown onlyThroughSnapshots attachments = .accepted ↔
      pluggedOnlyToDown onlyThroughSnapshots attachments' = .accepted := by
    simp only [pluggedOnlyToDown_eq_accepted_iff, h.mem_iff]
  rcases pluggedOnlyToDown_eq_accepted_or onlyThroughSnapshots attachments with
    hacc | ⟨joined, hj, hquestion, hplugged, hdown, hnamed⟩
  · rw [hacc, haccepted.1 hacc]
    exact .same .accepted
  rcases pluggedOnlyToDown_eq_accepted_or onlyThroughSnapshots attachments' with
    hacc | ⟨joined', hj', hquestion', hplugged', hdown', hnamed'⟩
  · rw [hacc, haccepted.2 hacc]
    exact .same .accepted
  rw [hnamed, hnamed']
  exact .notDown (hheld joined hj hquestion hplugged hdown)
    (hheld joined' (h.mem_iff.2 hj') hquestion' hplugged' hdown')

/-- All machines object in the same words. -/
theorem removableFromAll_eq_of_perm {disk : Disk} {vms vms' : List Vm} (h : vms.Perm vms') :
    removableFromAll disk vms = removableFromAll disk vms' := by
  have hobjection : ∀ v ∈ vms.map (removable disk), (!v.isAccepted) = true →
      v = .reject .hostedEngineDisk := by
    intro v hv hrejects
    obtain ⟨vm, -, rfl⟩ := List.mem_map.1 hv
    unfold removable Verdict.rejectIf at hrejects ⊢
    split at hrejects
    · rename_i hobjects
      rw [if_pos hobjects]
    · cases hrejects
  unfold removableFromAll
  rw [find?_eq_of_perm (h.map _) fun v hv v' hv' hrejects hrejects' => ?_]
  rw [hobjection v hv hrejects, hobjection v' hv' hrejects']

end DiskRule

namespace Operation

theorem notAlreadyAttached_eq_of_perm {vmId : Uuid} {vmName : String} {snapshotId : Option Uuid}
    {attachments attachments' : List (Vm × Attachment)} (h : attachments.Perm attachments') :
    notAlreadyAttached vmId vmName snapshotId attachments =
      notAlreadyAttached vmId vmName snapshotId attachments' := by
  unfold notAlreadyAttached
  rw [h.any_eq]

end Operation

/-! ## Loading in another order -/

namespace Inventory.Reorders

open Operation

variable {inv inv' : Inventory} {c : Capabilities} {op : Operation} (h : inv.Reorders inv')
  (hids : inv.UniqueIds)

include h hids

theorem vm?_eq (id : Uuid) : inv.vm? id = inv'.vm? id := find?_key_eq_of_perm h.vms hids.vms id

theorem disk?_eq (id : Uuid) : inv.disk? id = inv'.disk? id :=
  find?_key_eq_of_perm h.disks hids.disks id

theorem cluster?_eq (id : Uuid) : inv.cluster? id = inv'.cluster? id :=
  find?_key_eq_of_perm h.clusters hids.clusters id

theorem host?_eq (id : Uuid) : inv.host? id = inv'.host? id :=
  find?_key_eq_of_perm h.hosts hids.hosts id

/-- Every query but a join has the same answer. -/
theorem answer_eq (q : InventoryQuery) (hq : ¬ q.IsJoin) : inv.answer q = inv'.answer q := by
  cases q with
  | vm id => exact congrArg Except.ok (h.vm?_eq hids id)
  | cluster id => exact congrArg Except.ok (h.cluster?_eq hids id)
  | host id => exact congrArg Except.ok (h.host?_eq hids id)
  | disk id => exact congrArg Except.ok (h.disk?_eq hids id)
  | attachmentsOf disk => exact absurd trivial hq
  | disksOf vm onlyPlugged => exact absurd trivial hq
  | isNameInUse name pool => exact congrArg Except.ok h.vms.any_eq
  | hasController vm kind => exact congrArg Except.ok h.controllers.any_eq

/-- A rule that joins no tables comes to the same. -/
theorem eval_alike {rule : Consult Verdict}
    (hrule : rule.AsksOnly (fun _ _ => True) fun q => ¬ q.IsJoin) :
    op.ResultsAlike inv (rule.eval (.ofTables inv c)) (rule.eval (.ofTables inv' c)) := by
  have hsame : rule.eval (.ofTables inv c) = rule.eval (.ofTables inv' c) := by
    rw [← Consult.run_eq_eval _ _ [], ← Consult.run_eq_eval _ _ []]
    rw [hrule.run_congr (fun _ _ _ _ => trivial) fun _ q hq => ?_]
    cases q with
    | inventory q => exact h.answer_eq hids q hq
    | os q => rfl
    | settings q => rfl
  rw [hsame]
  exact .refl _

/-! ### Joins -/

theorem attachmentsOf_alike {diskId : Uuid} (hop : op.disk? = some diskId) :
    Alike List.Perm (op.Misses inv) (inv.attachmentsOf diskId) (inv'.attachmentsOf diskId) := by
  have hjoin : inv'.withVm = inv.withVm := by
    funext a
    rw [withVm, withVm, h.vm?_eq hids]
  unfold attachmentsOf
  rw [hjoin]
  refine alike_mapM (h.attachments.filter _) fun a ha fault hfault => ?_
  have hrow : inv.IsAttachmentOf diskId a := mem_attachmentRows.1 ha
  unfold withVm at hfault
  split at hfault
  · cases hfault
  · rename_i hvm
    cases hfault
    exact .vm hop hrow hvm

theorem pluggedDisksOf_alike {u : VmUpdate} :
    Alike List.Perm ((Operation.updateVm u).Misses inv) (inv.disksOf u.vm.id true)
      (inv'.disksOf u.vm.id true) := by
  have hjoin : inv'.withDisk = inv.withDisk := by
    funext a
    rw [withDisk, withDisk, h.disk?_eq hids]
  unfold disksOf
  rw [hjoin]
  refine alike_mapM (h.attachments.filter _) fun a ha fault hfault => ?_
  obtain ⟨hmem, hactive⟩ := List.mem_filter.1 ha
  have hrow : inv.IsPluggedInto u.vm.id a := ⟨hmem, isActiveOn_true_iff.1 hactive⟩
  unfold withDisk at hfault
  split at hfault
  · cases hfault
  · rename_i hdisk
    cases hfault
    exact .disk hrow hdisk

/-- A rule that only looks for some plugged disk, whichever it is. -/
theorem eval_pluggedDisksOf_alike {u : VmUpdate} (p : Disk × Attachment → Bool) (reason : Reason) :
    (Operation.updateVm u).ResultsAlike inv
      ((do return Verdict.rejectIf ((← Consult.pluggedDisksOf u.vm.id).any p) reason :
        Consult Verdict).eval (.ofTables inv c))
      ((do return Verdict.rejectIf ((← Consult.pluggedDisksOf u.vm.id).any p) reason :
        Consult Verdict).eval (.ofTables inv' c)) := by
  simp only [Consult.eval_bind, Consult.eval_pluggedDisksOf]
  refine (h.pluggedDisksOf_alike hids).bind fun disks disks' _ hperm => ?_
  rw [hperm.any_eq]
  exact ResultsAlike.refl _

theorem notAttached_eq (vmId : Uuid) :
    notAttached inv vmId = notAttached inv' vmId := by
  rw [notAttached, notAttached, h.vm?_eq hids]

omit h hids in
/-- A machine that is named is one of those that hold the operation up. -/
theorem isHeldUpBy_of_mem {diskId : Uuid} {attachments : List (Vm × Attachment)}
    (hjoin : inv.attachmentsOf diskId = .ok attachments) {joined : Vm × Attachment}
    (hj : joined ∈ attachments) (hdisturbs : joined.2.diskId = diskId → op.Disturbs joined.2)
    (hplugged : joined.2.plugged = true) (hdown : joined.1.status ≠ .down) :
    op.IsHeldUpBy inv joined.1 := by
  obtain ⟨⟨hmem, hid⟩, hvm⟩ := (mem_attachmentsOf hjoin).1 hj
  exact ⟨joined.2, hmem, hdisturbs hid, hvm, hplugged, hdown⟩

omit h hids in
/-- There is only one active attachment to be found. -/
theorem activeAttachment?_eq (honce : inv.AttachedOnce) {diskId : Uuid}
    {attachments attachments' : List (Vm × Attachment)}
    (hjoin : inv.attachmentsOf diskId = .ok attachments) (hperm : attachments.Perm attachments')
    (vmId : Uuid) :
    activeAttachment? attachments vmId = activeAttachment? attachments' vmId := by
  refine find?_eq_of_perm hperm fun joined hj joined' hj' hactive hactive' => ?_
  obtain ⟨⟨hmem, hid⟩, hvm⟩ := (mem_attachmentsOf hjoin).1 hj
  obtain ⟨⟨hmem', hid'⟩, hvm'⟩ := (mem_attachmentsOf hjoin).1 hj'
  obtain ⟨hon, hnone⟩ : joined.1.id = vmId ∧ joined.2.snapshotId = none := by simpa using hactive
  obtain ⟨hon', hnone'⟩ : joined'.1.id = vmId ∧ joined'.2.snapshotId = none := by
    simpa using hactive'
  rw [id_of_vm? hvm] at hon
  rw [id_of_vm? hvm'] at hon'
  -- both rows are in one place, and the machine is the one that the row names
  have hrow : joined.2 = joined'.2 := by
    refine List.inj_on_of_nodup_map honce ?_ ?_ ?_
    · simp [hmem, hnone]
    · simp [hmem', hnone']
    · rw [Attachment.place, Attachment.place, hon, hon', hid, hid', hnone, hnone']
  rw [← hrow, hvm] at hvm'
  exact Prod.ext (Option.some.inj hvm') hrow

/-! ### Operations -/

theorem updateVm_alike (u : VmUpdate) :
    (Operation.updateVm u).ResultsAlike inv ((Operation.updateVm u).judge inv c)
      ((Operation.updateVm u).judge inv' c) := by
  rw [judge_updateVm, judge_updateVm, ← h.vm?_eq hids]
  cases hvm : inv.vm? u.vm.id with
  | none => exact ResultsAlike.refl _
  | some current =>
    have hid : current.id = u.vm.id := id_of_vm? hvm
    simp only [← h.cluster?_eq hids]
    cases inv.cluster? current.clusterId with
    | none => exact ResultsAlike.refl _
    | some cluster =>
      refine ResultsAlike.answer_same (eachRule_vmSteps (fun _ => ResultsAlike.refl _)
        (h.eval_alike hids VmChange.asksOnly_name) (h.eval_alike hids VmChange.asksOnly_memory)
        (h.eval_alike hids VmChange.asksOnly_monitors)
        (h.eval_alike hids VmChange.asksOnly_cpuTopology)
        (h.eval_alike hids (VmChange.asksOnly_nameUnique id))
        (h.eval_alike hids (VmChange.asksOnly_hostsInCluster fun _ _ => id))
        (h.eval_alike hids VmChange.asksOnly_cpuSupported) ?_
        (h.eval_alike hids VmChange.asksOnly_virtioScsiSupported)
        (h.eval_alike hids VmChange.asksOnly_hostedEngineEditable) ?_)
      -- the two rules that are left look at the disks plugged into the machine
      · unfold VmChange.virtioScsiUnused
        rw [hid]
        exact h.eval_pluggedDisksOf_alike hids _ _
      · unfold VmChange.migrationWithReservation
        rw [hid]
        split
        · exact ResultsAlike.refl _
        · exact h.eval_pluggedDisksOf_alike hids _ _

theorem attachDisk_alike (disk : Disk) (vmId : Uuid) (snapshotId : Option Uuid) :
    (Operation.attachDisk disk vmId snapshotId).ResultsAlike inv
      ((Operation.attachDisk disk vmId snapshotId).judge inv c)
      ((Operation.attachDisk disk vmId snapshotId).judge inv' c) := by
  rw [judge_attachDisk, judge_attachDisk, ← h.vm?_eq hids]
  cases inv.vm? vmId with
  | none => exact ResultsAlike.refl _
  | some vm =>
    simp only [← h.disk?_eq hids]
    cases inv.disk? disk.id with
    | none => exact ResultsAlike.refl _
    | some stored =>
      refine (h.attachmentsOf_alike hids rfl).bind fun attachments attachments' _ hperm => ?_
      have hsteps : attachSteps stored disk vmId vm snapshotId attachments' =
          attachSteps stored disk vmId vm snapshotId attachments := by
        simp only [attachSteps, notAlreadyAttached_eq_of_perm hperm]
      rw [hsteps]
      exact ResultsAlike.answer_same (eachRule_attachSteps (fun _ => ResultsAlike.refl _)
        (h.eval_alike hids (DiskRule.asksOnly_interfaceCompatibility fun _ _ => id))
        (h.eval_alike hids DiskRule.asksOnly_interfaceSupportedForVm))

/-- The rules about a loaded update come to the same, but for the machine that is named. -/
theorem updateDiskSteps_alike {disk stored : Disk} {vmId? : Option Uuid} (vm? : Option Vm)
    {attachments attachments' : List (Vm × Attachment)}
    (hjoin : inv.attachmentsOf disk.id = .ok attachments) (hperm : attachments.Perm attachments') :
    (Operation.updateDisk disk vmId?).ResultsAlike inv
      (Step.answer (.ofTables inv c) (updateDiskSteps stored disk vm? attachments))
      (Step.answer (.ofTables inv' c) (updateDiskSteps stored disk vm? attachments')) := by
  refine ResultsAlike.answer ?_
  simp only [updateDiskSteps, List.forall₂_cons, List.forall₂_nil_left_iff, true_and, and_true]
  refine ⟨.refl _, .refl _, .refl _, ?_, ?_, .refl _, ?_⟩
  · exact h.eval_alike hids (DiskRule.asksOnly_interfaceCompatibility fun _ _ => id)
  · exact h.eval_alike hids DiskRule.asksOnly_interfaceSupportedForVm
  · exact .ok (DiskRule.namesAlike_pluggedOnlyToDown hperm fun joined hj _ hplugged hdown =>
      isHeldUpBy_of_mem hjoin hj id hplugged hdown)

theorem updateDisk_alike (honce : inv.AttachedOnce) (disk : Disk) (vmId? : Option Uuid) :
    (Operation.updateDisk disk vmId?).ResultsAlike inv
      ((Operation.updateDisk disk vmId?).judge inv c)
      ((Operation.updateDisk disk vmId?).judge inv' c) := by
  rw [judge_updateDisk, judge_updateDisk, ← h.disk?_eq hids]
  cases inv.disk? disk.id with
  | none => exact .refl _
  | some stored =>
    refine (h.attachmentsOf_alike hids rfl).bind fun attachments attachments' hjoin hperm => ?_
    cases vmId? with
    | none => exact h.updateDiskSteps_alike hids none hjoin hperm
    | some vmId =>
      simp only [← activeAttachment?_eq honce hjoin hperm vmId, ← h.notAttached_eq hids vmId]
      cases activeAttachment? attachments vmId with
      | none => exact ResultsAlike.refl _
      | some joined => exact h.updateDiskSteps_alike hids (some joined.1) hjoin hperm

theorem detachDisk_alike (honce : inv.AttachedOnce) (diskId vmId : Uuid) :
    (Operation.detachDisk diskId vmId).ResultsAlike inv
      ((Operation.detachDisk diskId vmId).judge inv c)
      ((Operation.detachDisk diskId vmId).judge inv' c) := by
  rw [judge_detachDisk, judge_detachDisk, ← h.disk?_eq hids]
  cases inv.disk? diskId with
  | none => exact .refl _
  | some disk =>
    refine (h.attachmentsOf_alike hids rfl).bind fun attachments attachments' hjoin hperm => ?_
    simp only [← activeAttachment?_eq honce hjoin hperm vmId, ← h.notAttached_eq hids vmId]
    cases activeAttachment? attachments vmId with
    | none => exact ResultsAlike.refl _
    | some joined =>
      exact ResultsAlike.answer_same (eachRule_detachSteps fun _ => ResultsAlike.refl _)

theorem removeDisk_alike (diskId : Uuid) :
    (Operation.removeDisk diskId).ResultsAlike inv ((Operation.removeDisk diskId).judge inv c)
      ((Operation.removeDisk diskId).judge inv' c) := by
  rw [judge_removeDisk, judge_removeDisk, ← h.disk?_eq hids]
  cases inv.disk? diskId with
  | none => exact .refl _
  | some disk =>
    refine (h.attachmentsOf_alike hids rfl).bind fun attachments attachments' hjoin hperm => ?_
    refine ResultsAlike.answer ?_
    simp only [removeSteps, List.forall₂_cons, List.forall₂_nil_left_iff, true_and, and_true]
    refine ⟨.refl _, ?_, ?_⟩
    · rw [DiskRule.removableFromAll_eq_of_perm (hperm.map Prod.fst)]
      exact .refl _
    · exact .ok (DiskRule.namesAlike_pluggedOnlyToDown hperm fun joined hj _ hplugged hdown =>
        isHeldUpBy_of_mem hjoin hj id hplugged hdown)

theorem removeDiskSnapshots_alike (diskId : Uuid) :
    (Operation.removeDiskSnapshots diskId).ResultsAlike inv
      ((Operation.removeDiskSnapshots diskId).judge inv c)
      ((Operation.removeDiskSnapshots diskId).judge inv' c) := by
  rw [judge_removeDiskSnapshots, judge_removeDiskSnapshots, ← h.disk?_eq hids]
  cases hdisk : inv.disk? diskId with
  | none => exact .refl _
  | some disk =>
    obtain rfl := id_of_disk? hdisk
    refine ResultsAlike.answer_same (eachRule_removeSnapshotsSteps (fun _ => .refl _) ?_)
    simp only [DiskRule.pluggedOnlyToDownVms, Consult.eval_bind, Consult.eval_attachmentsOf]
    refine (h.attachmentsOf_alike hids rfl).bind fun attachments attachments' hjoin hperm => ?_
    refine .ok (DiskRule.namesAlike_pluggedOnlyToDown hperm ?_)
    intro joined hj hquestion hplugged hdown
    have hsnapshot : joined.2.snapshotId.isSome = true := hquestion.resolve_left (by simp)
    exact isHeldUpBy_of_mem hjoin hj (fun hid => ⟨hid, hsnapshot⟩) hplugged hdown

/-- Whatever the operation, results in another order are alike. -/
theorem judge_alike (honce : inv.AttachedOnce) (c : Capabilities) (op : Operation) :
    op.ResultsAlike inv (op.judge inv c) (op.judge inv' c) := by
  cases op with
  | updateVm u => exact h.updateVm_alike hids u
  | attachDisk disk vmId snapshotId => exact h.attachDisk_alike hids disk vmId snapshotId
  | updateDisk disk vmId => exact h.updateDisk_alike hids honce disk vmId
  | detachDisk diskId vmId => exact h.detachDisk_alike hids honce diskId vmId
  | removeDisk diskId => exact h.removeDisk_alike hids diskId
  | removeDiskSnapshots diskId => exact h.removeDiskSnapshots_alike hids diskId

end Inventory.Reorders

/-- **The order of rows.** Where machines, clusters, hosts and disks have identifiers of their own
and no disk is attached twice to one machine itself, any reordering of the six tables comes to the
same decision on every operation: there is a verdict in the one order exactly if there is one in the
other, and an acceptance exactly if there is one. The verdicts are equal, except that a machine that
is not down may be another one, if that also has the disk plugged in and is not down. A fault may be
that of another missing row. -/
theorem reordering_keeps_decision {inv inv' : Inventory} (hids : inv.UniqueIds)
    (honce : inv.AttachedOnce) (h : inv.Reorders inv') (c : Capabilities) (op : Operation) :
    ((∃ v, op.judge inv c = .ok v) ↔ ∃ v, op.judge inv' c = .ok v) ∧
    (op.judge inv c = .ok .accepted ↔ op.judge inv' c = .ok .accepted) ∧
    (∀ v v', op.judge inv c = .ok v → op.judge inv' c = .ok v' →
      v = v' ∨ ∃ vm vm', op.IsHeldUpBy inv vm ∧ op.IsHeldUpBy inv vm' ∧
        v = vm.notDown ∧ v' = vm'.notDown) ∧
    ∀ fault fault', op.judge inv c = .error fault → op.judge inv' c = .error fault' →
      fault = fault' ∨ op.Misses inv fault ∧ op.Misses inv fault' := by
  have halike : op.ResultsAlike inv (op.judge inv c) (op.judge inv' c) :=
    h.judge_alike hids honce c op
  refine ⟨?_, halike.accepted_iff, ?_, ?_⟩
  · generalize op.judge inv c = x, op.judge inv' c = y at halike
    cases halike <;> simp
  · intro v v' hv hv'
    rw [hv, hv'] at halike
    cases halike with
    | ok hnames =>
      cases hnames with
      | same v => exact .inl rfl
      | notDown hvm hvm' => exact .inr ⟨_, _, hvm, hvm', rfl, rfl⟩
  · intro fault fault' hfault hfault'
    rw [hfault, hfault'] at halike
    cases halike with
    | same fault => exact .inl rfl
    | among hmisses hmisses' => exact .inr ⟨hmisses, hmisses'⟩

/-! ## Two machines to try it with -/

namespace RowOrder

open Usability

/-- The two machines that share a disk are both up. -/
def running : Inventory :=
  sharing HostedEngine.data { linux with status := .up } [{ windows with status := .up }]

/-- The same, with the attachments the other way around. -/
def turned : Inventory := { running with attachments := running.attachments.reverse }

theorem running_reorders_turned : running.Reorders turned where
  vms := .refl _
  clusters := .refl _
  hosts := .refl _
  disks := .refl _
  attachments := (List.reverse_perm _).symm
  controllers := .refl _

end RowOrder

open Usability RowOrder in
/-- A removal of the disk is held up by both machines, and names the one that is attached first. -/
theorem reordering_keeps_decision_for_running :
    running.UniqueIds ∧ running.AttachedOnce ∧ running.Reorders turned ∧
    (Operation.removeDisk scsiDisk.id).judge running .builtIn = .ok linux.notDown ∧
    (Operation.removeDisk scsiDisk.id).judge turned .builtIn = .ok windows.notDown ∧
    ∃ vm vm', (Operation.removeDisk scsiDisk.id).IsHeldUpBy running vm ∧
      (Operation.removeDisk scsiDisk.id).IsHeldUpBy running vm' ∧
      linux.notDown = vm.notDown ∧ windows.notDown = vm'.notDown := by
  have hids : running.UniqueIds := ⟨by decide, by decide, by decide, by decide⟩
  have honce : running.AttachedOnce := by decide +kernel
  have hlinux : (Operation.removeDisk scsiDisk.id).judge running .builtIn = .ok linux.notDown := by
    decide +kernel
  have hwindows :
      (Operation.removeDisk scsiDisk.id).judge turned .builtIn = .ok windows.notDown := by
    decide +kernel
  refine ⟨hids, honce, running_reorders_turned, hlinux, hwindows, ?_⟩
  obtain ⟨-, -, hverdicts, -⟩ :=
    reordering_keeps_decision hids honce running_reorders_turned .builtIn (.removeDisk scsiDisk.id)
  exact (hverdicts _ _ hlinux hwindows).resolve_left (by decide)

end VmAdmission
