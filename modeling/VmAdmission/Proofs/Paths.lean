import VmAdmission.Decision

/-!
# Paths through a consultation

A consultation is a tree: each answer leads on to other queries, and in the end to a value.
`Consult.Keeps` says of all paths through the tree which queries are put on them and what they come
to, for the answers that may be given. The plans are gone through once: there is one lemma for the
loading of each (`keeps_updateVmPlan` and so on), and one for the rules on its list
(`eachRule_vmSteps` and so on).

Services that agree on every query that may be put are not told apart, neither by a consultation
(`Consult.Keeps.run_congr`) nor by a whole decision (`Operation.AsksOnly.decision_congr`).
-/

namespace VmAdmission

variable {α : Type} {given : (q : Query) → q.Answer → Prop} {may : Query → Prop}
  {reads : InventoryQuery → Prop} {s t : Services} {asked : List Query}

/-! ## Along all paths -/

namespace Consult

/-- Along each path of answers that may be given, only such queries are put as may be, and what the
path comes to is as it should be. -/
def Keeps (given : (q : Query) → q.Answer → Prop) (may : Query → Prop) (post : α → Prop) :
    Consult α → Prop
  | .done x => post x
  | .ask q next => may q ∧ ∀ a, given q a → (next a).Keeps given may post

variable {post : α → Prop} {c : Consult α}

@[simp] theorem keeps_done {x : α} : (Consult.done x).Keeps given may post ↔ post x := Iff.rfl

@[simp] theorem keeps_ask {q : Query} {next : q.Answer → Consult α} :
    (Consult.ask q next).Keeps given may post ↔
      may q ∧ ∀ a, given q a → (next a).Keeps given may post := Iff.rfl

@[simp] theorem keeps_ite {p : Prop} [Decidable p] {x y : Consult α} :
    (if p then x else y).Keeps given may post ↔
      if p then x.Keeps given may post else y.Keeps given may post := by
  split <;> rfl

/-- What a run comes to is as it should be. -/
theorem Keeps.of_run (h : c.Keeps given may post)
    (hgiven : ∀ asked q a, s asked q = .ok a → given q a) {x : α} {after : List Query}
    (hrun : c.run s asked = (.ok x, after)) : post x := by
  induction c generalizing asked with
  | done y =>
    cases hrun
    exact h
  | ask q next ih =>
    rw [run] at hrun
    cases hq : s asked q with
    | error fault =>
      rw [hq] at hrun
      cases hrun
    | ok a =>
      rw [hq] at hrun
      exact ih a (h.2 a (hgiven _ _ _ hq)) hrun

/-- Services that agree on all that may be asked are not told apart. -/
theorem Keeps.run_congr (h : c.Keeps given may post)
    (hgiven : ∀ asked q a, s asked q = .ok a → given q a)
    (hsame : ∀ asked q, may q → s asked q = t asked q) : c.run s asked = c.run t asked := by
  induction c generalizing asked with
  | done x => rfl
  | ask q next ih =>
    rw [run, run, ← hsame asked q h.1]
    cases hq : s asked q with
    | error fault => rfl
    | ok a => exact ih a (h.2 a (hgiven _ _ _ hq))

end Consult

/-! ## Paths through the plans -/

namespace Operation

open Consult

variable {post : Plan → Prop} (hrejected : ∀ reason, post (.rejected reason))

include hrejected

theorem keeps_updateVmPlan {u : VmUpdate} (hvm : may (.inventory (.vm u.vm.id)))
    (hcluster : ∀ current, given (.inventory (.vm u.vm.id)) (some current) →
      may (.inventory (.cluster current.clusterId)))
    (hsteps : ∀ current cluster, given (.inventory (.vm u.vm.id)) (some current) →
      post (.checks (vmSteps ⟨current, u.vm, cluster⟩ u.virtioScsiEnabled))) :
    (updateVmPlan u).Keeps given may post := by
  simp only [updateVmPlan, vm?, cluster?, query, ask_bind, done_bind, keeps_ask]
  refine ⟨hvm, fun found hfound => ?_⟩
  cases found with
  | none => exact hrejected _
  | some current =>
    refine ⟨hcluster current hfound, fun found _ => ?_⟩
    cases found with
    | none => exact hrejected _
    | some cluster => exact hsteps current cluster hfound

theorem keeps_attachPlan {disk : Disk} {vmId : Uuid} {snapshotId : Option Uuid}
    (hvm : may (.inventory (.vm vmId))) (hdisk : may (.inventory (.disk disk.id)))
    (hattachments : may (.inventory (.attachmentsOf disk.id)))
    (hsteps : ∀ vm stored attachments, given (.inventory (.vm vmId)) (some vm) →
      post (.checks (attachSteps stored disk vmId vm snapshotId attachments))) :
    (attachPlan disk vmId snapshotId).Keeps given may post := by
  simp only [attachPlan, vm?, disk?, attachmentsOf, query, ask_bind, done_bind, keeps_ask]
  refine ⟨hvm, fun found hfound => ?_⟩
  cases found with
  | none => exact hrejected _
  | some vm =>
    refine ⟨hdisk, fun found _ => ?_⟩
    cases found with
    | none => exact hrejected _
    | some stored =>
      exact ⟨hattachments, fun attachments _ => hsteps vm stored attachments hfound⟩

theorem keeps_notAttachedPlan {vmId : Uuid} (hvm : may (.inventory (.vm vmId))) :
    (notAttachedPlan vmId).Keeps given may post := by
  simp only [notAttachedPlan, vm?, query, ask_bind, done_bind, keeps_ask]
  refine ⟨hvm, fun found _ => ?_⟩
  cases found with
  | none => exact hrejected _
  | some vm => exact hrejected _

theorem keeps_updateDiskPlan {disk : Disk} {vmId? : Option Uuid}
    (hdisk : may (.inventory (.disk disk.id)))
    (hattachments : may (.inventory (.attachmentsOf disk.id)))
    (hvm : ∀ vmId, vmId? = some vmId → may (.inventory (.vm vmId)))
    (hsteps : ∀ stored vm? attachments, given (.inventory (.attachmentsOf disk.id)) attachments →
      (∀ vm, vm? = some vm → vmId? = some vm.id ∧ ∃ a, (vm, a) ∈ attachments) →
      post (.checks (updateDiskSteps stored disk vm? attachments))) :
    (updateDiskPlan disk vmId?).Keeps given may post := by
  simp only [updateDiskPlan, disk?, attachmentsOf, query, ask_bind, done_bind, keeps_ask]
  refine ⟨hdisk, fun found _ => ?_⟩
  cases found with
  | none => exact hrejected _
  | some stored =>
    refine ⟨hattachments, fun attachments hgiven => ?_⟩
    cases vmId? with
    | none => exact hsteps stored none attachments hgiven (by simp)
    | some vmId =>
      simp only
      cases hactive : activeAttachment? attachments vmId with
      | none => exact keeps_notAttachedPlan hrejected (hvm vmId rfl)
      | some joined =>
        -- the attachment is found by the machine's identifier
        obtain ⟨hid, -⟩ : joined.1.id = vmId ∧ joined.2.snapshotId = none := by
          simpa using List.find?_some hactive
        refine hsteps stored (some joined.1) attachments hgiven fun vm hvm => ?_
        cases hvm
        exact ⟨by rw [hid], joined.2, List.mem_of_find?_eq_some hactive⟩

theorem keeps_detachPlan {diskId vmId : Uuid} (hdisk : may (.inventory (.disk diskId)))
    (hattachments : may (.inventory (.attachmentsOf diskId)))
    (hvm : may (.inventory (.vm vmId)))
    (hsteps : ∀ disk joined, post (.checks (detachSteps disk joined))) :
    (detachPlan diskId vmId).Keeps given may post := by
  simp only [detachPlan, disk?, attachmentsOf, query, ask_bind, done_bind, keeps_ask]
  refine ⟨hdisk, fun found _ => ?_⟩
  cases found with
  | none => exact hrejected _
  | some disk =>
    refine ⟨hattachments, fun attachments _ => ?_⟩
    simp only
    cases activeAttachment? attachments vmId with
    | none => exact keeps_notAttachedPlan hrejected hvm
    | some joined => exact hsteps disk joined

theorem keeps_removePlan {diskId : Uuid} (hdisk : may (.inventory (.disk diskId)))
    (hattachments : may (.inventory (.attachmentsOf diskId)))
    (hsteps : ∀ disk attachments, post (.checks (removeSteps disk attachments))) :
    (removePlan diskId).Keeps given may post := by
  simp only [removePlan, disk?, attachmentsOf, query, ask_bind, done_bind, keeps_ask]
  refine ⟨hdisk, fun found _ => ?_⟩
  cases found with
  | none => exact hrejected _
  | some disk => exact ⟨hattachments, fun attachments _ => hsteps disk attachments⟩

theorem keeps_removeSnapshotsPlan {diskId : Uuid} (hdisk : may (.inventory (.disk diskId)))
    (hsteps : ∀ disk, given (.inventory (.disk diskId)) (some disk) →
      post (.checks (removeSnapshotsSteps disk))) :
    (removeSnapshotsPlan diskId).Keeps given may post := by
  simp only [removeSnapshotsPlan, disk?, query, ask_bind, done_bind, keeps_ask]
  refine ⟨hdisk, fun found hfound => ?_⟩
  cases found with
  | none => exact hrejected _
  | some disk => exact hsteps disk hfound

end Operation

/-! ## Rules of a plan -/

/-- Every rule of a plan has a property. -/
def Plan.EachRule (p : Consult Verdict → Prop) : Plan → Prop
  | .settled _ => True
  | .checks steps => ∀ step ∈ steps, p step.rule

namespace Operation

-- many rules come to a verdict without any question
variable {p : Consult Verdict → Prop} (hdone : ∀ verdict, p (.done verdict))

include hdone

theorem eachRule_vmSteps {ch : VmChange} {enabled : Option Bool} (hname : p ch.name)
    (hmemory : p ch.memory) (hmonitors : p ch.monitors) (htopology : p ch.cpuTopology)
    (hunique : p ch.nameUnique) (hhosts : p ch.dedicatedHosts) (hcpu : p ch.cpuSupported)
    (hunused : p ch.virtioScsiUnused) (hsupported : p ch.virtioScsiSupported)
    (heditable : p ch.hostedEngineEditable) (hreservation : p ch.migrationWithReservation) :
    Plan.EachRule p (.checks (vmSteps ch enabled)) := by
  simp only [Plan.EachRule, vmSteps, List.forall_mem_cons, List.not_mem_nil, false_implies,
    implies_true, and_true]
  exact ⟨hname, hmemory, hmonitors, htopology, hunique, hdone _, hhosts, hcpu, hunused,
    hsupported, heditable, hreservation⟩

theorem eachRule_attachSteps {stored requested : Disk} {vmId : Uuid} {vm : Vm}
    {snapshotId : Option Uuid} {attachments : List (Vm × Attachment)}
    (hcompatible : p (DiskRule.interfaceCompatibility requested (some vm)))
    (hsupported : p (DiskRule.interfaceSupportedForVm requested (some vm))) :
    Plan.EachRule p (.checks (attachSteps stored requested vmId vm snapshotId attachments)) := by
  simp only [Plan.EachRule, attachSteps, List.forall_mem_cons, List.not_mem_nil, false_implies,
    implies_true, and_true]
  exact ⟨hdone _, hdone _, hdone _, hdone _, hdone _, hcompatible, hsupported, hdone _⟩

theorem eachRule_updateDiskSteps {stored proposed : Disk} {vm? : Option Vm}
    {attachments : List (Vm × Attachment)}
    (hcompatible : p (DiskRule.interfaceCompatibility proposed vm?))
    (hsupported : p (DiskRule.interfaceSupportedForVm proposed vm?)) :
    Plan.EachRule p (.checks (updateDiskSteps stored proposed vm? attachments)) := by
  simp only [Plan.EachRule, updateDiskSteps, List.forall_mem_cons, List.not_mem_nil,
    false_implies, implies_true, and_true]
  exact ⟨hdone _, hdone _, hdone _, hcompatible, hsupported, hdone _, hdone _⟩

theorem eachRule_detachSteps {disk : Disk} {attachment : Vm × Attachment} :
    Plan.EachRule p (.checks (detachSteps disk attachment)) := by
  simp only [Plan.EachRule, detachSteps, List.forall_mem_cons, List.not_mem_nil, false_implies,
    implies_true, and_true]
  exact ⟨hdone _, hdone _, hdone _⟩

theorem eachRule_removeSteps {disk : Disk} {attachments : List (Vm × Attachment)} :
    Plan.EachRule p (.checks (removeSteps disk attachments)) := by
  simp only [Plan.EachRule, removeSteps, List.forall_mem_cons, List.not_mem_nil, false_implies,
    implies_true, and_true]
  exact ⟨hdone _, hdone _, hdone _⟩

/-- The attachments are not loaded with the disk, but asked for by the rule itself. -/
theorem eachRule_removeSnapshotsSteps {disk : Disk}
    (hrunning : p (DiskRule.pluggedOnlyToDownVms disk true none)) :
    Plan.EachRule p (.checks (removeSnapshotsSteps disk)) := by
  simp only [Plan.EachRule, removeSnapshotsSteps, List.forall_mem_cons, List.not_mem_nil,
    false_implies, implies_true, and_true]
  exact ⟨hdone _, hrunning⟩

end Operation

/-! ## Questions to the inventory -/

/-- A query is one of some to the inventory, or goes to another service. -/
def Query.Inside (reads : InventoryQuery → Prop) : Query → Prop
  | .inventory q => reads q
  | .os _ | .settings _ => True

@[simp] theorem Query.inside_inventory {q : InventoryQuery} :
    (Query.inventory q).Inside reads ↔ reads q := Iff.rfl

@[simp] theorem Query.inside_os {q : OsQuery} : (Query.os q).Inside reads := trivial

@[simp] theorem Query.inside_settings {q : SettingsQuery} : (Query.settings q).Inside reads :=
  trivial

/-- Of the inventory, only questions among some are asked. -/
abbrev Consult.AsksOnly (given : (q : Query) → q.Answer → Prop) (reads : InventoryQuery → Prop)
    (c : Consult α) : Prop :=
  c.Keeps given (Query.Inside reads) fun _ => True

/-- The same of the rules of a plan. -/
abbrev Plan.AsksOnly (given : (q : Query) → q.Answer → Prop) (reads : InventoryQuery → Prop) :
    Plan → Prop :=
  Plan.EachRule (Consult.AsksOnly given reads)

/-- The same of all that is done for an operation. -/
def Operation.AsksOnly (given : (q : Query) → q.Answer → Prop) (reads : InventoryQuery → Prop)
    (op : Operation) : Prop :=
  op.plan.Keeps given (Query.Inside reads) (Plan.AsksOnly given reads)

section Congruence

variable (hgiven : ∀ asked q a, s asked q = .ok a → given q a)
  (hsame : ∀ asked q, Query.Inside reads q → s asked q = t asked q)

include hgiven hsame

theorem Plan.AsksOnly.run_congr {plan : Plan} (h : plan.AsksOnly given reads) :
    plan.run s asked = plan.run t asked := by
  cases plan with
  | settled verdict => rfl
  | checks steps =>
    have hchecks : steps.map (Step.toCheck s) = steps.map (Step.toCheck t) := by
      refine List.map_congr_left fun step hstep => ?_
      simp only [Step.toCheck, Check.mk.injEq, true_and]
      exact funext fun asked => (h step hstep).run_congr hgiven hsame
    rw [run, run, hchecks]

/-- Services that agree on all that may be asked for an operation come to the same decision, with
the same queries and the same log. -/
theorem Operation.AsksOnly.decision_congr {op : Operation} (h : op.AsksOnly given reads) :
    op.decision s asked = op.decision t asked := by
  unfold decision
  rw [← Consult.Keeps.run_congr h hgiven hsame]
  rcases hload : op.plan.run s asked with ⟨fault | plan, after⟩
  · rfl
  · have hplan : plan.AsksOnly given reads := h.of_run hgiven hload
    simp only [Plan.AsksOnly.run_congr hgiven hsame hplan]

end Congruence

end VmAdmission
