import VmAdmission.Proofs.DiskIdentity
import VmAdmission.Proofs.Usability

/-!
# Fields of a request that are not looked at

The same types describe what is stored and what is proposed, so a proposal states fields that are
not its to decide: of a machine, its status and the version of its cluster, which only the running
system knows; of a disk, its alias, its size, the name of its LUN and whether it is an internal
volume, which the stored disk says. `unread_fields_ignored`: no rule looks at them, so proposals
that differ in nothing else have the same decision.
-/

namespace VmAdmission

/-! ## Machines -/

/-- The machine as it would be proposed with another status and version of its cluster. -/
def Vm.claiming (vm : Vm) (status : VmStatus) (version : Version) : Vm :=
  { vm with status, clusterCompatibilityVersion := version }

/-- The two machines differ at most in the status and the version of the cluster that they claim. -/
def Vm.ProposesLike (p q : Vm) : Prop := p.claiming q.status q.clusterCompatibilityVersion = q

theorem Vm.ProposesLike.id {p q : Vm} (h : p.ProposesLike q) : p.id = q.id := by
  rw [← h]
  rfl

namespace Operation

variable {current p q : Vm} {cluster : Cluster} {enabled : Option Bool}

/-- The rules about an update look at the status and the cluster's version of neither machine: the
version that counts is the proposed custom one, or that of the cluster's row. -/
theorem vmSteps_claiming (status : VmStatus) (version : Version) :
    vmSteps ⟨current, p.claiming status version, cluster⟩ enabled =
      vmSteps ⟨current, p, cluster⟩ enabled := rfl

theorem plan_updateVm_eq (h : p.ProposesLike q) :
    (updateVm ⟨p, enabled⟩).plan = (updateVm ⟨q, enabled⟩).plan := by
  rw [← h]
  simp only [plan, updateVmPlan, vmSteps_claiming]
  rfl

theorem decision_updateVm_eq (h : p.ProposesLike q) :
    (updateVm ⟨p, enabled⟩).decision = (updateVm ⟨q, enabled⟩).decision := by
  refine decision_congr (plan_updateVm_eq h) rfl ?_
  simp only [checkContext, context, kind, h.id]

end Operation

/-! ## Disks -/

/-- Of disks on the same kind of storage, the rule about SGIO on images strikes both or neither. -/
theorem Disk.RequestsLike.putsSgioOnImage_iff {d e : Disk} (h : d.RequestsLike e)
    (hstorage : d.storageType = e.storageType) : d.PutsSgioOnImage ↔ e.PutsSgioOnImage := by
  unfold PutsSgioOnImage
  rw [h.interface, h.sgio, hstorage]

theorem Operation.decision_updateDisk_eq {d e : Disk} (h : d.RequestsLike e)
    (hstorage : d.storageType = e.storageType) (vmId : Option Uuid) :
    (updateDisk d vmId).decision = (updateDisk e vmId).decision := by
  refine decision_congr (plan_updateDisk_eq h (h.putsSgioOnImage_iff hstorage)) rfl ?_
  simp only [checkContext, context, kind, h.id]

/-- **Fields that are not looked at.** By any services, whatever they answer:

1. two updates of a machine that differ only in the status and the version of the cluster that they
   claim for it have the same result, the same queries and the same log;
2. so have two updates of a disk, through the same machine or none, that differ only in its alias,
   in the flag of an internal volume, in its size and in the name of its LUN: the identifier, the
   interface, the SCSI settings, the kind of storage and the requested reservation are the same. -/
theorem unread_fields_ignored (services : Services) (asked : List Query) :
    (∀ p q : Vm, p.ProposesLike q → ∀ enabled,
      (Operation.updateVm ⟨p, enabled⟩).decision services asked =
        (Operation.updateVm ⟨q, enabled⟩).decision services asked) ∧
    (∀ d e : Disk, d.RequestsLike e → d.storageType = e.storageType → ∀ vmId,
      (Operation.updateDisk d vmId).decision services asked =
        (Operation.updateDisk e vmId).decision services asked) := by
  constructor
  · intro p q h enabled
    rw [Operation.decision_updateVm_eq h]
  · intro d e h hstorage vmId
    rw [Operation.decision_updateDisk_eq h hstorage]

/-! ## Proposals to try it with -/

section Claiming

open ProtectedDisks Usability

/-- A machine that claims to run, at a version without any limits, is updated as the one that is
stored; and a LUN that takes the alias of the hosted-engine machine, another name and the flag of an
internal volume is updated as an ordinary one. -/
theorem unread_fields_ignored_for_linux :
    (linux.ProposesLike (linux.claiming .up ⟨1, 0⟩) ∧
      (Operation.updateVm ⟨linux.claiming .up ⟨1, 0⟩, none⟩).judge
          (sharing HostedEngine.data linux []) .builtIn =
        .ok .accepted) ∧
    (DiskIdentity.ordinary.RequestsLike { lun with infrastructureStore := true } ∧
      (Operation.updateDisk { lun with infrastructureStore := true } none).judge
          DiskIdentity.floating .builtIn =
        .ok .accepted) := by
  have hvm : linux.ProposesLike (linux.claiming .up ⟨1, 0⟩) := rfl
  have hdisk : DiskIdentity.ordinary.RequestsLike { lun with infrastructureStore := true } :=
    ⟨rfl, rfl, rfl, rfl, rfl, rfl⟩
  refine ⟨⟨hvm, ?_⟩, ⟨hdisk, ?_⟩⟩
  · unfold Operation.judge
    rw [← (unread_fields_ignored _ _).1 _ _ hvm]
    decide +kernel
  · unfold Operation.judge
    rw [← (unread_fields_ignored _ _).2 _ _ hdisk rfl]
    decide +kernel

end Claiming

end VmAdmission
