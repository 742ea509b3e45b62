import VmAdmission.Proofs.Rule.Objections

/-!
# What the rules reject with

A reason fixes the names of the values that come with it (`Reason.placeholders`) and the kind of
operation that may be rejected for it (`Reason.subject`). What is true of every rejection that a
rule comes to is read off its objections (`Objection.Gives`). Rejections without values are told
apart no further. For each of the others, the lemma asks that it be as it should, given what is then
known of the rows.
-/

namespace VmAdmission

/-! ## Reasons -/

namespace Reason

/-- The names of the values that come with a reason. -/
def placeholders : Reason → List String
  | .vmIsNotDown | .diskAlreadyAttached => ["vmName"]
  | .interfaceIsNotReadOnlyCapable => ["interface"]
  | .diskInterfaceUnsupported => ["osName"]
  | .storageTypeNotSupported => ["diskStorageType"]
  | .nameIsTooLong => ["maxLength"]
  | .illegalMemorySize => ["minMemorySize", "maxMemorySize"]
  | .tooManyCpus => ["maxNumOfCpus"]
  | .tooManySockets => ["maxNumOfSockets"]
  | .tooManyCpusPerSocket => ["maxNumOfCpuPerSocket"]
  | .tooManyThreadsPerCpu => ["maxNumOfThreadsPerCpu"]
  | .dedicatedHostInOtherCluster => ["hostName"]
  | .cpuUnsupportedByGuestOs => ["cpuName", "osName"]
  | _ => []

/-- What an operation is about. -/
inductive Subject where
  | disks
  | machines
deriving DecidableEq

/-- What an operation rejected for a reason is about. Only a machine that is not found is no matter
of one kind of operation. -/
def subject : Reason → Option Subject
  | .vmNotFound => none
  | .scsiGenericIoOnImageDisk | .virtioScsiNotAvailableAtClusterLevel | .virtioScsiIsDisabled
  | .guestOsNotSupported | .diskInterfaceUnsupported | .interfaceIsNotReadOnlyCapable
  | .scsiPassthroughOnReadOnlyDisk | .vmIsNotDown | .ovfDiskNotSupported | .storageTypeNotSupported
  | .hostedEngineDisk | .scsiReservationOnFloatingDisk | .sgioIsFiltered | .diskNotFound
  | .diskAlreadyAttached | .diskNotAttached => some .disks
  | _ => some .machines

end Reason

variable {inv : Inventory} {c : Capabilities} {P : Rejection → Prop}

open Objection

/-! ## Lists of objections -/

theorem forall_mem_ite {α : Type} {p : Prop} [Decidable p] {xs : List α} {Q : α → Prop} :
    (∀ x ∈ if p then xs else [], Q x) ↔ (p → ∀ x ∈ xs, Q x) := by
  split <;> simp_all

theorem gives_missingVmObjections {rows : List Attachment} :
    ∀ o ∈ missingVmObjections inv rows, o.Gives P := by
  simp [missingVmObjections]

theorem gives_missingDiskObjections {rows : List Attachment} :
    ∀ o ∈ missingDiskObjections inv rows, o.Gives P := by
  simp [missingDiskObjections]

theorem gives_osObjections {id : OsId} {g : OsEntry → Objection}
    (h : ∀ os, c.os? id = some os → (g os).Gives P) : ∀ o ∈ osObjections c id g, o.Gives P := by
  simpa [osObjections] using h

theorem gives_attachedObjections {disk vm : Uuid} (hmissing : P ⟨.vmNotFound, []⟩)
    (h : P ⟨.diskNotAttached, []⟩) : ∀ o ∈ attachedObjections inv disk vm, o.Gives P := by
  simpa [attachedObjections] using ⟨fun _ => hmissing, fun _ => h⟩

/-! ## Rules about disks -/

namespace DiskRule

variable {disk : Disk} {vm? : Option Vm}

/-- An objection to a disk's interface names the guest operating system that does not support it. -/
theorem gives_interfaceObjections {i : DiskInterface}
    (h : ∀ vm os, vm? = some vm → c.os? vm.osId = some os →
      i ∉ os.diskInterfacesAt vm.effectiveVersion →
      P ⟨.diskInterfaceUnsupported, [⟨"osName", os.name⟩]⟩) :
    ∀ o ∈ interfaceObjections c i vm?, o.Gives P := by
  cases vm? with
  | none => simp [interfaceObjections]
  | some vm => exact gives_osObjections fun os hos => by simpa using h vm os rfl hos

/-- The machine named for being up is one that the disk is plugged into. -/
theorem gives_runningObjections {onlyThroughSnapshots : Bool} {rows : List Attachment}
    (h : ∀ a ∈ rows, ∀ vm, inv.vm? a.vmId = some vm → HoldsUp onlyThroughSnapshots (vm, a) →
      P ⟨.vmIsNotDown, [⟨"vmName", vm.name⟩]⟩) :
    ∀ o ∈ runningObjections inv onlyThroughSnapshots rows, o.Gives P := by
  simpa [runningObjections] using h

section Bare

variable (hbare : ∀ reason : Reason, reason.placeholders = [] → reason.subject = some .disks →
  P ⟨reason, []⟩)

include hbare

/-- A read-only disk is named by its interface only if that is IDE. -/
theorem gives_readOnlyObjections
    (h : disk.readOnly = true → disk.interface = .ide →
      P ⟨.interfaceIsNotReadOnlyCapable, [⟨"interface", disk.interface.displayName⟩]⟩) :
    ∀ o ∈ readOnlyObjections disk, o.Gives P := by
  simpa [readOnlyObjections] using
    ⟨h, fun _ _ => hbare .scsiPassthroughOnReadOnlyDisk rfl rfl⟩

theorem gives_reservationObjections : ∀ o ∈ reservationObjections disk vm?, o.Gives P := by
  simpa [reservationObjections] using
    ⟨fun _ _ _ _ => hbare .scsiReservationOnFloatingDisk rfl rfl,
      fun _ _ _ _ => hbare .sgioIsFiltered rfl rfl⟩

theorem gives_virtioScsiObjections : ∀ o ∈ virtioScsiObjections inv c disk vm?, o.Gives P := by
  unfold virtioScsiObjections
  rw [forall_mem_ite]
  intro _
  cases vm? with
  | none => simpa using fun _ _ => hbare .scsiGenericIoOnImageDisk rfl rfl
  | some vm =>
    simp only [List.forall_mem_cons, gives_reject]
    refine ⟨fun _ => hbare .scsiGenericIoOnImageDisk rfl rfl,
      fun _ => hbare .virtioScsiNotAvailableAtClusterLevel rfl rfl,
      fun _ => hbare .virtioScsiIsDisabled rfl rfl, gives_osObjections fun os _ => ?_⟩
    exact gives_reject.2 fun _ => hbare .guestOsNotSupported rfl rfl

end Bare

end DiskRule

/-! ## Rules about updates of machines -/

namespace VmChange

variable {ch : VmChange}

/-- The host named is in another cluster. -/
theorem gives_hostObjections {cluster : Uuid} {ids : List Uuid}
    (hmissing : P ⟨.dedicatedHostNotFound, []⟩)
    (h : ∀ id ∈ ids, ∀ host, inv.host? id = some host → host.clusterId ≠ cluster →
      P ⟨.dedicatedHostInOtherCluster, [⟨"hostName", host.name⟩]⟩) :
    ∀ o ∈ hostObjections inv cluster ids, o.Gives P := by
  rw [hostObjections, List.forall_mem_flatMap]
  intro id hid
  rw [List.forall_mem_cons, List.forall_mem_singleton, gives_reject, gives_about]
  exact ⟨fun _ => hmissing, fun host hhost => gives_reject.2 (h id hid host hhost)⟩

/-- The processor model and the guest operating system named do not go together. -/
theorem gives_cpuObjections
    (h : ∀ cpu os, ch.proposed.cpuName.or ch.cluster.cpuName = some cpu →
      c.os? ch.proposed.osId = some os → cpu ∈ os.unsupportedCpusAt ch.version →
      P ⟨.cpuUnsupportedByGuestOs, [⟨"cpuName", cpu⟩, ⟨"osName", os.name⟩]⟩) :
    ∀ o ∈ cpuObjections c ch, o.Gives P := by
  unfold cpuObjections
  cases hcpu : ch.proposed.cpuName.or ch.cluster.cpuName with
  | none => simp
  | some cpu => exact gives_osObjections fun os hos => by simpa using h cpu os hcpu hos

/-- The bounds named are those that the memory is outside of. -/
theorem gives_memoryObjections
    (h : ∀ os, c.os? ch.proposed.osId = some os →
      ¬ LegalMemory c os ch.version ch.proposed.memoryMb →
      P ⟨.illegalMemorySize,
        [⟨"minMemorySize", (max (os.minMemoryMbAt ch.version) c.settings.vmMinMemoryMb).toNat.repr⟩,
          ⟨"maxMemorySize", (os.maxMemoryMbAt ch.version).toNat.repr⟩]⟩) :
    ∀ o ∈ memoryObjections c ch, o.Gives P :=
  gives_osObjections fun os hos => gives_reject.2 (h os hos)

variable (hbare : ∀ reason : Reason, reason.placeholders = [] → reason.subject = some .machines →
  P ⟨reason, []⟩)

include hbare

/-- The length named is the limit that is exceeded. -/
theorem gives_nameObjections
    (h : ∀ os, c.os? ch.proposed.osId = some os →
      (c.settings.maxVmNameLength os.isWindows).toNat < ch.proposed.name.length →
      P ⟨.nameIsTooLong,
        [⟨"maxLength", (c.settings.maxVmNameLength os.isWindows).toNat.repr⟩]⟩) :
    ∀ o ∈ nameObjections c ch, o.Gives P := by
  simp only [nameObjections, List.forall_mem_cons, gives_reject]
  exact ⟨fun _ => hbare .nameIsEmpty rfl rfl, fun _ => hbare .nameHasSpecialChars rfl rfl,
    gives_osObjections fun os hos => gives_reject.2 (h os hos)⟩

/-- The number named is the limit that is exceeded. -/
theorem gives_topologyObjections {v : Version} {t : CpuTopology}
    (h : ∀ s : VersionedSetting, ∀ n, c.settings.limit? s v = some n → n.toNat < s.demand t →
      P (s.excess n)) :
    ∀ o ∈ topologyObjections c v t, o.Gives P := by
  rw [topologyObjections, List.forall_mem_cons, gives_reject, limitObjections,
    List.forall_mem_flatMap]
  refine ⟨fun _ => hbare .tooFewCpus rfl rfl, fun s _ => ?_⟩
  rw [List.forall_mem_cons, List.forall_mem_singleton, gives_about]
  exact ⟨gives_fault, fun n hn => gives_reject.2 (h s n hn)⟩

theorem gives_unusedObjections : ∀ o ∈ unusedObjections inv ch, o.Gives P := by
  rw [unusedObjections, List.forall_mem_append, List.forall_mem_singleton, gives_reject]
  exact ⟨gives_missingDiskObjections, fun _ => hbare .virtioScsiInUse rfl rfl⟩

theorem gives_supportedObjections : ∀ o ∈ supportedObjections c ch, o.Gives P :=
  gives_osObjections fun _ _ =>
    gives_reject.2 fun _ => hbare .virtioScsiUnsupportedByGuestOs rfl rfl

theorem gives_migrationObjections : ∀ o ∈ migrationObjections inv ch, o.Gives P := by
  rw [migrationObjections, forall_mem_ite, List.forall_mem_append, List.forall_mem_singleton,
    gives_reject]
  exact fun _ => ⟨gives_missingDiskObjections, fun _ => hbare .vmUsesScsiReservation rfl rfl⟩

end VmChange

end VmAdmission
