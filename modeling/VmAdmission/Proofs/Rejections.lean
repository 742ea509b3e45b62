import VmAdmission.Proofs.Quiescence
import VmAdmission.Proofs.ReservationRequests
import VmAdmission.Proofs.Rule.Rejections

/-!
# What a rejection says

A rejection carries a reason, and values for the reason's message. `Explains` lists what a rejection
may say of an operation judged by tables, and what each value then bears witness to: the machine
named is up and has the disk plugged in, the limit named is exceeded, and so on. Every rejection is
on the list (`rejection_bears_witness`), so the reason alone fixes the names of the values and the
kind of operation.
-/

namespace VmAdmission

/-! ## What an operation compares -/

/-- The stored machine that an update is about, the proposed one, and the cluster of the former. -/
structure Inventory.IsChange (inv : Inventory) (u : VmUpdate) (ch : VmChange) : Prop where
  current : inv.vm? u.vm.id = some ch.current
  proposed : ch.proposed = u.vm
  cluster : inv.cluster? ch.current.clusterId = some ch.cluster

namespace Operation

/-- What an operation is about. -/
def subject : Operation → Reason.Subject
  | .updateVm _ => .machines
  | .attachDisk _ _ _ | .updateDisk _ _ | .detachDisk _ _ | .removeDisk _
  | .removeDiskSnapshots _ => .disks

/-- The attachments of the disk that an operation looks at for machines that are up. -/
def LooksAt : Operation → Attachment → Prop
  | .updateDisk disk _, a => a.diskId = disk.id
  | .detachDisk diskId vmId, a => a.diskId = diskId ∧ a.vmId = vmId ∧ a.snapshotId = none
  | .removeDisk diskId, a => a.diskId = diskId
  | .removeDiskSnapshots diskId, a => a.diskId = diskId ∧ a.snapshotId.isSome = true
  | .updateVm _, _ | .attachDisk _ _ _, _ => False

end Operation

/-! ## Explanations -/

section Explanations

variable (inv : Inventory) (c : Capabilities)

/-- What a rejection of an operation may say, with what the tables hold to bear it out. -/
inductive Explains : Operation → Rejection → Prop
  /-- A reason without values, which is one of the operation's kind. -/
  | bare {op : Operation} {reason : Reason} (hplaceholders : reason.placeholders = [])
    (hsubject : ∀ subject, reason.subject = some subject → op.subject = subject) :
    Explains op ⟨reason, []⟩
  /-- The machine named is not down, and has the disk plugged in. -/
  | up {op : Operation} {a : Attachment} {vm : Vm} (ha : a ∈ inv.attachments) (hop : op.LooksAt a)
    (hvm : inv.vm? a.vmId = some vm) (hplugged : a.plugged = true) (hup : vm.status ≠ .down) :
    Explains op ⟨.vmIsNotDown, [⟨"vmName", vm.name⟩]⟩
  /-- The machine named has the disk attached already. -/
  | attached {disk : Disk} {vmId : Uuid} {snapshotId : Option Uuid} {vm : Vm}
    (hvm : inv.vm? vmId = some vm) (hattached : inv.IsAttached disk.id vmId snapshotId) :
    Explains (.attachDisk disk vmId snapshotId) ⟨.diskAlreadyAttached, [⟨"vmName", vm.name⟩]⟩
  /-- The interface named is that of the disk presented, which is read-only on IDE. -/
  | readOnly {op : Operation} {disk : Disk} (hdisk : op.presented? = some disk)
    (hreadOnly : disk.readOnly = true) (hide : disk.interface = .ide) :
    Explains op
      ⟨.interfaceIsNotReadOnlyCapable, [⟨"interface", disk.interface.displayName⟩]⟩
  /-- The guest operating system named is that of the operation's machine, and does not support the
  interface of the disk presented. -/
  | interface {op : Operation} {disk : Disk} {vmId : Uuid} {vm : Vm} {os : OsEntry}
    (hdisk : op.presented? = some disk) (hvmId : op.vmId? = some vmId)
    (hvm : inv.vm? vmId = some vm) (hos : c.os? vm.osId = some os)
    (hunsupported : disk.interface ∉ os.diskInterfacesAt vm.effectiveVersion) :
    Explains op ⟨.diskInterfaceUnsupported, [⟨"osName", os.name⟩]⟩
  /-- The storage type named is that of the stored disk, and cannot go with a snapshot. -/
  | storageType {requested stored : Disk} {vmId snapshotId : Uuid}
    (hstored : inv.disk? requested.id = some stored)
    (hexcluded : stored.storageType = .lun ∨ stored.storageType = .cinder) :
    Explains (.attachDisk requested vmId (some snapshotId))
      ⟨.storageTypeNotSupported, [⟨"diskStorageType", stored.storageType.displayName⟩]⟩
  /-- The length named is the greatest for the guest operating system, and is exceeded. -/
  | name {u : VmUpdate} {os : OsEntry} (hos : c.os? u.vm.osId = some os)
    (hlong : (c.settings.maxVmNameLength os.isWindows).toNat < u.vm.name.length) :
    Explains (.updateVm u)
      ⟨.nameIsTooLong,
        [⟨"maxLength", (c.settings.maxVmNameLength os.isWindows).toNat.repr⟩]⟩
  /-- The sizes named are the bounds of the guest operating system, and the memory is outside. -/
  | memory {u : VmUpdate} {ch : VmChange} {os : OsEntry} (hch : inv.IsChange u ch)
    (hos : c.os? u.vm.osId = some os) (hillegal : ¬ LegalMemory c os ch.version u.vm.memoryMb) :
    Explains (.updateVm u)
      ⟨.illegalMemorySize,
        [⟨"minMemorySize",
          (max (os.minMemoryMbAt ch.version) c.settings.vmMinMemoryMb).toNat.repr⟩,
          ⟨"maxMemorySize", (os.maxMemoryMbAt ch.version).toNat.repr⟩]⟩
  /-- The number named is the limit that the reason is about, and is exceeded. -/
  | cpus {u : VmUpdate} {ch : VmChange} {l : VmChange.CpuLimit} {n : UInt32}
    (hch : inv.IsChange u ch) (hl : l ∈ VmChange.cpuLimits)
    (hlimit : c.settings.limit? l.setting ch.version = some n)
    (hexceeded : n.toUInt64 < l.requested u.vm.cpuTopology) :
    Explains (.updateVm u) ⟨l.reason, [⟨l.placeholder, n.toNat.repr⟩]⟩
  /-- The machine is to be pinned to the host named, which is in another cluster. -/
  | host {u : VmUpdate} {ch : VmChange} {id : Uuid} {host : Host} (hch : inv.IsChange u ch)
    (hid : id ∈ u.vm.dedicatedHosts) (hhost : inv.host? id = some host)
    (hother : host.clusterId ≠ ch.cluster.id) :
    Explains (.updateVm u) ⟨.dedicatedHostInOtherCluster, [⟨"hostName", host.name⟩]⟩
  /-- The processor model named is the machine's or else the cluster's, and the guest operating
  system named does not run on it. -/
  | cpu {u : VmUpdate} {ch : VmChange} {cpu : String} {os : OsEntry} (hch : inv.IsChange u ch)
    (hcpu : u.vm.cpuName.or ch.cluster.cpuName = some cpu) (hos : c.os? u.vm.osId = some os)
    (hunsupported : cpu ∈ os.unsupportedCpusAt ch.version) :
    Explains (.updateVm u)
      ⟨.cpuUnsupportedByGuestOs, [⟨"cpuName", cpu⟩, ⟨"osName", os.name⟩]⟩

end Explanations

variable {inv : Inventory} {c : Capabilities} {op : Operation} {r : Rejection}

/-- The limits of the processor layout are reported each for a reason of its own. -/
theorem VmChange.reason_of_mem_cpuLimits {l : VmChange.CpuLimit} (h : l ∈ VmChange.cpuLimits) :
    l.reason.placeholders = [l.placeholder] ∧ l.reason.subject = some .machines := by
  simp only [cpuLimits, List.mem_cons, List.not_mem_nil, or_false] at h
  rcases h with rfl | rfl | rfl | rfl <;> exact ⟨rfl, rfl⟩

namespace Explains

/-- The values have the names that the reason fixes. -/
theorem placeholders (h : Explains inv c op r) :
    r.params.map Substitution.placeholder = r.reason.placeholders := by
  cases h with
  | bare hplaceholders _ => exact hplaceholders.symm
  | cpus _ hl _ _ => exact (VmChange.reason_of_mem_cpuLimits hl).1.symm
  | up | attached | readOnly | interface | storageType | name | memory | host | cpu => rfl

/-- The number that is named for a limit is exceeded by what is asked of the limit. -/
theorem excess {u : VmUpdate} {ch : VmChange} {s : VersionedSetting} {n : UInt32}
    (hch : inv.IsChange u ch) (hn : c.settings.limit? s ch.version = some n)
    (hexceeded : n.toNat < s.demand u.vm.cpuTopology) :
    Explains inv c (.updateVm u) (s.excess n) := by
  have hl : VmChange.cpuLimit s ∈ VmChange.cpuLimits := by
    rw [VmChange.cpuLimits_eq_map]
    exact List.mem_map_of_mem s.mem_all
  have hlimit : c.settings.limit? (VmChange.cpuLimit s).setting ch.version = some n := by
    rwa [VmChange.cpuLimit_setting]
  have hexplains := Explains.cpus hch hl hlimit (VmChange.lt_requested_iff.2 hexceeded)
  cases s <;> exact hexplains

/-- An operation that presents a disk is about disks. -/
theorem subject_of_presented {disk : Disk} (h : op.presented? = some disk) :
    op.subject = .disks := by
  cases op with
  | updateVm u => cases h
  | _ => rfl

/-- The operation is of the kind that the reason fixes. -/
theorem subject (h : Explains inv c op r) {subject : Reason.Subject}
    (hr : r.reason.subject = some subject) : op.subject = subject := by
  cases h with
  | bare _ hsubject => exact hsubject subject hr
  | up _ hop _ _ _ =>
    cases hr
    cases op with
    | updateVm u => exact hop.elim
    | _ => rfl
  | readOnly hdisk _ _ | interface hdisk _ _ _ _ =>
    cases hr
    exact subject_of_presented hdisk
  | cpus _ hl _ _ =>
    rw [(VmChange.reason_of_mem_cpuLimits hl).2] at hr
    cases hr
    rfl
  | attached | storageType | name | memory | host | cpu =>
    cases hr
    rfl

end Explains

/-! ## Rejections of each operation -/

namespace Operation

/-- Whatever is rejected without values is explained by its kind. -/
theorem explains_bare (inv : Inventory) (c : Capabilities) (op : Operation)
    {subject : Reason.Subject} (hop : op.subject = subject) (reason : Reason)
    (hplaceholders : reason.placeholders = []) (hsubject : reason.subject = some subject) :
    Explains inv c op ⟨reason, []⟩ := by
  refine .bare hplaceholders fun s hs => ?_
  cases hsubject.symm.trans hs
  exact hop

/-- A machine that is not found is a reason to reject any operation. -/
theorem explains_vmNotFound : Explains inv c op ⟨.vmNotFound, []⟩ :=
  .bare rfl (by simp [Reason.subject])

theorem explains_updateVmObjections {u : VmUpdate} :
    ∀ o ∈ updateVmObjections inv c u, o.Gives (Explains inv c (.updateVm u)) := by
  have hbare := explains_bare inv c (.updateVm u) rfl
  unfold updateVmObjections
  cases hcurrent : inv.vm? u.vm.id with
  | none => simpa using explains_vmNotFound
  | some current =>
    simp only
    cases hcluster : inv.cluster? current.clusterId with
    | none => simpa using hbare .clusterNotFound rfl rfl
    | some cluster =>
      have hch : inv.IsChange u ⟨current, u.vm, cluster⟩ := ⟨hcurrent, rfl, hcluster⟩
      simp only [List.forall_mem_flatten, List.forall_mem_cons, List.not_mem_nil, false_implies,
        implies_true, and_true, forall_mem_ite, Objection.gives_reject]
      refine ⟨?_, ?_, fun _ => hbare .illegalNumOfMonitors rfl rfl, ?_,
        fun _ => hbare .nameAlreadyUsed rfl rfl, fun _ => hbare .clusterChanged rfl rfl, ?_, ?_,
        fun _ => VmChange.gives_unusedObjections hbare,
        fun _ => VmChange.gives_supportedObjections hbare,
        fun _ => hbare .hostedEngineEditingDisabled rfl rfl,
        VmChange.gives_migrationObjections hbare⟩
      · exact VmChange.gives_nameObjections hbare fun os hos hlong => .name hos hlong
      · exact VmChange.gives_memoryObjections fun os hos hillegal => .memory hch hos hillegal
      · exact VmChange.gives_topologyObjections hbare fun s n hn hexceeded =>
          .excess hch hn hexceeded
      · exact VmChange.gives_hostObjections (hbare .dedicatedHostNotFound rfl rfl)
          fun id hid host hhost hother => .host hch hid hhost hother
      · exact VmChange.gives_cpuObjections fun cpu os hcpu hos hunsupported =>
          .cpu hch hcpu hos hunsupported

theorem explains_attachObjections {disk : Disk} {vmId : Uuid} {snapshotId : Option Uuid} :
    ∀ o ∈ attachObjections inv c disk vmId snapshotId,
      o.Gives (Explains inv c (.attachDisk disk vmId snapshotId)) := by
  have hbare := explains_bare inv c (.attachDisk disk vmId snapshotId) rfl
  unfold attachObjections
  cases hvm : inv.vm? vmId with
  | none => simpa using explains_vmNotFound
  | some vm =>
    cases hstored : inv.disk? disk.id with
    | none => simpa using hbare .diskNotFound rfl rfl
    | some stored =>
      simp only [List.forall_mem_append, List.forall_mem_flatten, List.forall_mem_cons,
        List.not_mem_nil, false_implies, implies_true, and_true, forall_mem_ite,
        Objection.gives_reject]
      refine ⟨gives_missingVmObjections, fun _ => hbare .ovfDiskNotSupported rfl rfl,
        fun _ => hbare .hostedEngineDisk rfl rfl, fun hsnapshot hexcluded => ?_,
        fun hattached => .attached hvm hattached, ?_, DiskRule.gives_virtioScsiObjections hbare,
        ?_, DiskRule.gives_reservationObjections hbare⟩
      · obtain ⟨s, rfl⟩ := Option.isSome_iff_exists.1 hsnapshot
        exact .storageType hstored (by simpa using hexcluded)
      · exact DiskRule.gives_readOnlyObjections hbare fun hreadOnly hide =>
          .readOnly rfl hreadOnly hide
      · refine DiskRule.gives_interfaceObjections fun w os hw hos hunsupported => ?_
        cases hw
        exact .interface rfl rfl hvm hos hunsupported

/-- A machine named for being up is found through a row in question. -/
theorem explains_running {onlyThroughSnapshots : Bool} {rows : List Attachment}
    (h : ∀ a ∈ rows, onlyThroughSnapshots = false ∨ a.snapshotId.isSome = true →
      a ∈ inv.attachments ∧ op.LooksAt a) :
    ∀ o ∈ DiskRule.runningObjections inv onlyThroughSnapshots rows,
      o.Gives (Explains inv c op) := by
  refine DiskRule.gives_runningObjections fun a ha vm hvm hholds => ?_
  obtain ⟨ha, hop⟩ := h a ha hholds.in_question
  exact .up ha hop hvm hholds.plugged hholds.not_down

/-- A disk that is not attached to the machine named is rejected without values. -/
theorem explains_attachedObjections {disk vmId : Uuid} (hop : op.subject = .disks) :
    ∀ o ∈ attachedObjections inv disk vmId, o.Gives (Explains inv c op) :=
  gives_attachedObjections explains_vmNotFound (explains_bare _ _ _ hop .diskNotAttached rfl rfl)

theorem explains_updateDiskObjections {disk : Disk} {vmId : Option Uuid} :
    ∀ o ∈ updateDiskObjections inv c disk vmId,
      o.Gives (Explains inv c (.updateDisk disk vmId)) := by
  have hbare := explains_bare inv c (.updateDisk disk vmId) rfl
  unfold updateDiskObjections
  cases inv.disk? disk.id with
  | none => simpa using hbare .diskNotFound rfl rfl
  | some stored =>
    simp only [List.forall_mem_append, List.forall_mem_flatten, List.forall_mem_cons,
      List.not_mem_nil, false_implies, implies_true, and_true, forall_mem_ite,
      Objection.gives_reject]
    refine ⟨⟨gives_missingVmObjections, ?_⟩, fun _ => hbare .ovfDiskNotSupported rfl rfl,
      fun _ => hbare .hostedEngineDisk rfl rfl, ?_, DiskRule.gives_virtioScsiObjections hbare,
      fun _ => ?_, DiskRule.gives_reservationObjections hbare, fun _ => ?_⟩
    · cases vmId with
      | none => simp
      | some v => exact explains_attachedObjections rfl
    · exact DiskRule.gives_readOnlyObjections hbare fun hreadOnly hide =>
        .readOnly rfl hreadOnly hide
    · refine DiskRule.gives_interfaceObjections fun vm os hw hos hunsupported => ?_
      obtain ⟨id, hid, hvm⟩ := Option.bind_eq_some_iff.1 hw
      exact .interface rfl hid hvm hos hunsupported
    · exact explains_running fun a ha _ => Inventory.mem_attachmentRows.1 ha

theorem explains_detachObjections {diskId vmId : Uuid} :
    ∀ o ∈ detachObjections inv diskId vmId,
      o.Gives (Explains inv c (.detachDisk diskId vmId)) := by
  have hbare := explains_bare inv c (.detachDisk diskId vmId) rfl
  unfold detachObjections
  cases inv.disk? diskId with
  | none => simpa using hbare .diskNotFound rfl rfl
  | some disk =>
    simp only [List.forall_mem_append, List.forall_mem_flatten, List.forall_mem_cons,
      List.not_mem_nil, false_implies, implies_true, and_true, Objection.gives_reject,
      Objection.gives_about]
    refine ⟨⟨gives_missingVmObjections, explains_attachedObjections rfl⟩,
      fun _ => hbare .ovfDiskNotSupported rfl rfl, fun _ _ _ => hbare .hostedEngineDisk rfl rfl,
      explains_running fun a ha _ => ?_⟩
    obtain ⟨hrow, hvmId, hsnapshot⟩ := Inventory.of_activeRow?_eq_some (Option.mem_toList.1 ha)
    exact ⟨hrow.1, hrow.2, hvmId, hsnapshot⟩

theorem explains_removeObjections {diskId : Uuid} :
    ∀ o ∈ removeObjections inv diskId, o.Gives (Explains inv c (.removeDisk diskId)) := by
  have hbare := explains_bare inv c (.removeDisk diskId) rfl
  unfold removeObjections
  cases inv.disk? diskId with
  | none => simpa using hbare .diskNotFound rfl rfl
  | some disk =>
    simp only [List.forall_mem_append, List.forall_mem_flatten, List.forall_mem_cons,
      List.not_mem_nil, false_implies, implies_true, and_true, Objection.gives_reject]
    exact ⟨gives_missingVmObjections, fun _ => hbare .ovfDiskNotSupported rfl rfl,
      fun _ => hbare .hostedEngineDisk rfl rfl,
      explains_running fun a ha _ => Inventory.mem_attachmentRows.1 ha⟩

theorem explains_removeSnapshotsObjections {diskId : Uuid} :
    ∀ o ∈ removeSnapshotsObjections inv diskId,
      o.Gives (Explains inv c (.removeDiskSnapshots diskId)) := by
  have hbare := explains_bare inv c (.removeDiskSnapshots diskId) rfl
  unfold removeSnapshotsObjections
  cases inv.disk? diskId with
  | none => simpa using hbare .diskNotFound rfl rfl
  | some disk =>
    simp only [List.forall_mem_append, List.forall_mem_flatten, List.forall_mem_cons,
      List.not_mem_nil, false_implies, implies_true, and_true, Objection.gives_reject]
    refine ⟨fun _ => hbare .ovfDiskNotSupported rfl rfl, gives_missingVmObjections,
      explains_running fun a ha hscope => ?_⟩
    obtain ⟨hmem, hdisk⟩ := Inventory.mem_attachmentRows.1 ha
    exact ⟨hmem, hdisk, by simpa using hscope⟩

end Operation

/-- **Rejections.** Whatever the tables hold, the reason of a rejection alone fixes the names of its
values and what kind of operation it is about, a machine that is not found being the one reason of
both kinds; and the values bear witness to what the reason says. -/
theorem rejection_bears_witness {op : Operation} {inv : Inventory} {c : Capabilities}
    {r : Rejection} (h : op.judge inv c = .ok (.rejected r)) :
    r.params.map Substitution.placeholder = r.reason.placeholders ∧
    (∀ subject, r.reason.subject = some subject → op.subject = subject) ∧
    (r.reason.subject = none ↔ r.reason = .vmNotFound) ∧
    Explains inv c op r := by
  have hexplains : Explains inv c op r := by
    cases op with
    | updateVm u =>
      exact (Operation.settle_updateVmObjections.eq_iff.1 h).gives
        Operation.explains_updateVmObjections
    | attachDisk disk vmId snapshotId =>
      exact (Operation.settle_attachObjections.eq_iff.1 h).gives
        Operation.explains_attachObjections
    | updateDisk disk vmId =>
      exact (Operation.settle_updateDiskObjections.eq_iff.1 h).gives
        Operation.explains_updateDiskObjections
    | detachDisk diskId vmId =>
      exact (Operation.settle_detachObjections.eq_iff.1 h).gives
        Operation.explains_detachObjections
    | removeDisk diskId =>
      exact (Operation.settle_removeObjections.eq_iff.1 h).gives
        Operation.explains_removeObjections
    | removeDiskSnapshots diskId =>
      exact (Operation.settle_removeSnapshotsObjections.eq_iff.1 h).gives
        Operation.explains_removeSnapshotsObjections
  refine ⟨hexplains.placeholders, fun _ hr => hexplains.subject hr, ?_, hexplains⟩
  cases r.reason <;> simp [Reason.subject]

open Usability Quieting in
/-- A disk cannot be removed while a running machine has it plugged in, and that machine is named,
not the one that is down. -/
theorem rejection_bears_witness_for_windows :
    let r : Rejection := ⟨.vmIsNotDown, [⟨"vmName", "windows"⟩]⟩
    (Operation.removeDisk HostedEngine.data.id).judge busy .builtIn = .ok (.rejected r) ∧
    r.params.map Substitution.placeholder = ["vmName"] ∧
    Explains busy .builtIn (.removeDisk HostedEngine.data.id) r := by
  intro r
  have hrejected : (Operation.removeDisk HostedEngine.data.id).judge busy .builtIn =
      .ok (.rejected r) := by
    decide +kernel
  obtain ⟨hnames, -, -, hexplains⟩ := rejection_bears_witness hrejected
  exact ⟨hrejected, hnames, hexplains⟩

end VmAdmission
