import VmAdmission.Proofs.Loading
import VmAdmission.Proofs.Objections
import VmAdmission.Proofs.ProcessorLayout
import VmAdmission.Proofs.Rule.Disk

/-!
# What the rules object to

For each rule the objections that it may raise when it is judged by tables, in the order in which it
raises them, with the reason and the values that are given (`settle_*`). Conditions are said of rows
and entries; a rule that needs the entry of an operating system objects to its absence first.
-/

namespace VmAdmission

open Consult Objection

variable {inv : Inventory} {c : Capabilities} {result : Except Fault Verdict}

/-! ## What has to be there -/

/-- The objections to what is asked of a guest operating system: it is not in the catalog, or its
entry does not do. -/
def osObjections (c : Capabilities) (id : OsId) (o : OsEntry → Objection) : List Objection :=
  [.fault (c.os? id = none) (.unknownOs id), .about (c.os? id) o]

/-- The objections to attachments of a disk: the machine of one is missing. -/
def missingVmObjections (inv : Inventory) (rows : List Attachment) : List Objection :=
  rows.map fun a => .fault (inv.vm? a.vmId = none) (.missingVm a.vmId)

/-- The objections to attachments of a machine: the disk of one is missing. -/
def missingDiskObjections (inv : Inventory) (rows : List Attachment) : List Objection :=
  rows.map fun a => .fault (inv.disk? a.diskId = none) (.missingDisk a.diskId)

/-- What is done with an answer about a guest operating system is objected to once there is an
entry to answer from. -/
theorem settle_osObjections {β : Type} {id : OsId} {answer : OsEntry → β}
    {g : β → Except Fault Verdict} {o : OsEntry → Objection}
    (h : ∀ os, c.os? id = some os → Settle [o os] (g (answer os))) :
    Settle (osObjections c id o) ((c.os id).map answer >>= g) := by
  unfold osObjections Capabilities.os
  cases hos : c.os? id with
  | none => exact .raised ⟨rfl, rfl⟩
  | some os =>
    rw [about_some]
    exact .passed (by simp) (h os hos)

/-- What is done with the results of several steps is objected to once none of them fails. -/
theorem settle_mapM {α β : Type} {f : α → Except Fault β} {missing : α → Prop}
    {fault : α → Fault} {xs : List α} {os : List Objection}
    {g : List β → Except Fault Verdict}
    (hmissing : ∀ x, missing x → f x = .error (fault x))
    (hfound : ∀ x, ¬ missing x → ∃ y, f x = .ok y)
    (hrest : ∀ ys, xs.mapM f = .ok ys → Settle os (g ys)) :
    Settle ((xs.map fun x => .fault (missing x) (fault x)) ++ os) (xs.mapM f >>= g) := by
  induction xs generalizing g with
  | nil => exact hrest [] rfl
  | cons x xs ih =>
    rw [List.mapM_cons, List.map_cons, List.cons_append]
    by_cases hx : missing x
    · rw [hmissing x hx]
      exact .raised ⟨hx, rfl⟩
    · obtain ⟨y, hy⟩ := hfound x hx
      refine .passed (by simpa using hx) ?_
      rw [hy, ok_bind, bind_assoc]
      refine ih fun ys hys => hrest (y :: ys) ?_
      rw [List.mapM_cons, hy, ok_bind, hys]
      rfl

theorem settle_attachmentsOf {disk : Uuid} {os : List Objection}
    {g : List (Vm × Attachment) → Except Fault Verdict}
    (h : ∀ attachments, inv.attachmentsOf disk = .ok attachments → Settle os (g attachments)) :
    Settle (missingVmObjections inv (inv.attachmentRows disk) ++ os)
      (inv.attachmentsOf disk >>= g) := by
  refine settle_mapM (fun a ha => ?_) (fun a ha => ?_) h
  · rw [Inventory.withVm, ha]
  · obtain ⟨vm, hvm⟩ := Option.ne_none_iff_exists'.1 ha
    exact ⟨(vm, a), Inventory.withVm_eq_ok_iff.2 ⟨hvm, rfl⟩⟩

theorem settle_disksOf {vm : Uuid} {os : List Objection}
    {g : List (Disk × Attachment) → Except Fault Verdict}
    (h : ∀ disks, inv.disksOf vm true = .ok disks → Settle os (g disks)) :
    Settle (missingDiskObjections inv (inv.pluggedRows vm) ++ os)
      (inv.disksOf vm true >>= g) := by
  refine settle_mapM (fun a ha => ?_) (fun a ha => ?_) h
  · rw [Inventory.withDisk, ha]
  · obtain ⟨disk, hdisk⟩ := Option.ne_none_iff_exists'.1 ha
    exact ⟨(disk, a), Inventory.withDisk_eq_ok_iff.2 ⟨hdisk, rfl⟩⟩

/-- Some joined disk is of a kind exactly if some plugged row is, together with its disk. -/
theorem any_disksOf_iff {vm : Uuid} {disks : List (Disk × Attachment)}
    (hdisks : inv.disksOf vm true = .ok disks) {p : Disk × Attachment → Bool} :
    disks.any p = true ↔
      ∃ a disk, inv.IsPluggedInto vm a ∧ inv.disk? a.diskId = some disk ∧ p (disk, a) = true := by
  rw [List.any_eq_true]
  constructor
  · rintro ⟨⟨disk, a⟩, hmem, hp⟩
    obtain ⟨ha, hdisk⟩ := (Inventory.mem_disksOf hdisks).1 hmem
    exact ⟨a, disk, ha, hdisk, hp⟩
  · rintro ⟨a, disk, ha, hdisk, hp⟩
    exact ⟨(disk, a), (Inventory.mem_disksOf hdisks).2 ⟨ha, hdisk⟩, hp⟩

/-- The objections to naming a machine for a disk: there is no such machine, or the disk is not
attached to it, be it attached to a snapshot of it. -/
def attachedObjections (inv : Inventory) (disk vm : Uuid) : List Objection :=
  [.reject (inv.vm? vm = none) ⟨.vmNotFound, []⟩,
    .reject (¬ inv.IsAttached disk vm none) ⟨.diskNotAttached, []⟩]

theorem settle_notAttached {disk vm : Uuid} (h : ¬ inv.IsAttached disk vm none) :
    Settle (attachedObjections inv disk vm) (Operation.notAttached inv vm) := by
  unfold attachedObjections Operation.notAttached
  cases inv.vm? vm with
  | none => exact .raised ⟨rfl, rfl⟩
  | some w => exact .passed (by simp) (.raised ⟨h, rfl⟩)

theorem settle_attachedObjections {disk vm : Uuid} {w : Vm} (hvm : inv.vm? vm = some w)
    (h : inv.IsAttached disk vm none) :
    Settle (attachedObjections inv disk vm) (.ok .accepted) :=
  .passed (by simp [hvm]) (.passed (by simpa using h) .unopposed)

/-! ## Rules about disks -/

namespace DiskRule

variable {disk : Disk} {vm : Vm} {vm? : Option Vm}

/-- The objections to a read-only disk. -/
def readOnlyObjections (disk : Disk) : List Objection :=
  [.reject (disk.readOnly = true ∧ disk.interface = .ide)
      ⟨.interfaceIsNotReadOnlyCapable, [⟨"interface", disk.interface.displayName⟩]⟩,
    .reject (disk.readOnly = true ∧ disk.scsiPassthrough = true)
      ⟨.scsiPassthroughOnReadOnlyDisk, []⟩]

/-- The objections to a disk on VirtIO-SCSI, of a machine if there is one. -/
def virtioScsiObjections (inv : Inventory) (c : Capabilities) (disk : Disk) (vm? : Option Vm) :
    List Objection :=
  if disk.interface = .virtioScsi then
    .reject (disk.sgio.isSome = true ∧ disk.storageType = .image)
      ⟨.scsiGenericIoOnImageDisk, []⟩ ::
    match vm? with
    | none => []
    | some vm =>
      .reject (¬ ∃ since, c.features.virtioScsi = some since ∧ since ≤ vm.effectiveVersion)
        ⟨.virtioScsiNotAvailableAtClusterLevel, []⟩ ::
      .reject (¬ ∃ ctl ∈ inv.controllers, ctl.vmId = vm.id ∧ ctl.kind = .virtioScsi)
        ⟨.virtioScsiIsDisabled, []⟩ ::
      osObjections c vm.osId fun os =>
        .reject (.virtioScsi ∉ os.diskInterfacesAt vm.effectiveVersion)
          ⟨.guestOsNotSupported, []⟩
  else []

/-- The objections to the interface of a machine's disk. -/
def interfaceObjections (c : Capabilities) (interface : DiskInterface) (vm? : Option Vm) :
    List Objection :=
  match vm? with
  | none => []
  | some vm =>
    osObjections c vm.osId fun os =>
      .reject (interface ∉ os.diskInterfacesAt vm.effectiveVersion)
        ⟨.diskInterfaceUnsupported, [⟨"osName", os.name⟩]⟩

/-- The objections to a SCSI reservation through a disk. -/
def reservationObjections (disk : Disk) (vm? : Option Vm) : List Objection :=
  [.about disk.backing.lun? fun lun =>
      .reject (lun.usingScsiReservation = true ∧ vm? = none) ⟨.scsiReservationOnFloatingDisk, []⟩,
    .about disk.backing.lun? fun lun =>
      .reject (lun.usingScsiReservation = true ∧ disk.sgio = some .filtered)
        ⟨.sgioIsFiltered, []⟩]

/-- The objections to machines that hold a disk up. -/
def runningObjections (inv : Inventory) (onlyThroughSnapshots : Bool) (rows : List Attachment) :
    List Objection :=
  rows.map fun a => .about (inv.vm? a.vmId) fun vm =>
    .reject (HoldsUp onlyThroughSnapshots (vm, a)) ⟨.vmIsNotDown, [⟨"vmName", vm.name⟩]⟩

theorem settle_readOnlyCompatible :
    Settle (readOnlyObjections disk) (.ok (readOnlyCompatible disk)) := by
  unfold readOnlyObjections readOnlyCompatible
  cases hreadOnly : disk.readOnly with
  | false => simp [settle_cons_iff]
  | true =>
    by_cases hide : disk.interface = .ide
    · simp [settle_cons_iff, hide, Verdict.reject, Verdict.filling]
    · cases hpassthrough : disk.scsiPassthrough <;>
        simp [settle_cons_iff, hide, Verdict.rejectIf, Verdict.reject]

theorem settle_osSupportsInterface {i : DiskInterface} :
    Settle (osObjections c vm.osId fun os =>
      .reject (i ∉ os.diskInterfacesAt vm.effectiveVersion) ⟨.guestOsNotSupported, []⟩)
      ((osSupportsInterface i vm).eval (.ofTables inv c)) := by
  rw [osSupportsInterface, eval_bind, eval_supportsInterface]
  exact settle_osObjections fun os _ => settle_rejectIf (by simp)

theorem settle_interfaceCompatibility :
    Settle (virtioScsiObjections inv c disk vm?)
      ((interfaceCompatibility disk vm?).eval (.ofTables inv c)) := by
  unfold virtioScsiObjections interfaceCompatibility
  by_cases hinterface : disk.interface = .virtioScsi
  · rw [if_pos hinterface, if_neg (not_not.2 hinterface)]
    by_cases himage : disk.sgio.isSome = true ∧ disk.storageType = .image
    · rw [if_pos himage]
      exact .raised ⟨himage, rfl⟩
    rw [if_neg himage]
    refine .passed (by simpa using himage) ?_
    cases vm? with
    | none => exact .unopposed
    | some vm =>
      have hfeature : (∃ since, c.features.virtioScsi = some since ∧ since ≤ vm.effectiveVersion) ↔
          c.isFeatureSupported .virtioScsi vm.effectiveVersion = true :=
        Capabilities.isFeatureSupported_eq_true_iff.symm
      simp only [eval_bind, eval_supportsFeature, ok_bind]
      rw [hfeature, ← Inventory.hasController_eq_true_iff]
      cases c.isFeatureSupported .virtioScsi vm.effectiveVersion with
      | false => exact .raised ⟨by simp, rfl⟩
      | true =>
        refine .passed (by simp) ?_
        simp only [Bool.not_true, Bool.false_eq_true, if_false, eval_bind, eval_hasController,
          ok_bind]
        cases inv.hasController vm.id .virtioScsi with
        | false => exact .raised ⟨by simp, rfl⟩
        | true => exact .passed (by simp) settle_osSupportsInterface
  · rw [if_neg hinterface, if_pos hinterface]
    exact .unopposed

theorem settle_interfaceSupportedForVm :
    Settle (interfaceObjections c disk.interface vm?)
      ((interfaceSupportedForVm disk vm?).eval (.ofTables inv c)) := by
  unfold interfaceObjections interfaceSupportedForVm
  cases vm? with
  | none => exact .unopposed
  | some vm =>
    rw [eval_bind, eval_supportsInterface]
    refine settle_osObjections fun os hos => ?_
    by_cases hsupported : disk.interface ∈ os.diskInterfacesAt vm.effectiveVersion
    · simp [settle_cons_iff, hsupported]
    · simp [settle_cons_iff, eval_bind, Capabilities.os, hos, Except.map, hsupported,
        Verdict.filling, Verdict.reject]

theorem settle_scsiReservationValid :
    Settle (reservationObjections disk vm?) (.ok (scsiReservationValid disk vm?)) := by
  unfold reservationObjections scsiReservationValid
  cases disk.backing.lun? with
  | none => simp [settle_cons_iff]
  | some lun =>
    cases hreservation : lun.usingScsiReservation with
    | false => simp [settle_cons_iff, hreservation]
    | true =>
      cases vm? with
      | none => simp [settle_cons_iff, hreservation, Verdict.reject]
      | some vm =>
        by_cases hfiltered : disk.sgio = some .filtered <;>
          simp [settle_cons_iff, hreservation, hfiltered, Verdict.rejectIf, Verdict.reject]

theorem settle_notInfrastructureStore :
    Settle [.reject (disk.infrastructureStore = true) ⟨.ovfDiskNotSupported, []⟩]
      (.ok (notInfrastructureStore disk)) :=
  settle_rejectIf .rfl

theorem settle_notHostedEngineLun :
    Settle [.reject (disk.isHostedEngineLun = true) ⟨.hostedEngineDisk, []⟩]
      (.ok (notHostedEngineLun disk)) :=
  settle_rejectIf .rfl

theorem settle_storageTypeNotIn {excluded : List StorageType} :
    Settle [.reject (disk.storageType ∈ excluded)
        ⟨.storageTypeNotSupported, [⟨"diskStorageType", disk.storageType.displayName⟩]⟩]
      (.ok (storageTypeNotIn disk excluded)) := by
  unfold storageTypeNotIn
  by_cases hexcluded : disk.storageType ∈ excluded <;>
    simp [settle_cons_iff, hexcluded, Verdict.reject, Verdict.filling]

theorem settle_removable :
    Settle [.reject (disk.isHostedEngineLun = false ∧ vm.isHostedEngine = true)
        ⟨.hostedEngineDisk, []⟩] (.ok (removable disk vm)) :=
  settle_rejectIf (by simp)

/-- All machines object for the same reason, so it does not matter which of them does. -/
theorem settle_removableFromAll {vms : List Vm} :
    Settle [.reject (disk.isHostedEngineLun = false ∧ ∃ vm ∈ vms, vm.isHostedEngine = true)
        ⟨.hostedEngineDisk, []⟩] (.ok (removableFromAll disk vms)) := by
  unfold removableFromAll
  cases hfound : (vms.map (removable disk)).find? (!·.isAccepted) with
  | none =>
    refine .passed ?_ .unopposed
    rw [isRaised_reject]
    rintro ⟨hlun, vm, hvm, hengine⟩
    have haccepted := List.find?_eq_none.1 hfound _ (List.mem_map_of_mem hvm)
    simp [removable, Verdict.rejectIf, Verdict.reject, hlun, hengine] at haccepted
  | some v =>
    obtain ⟨vm, hvm, rfl⟩ := List.mem_map.1 (List.mem_of_find?_eq_some hfound)
    have hobjects : disk.isHostedEngineLun = false ∧ vm.isHostedEngine = true := by
      simpa [removable, Verdict.rejectIf, Verdict.reject, apply_ite Verdict.isAccepted] using
        List.find?_some hfound
    refine .raised ⟨⟨hobjects.1, vm, hvm, hobjects.2⟩, ?_⟩
    simp [removable, Verdict.rejectIf, Verdict.reject, hobjects]

/-- What is objected to in each of the joined attachments is objected to row by row. -/
theorem settle_rows {rows : List Attachment} {attachments : List (Vm × Attachment)}
    (hjoined : rows.mapM inv.withVm = .ok attachments) {o : Vm × Attachment → Objection}
    (h : Settle (attachments.map o) result) :
    Settle (rows.map fun a => .about (inv.vm? a.vmId) fun vm => o (vm, a)) result := by
  have hmap : (rows.map fun a => .about (inv.vm? a.vmId) fun vm => o (vm, a)) =
      attachments.map o := by
    have hrows := mapM_eq_ok_iff.1 hjoined
    clear hjoined h
    induction hrows with
    | nil => rfl
    | cons hjoined _ ih =>
      obtain ⟨hvm, rfl⟩ := Inventory.withVm_eq_ok_iff.1 hjoined
      rw [List.map_cons, List.map_cons, hvm, about_some, ih]
  rwa [hmap]

theorem settle_pluggedOnlyToDown {onlyThroughSnapshots : Bool}
    {attachments : List (Vm × Attachment)} :
    Settle (attachments.map fun joined => .reject (HoldsUp onlyThroughSnapshots joined)
        ⟨.vmIsNotDown, [⟨"vmName", joined.1.name⟩]⟩)
      (.ok (pluggedOnlyToDown onlyThroughSnapshots attachments)) := by
  rcases pluggedOnlyToDown_cases onlyThroughSnapshots attachments with
    ⟨hnone, haccepted⟩ | ⟨joined, hfirst, hrejected⟩
  · rw [haccepted]
    refine settle_of_forall_not fun o ho => ?_
    obtain ⟨joined, hmem, rfl⟩ := List.mem_map.1 ho
    simpa using hnone joined hmem
  · rw [hrejected]
    exact settle_map_of_isFirst hfirst

theorem settle_running {onlyThroughSnapshots : Bool} {rows : List Attachment}
    {attachments : List (Vm × Attachment)} (hjoined : rows.mapM inv.withVm = .ok attachments) :
    Settle (runningObjections inv onlyThroughSnapshots rows)
      (.ok (pluggedOnlyToDown onlyThroughSnapshots attachments)) :=
  settle_rows hjoined settle_pluggedOnlyToDown

end DiskRule

/-! ## Rules about updates of machines -/

namespace VmChange

variable {ch : VmChange}

/-- The objections to a name. -/
def nameObjections (c : Capabilities) (ch : VmChange) : List Objection :=
  .reject (ch.proposed.name = "") ⟨.nameIsEmpty, []⟩ ::
  .reject (¬ ∀ x ∈ ch.proposed.name.toList,
      Text.isAlphanumeric x = true ∨ x = '.' ∨ x = '_' ∨ x = '-') ⟨.nameHasSpecialChars, []⟩ ::
  osObjections c ch.proposed.osId fun os =>
    .reject ((c.settings.maxVmNameLength os.isWindows).toNat < ch.proposed.name.length)
      ⟨.nameIsTooLong, [⟨"maxLength", (c.settings.maxVmNameLength os.isWindows).toNat.repr⟩]⟩

/-- The objections to an amount of memory. -/
def memoryObjections (c : Capabilities) (ch : VmChange) : List Objection :=
  osObjections c ch.proposed.osId fun os =>
    .reject (¬ LegalMemory c os ch.version ch.proposed.memoryMb)
      ⟨.illegalMemorySize,
        [⟨"minMemorySize",
          (max (os.minMemoryMbAt ch.version) c.settings.vmMinMemoryMb).toNat.repr⟩,
          ⟨"maxMemorySize", (os.maxMemoryMbAt ch.version).toNat.repr⟩]⟩

/-- The objections to what a processor layout asks of limits. -/
def limitObjections (c : Capabilities) (v : Version) (t : CpuTopology)
    (settings : List VersionedSetting) : List Objection :=
  settings.flatMap fun s =>
    [.fault (c.settings.limit? s v = none) (.missingSetting s v),
      .about (c.settings.limit? s v) fun greatest =>
        .reject (greatest.toNat < s.demand t) (s.excess greatest)]

/-- The objections to a processor layout. -/
def topologyObjections (c : Capabilities) (v : Version) (t : CpuTopology) : List Objection :=
  .reject (¬ t.IsPopulated) ⟨.tooFewCpus, []⟩ ::
  limitObjections c v t
    [.maxNumOfVmCpus, .maxNumOfVmSockets, .maxNumOfCpuPerSocket, .maxNumOfThreadsPerCpu]

/-- The objections to hosts that a machine is to be pinned to. -/
def hostObjections (inv : Inventory) (cluster : Uuid) (ids : List Uuid) : List Objection :=
  ids.flatMap fun id =>
    [.reject (inv.host? id = none) ⟨.dedicatedHostNotFound, []⟩,
      .about (inv.host? id) fun host =>
        .reject (host.clusterId ≠ cluster)
          ⟨.dedicatedHostInOtherCluster, [⟨"hostName", host.name⟩]⟩]

/-- The objections to a processor model, where the machine or else its cluster names one. -/
def cpuObjections (c : Capabilities) (ch : VmChange) : List Objection :=
  match ch.proposed.cpuName.or ch.cluster.cpuName with
  | none => []
  | some cpu =>
    osObjections c ch.proposed.osId fun os =>
      .reject (cpu ∈ os.unsupportedCpusAt ch.version)
        ⟨.cpuUnsupportedByGuestOs, [⟨"cpuName", cpu⟩, ⟨"osName", os.name⟩]⟩

/-- The objections to turning VirtIO-SCSI off. -/
def unusedObjections (inv : Inventory) (ch : VmChange) : List Objection :=
  missingDiskObjections inv (inv.pluggedRows ch.current.id) ++
  [.reject (∃ a disk, inv.IsPluggedInto ch.current.id a ∧ inv.disk? a.diskId = some disk ∧
      disk.interface = .virtioScsi) ⟨.virtioScsiInUse, []⟩]

/-- The objections to turning VirtIO-SCSI on. -/
def supportedObjections (c : Capabilities) (ch : VmChange) : List Objection :=
  osObjections c ch.proposed.osId fun os =>
    .reject (.virtioScsi ∉ os.diskInterfacesAt ch.version)
      ⟨.virtioScsiUnsupportedByGuestOs, []⟩

/-- The objections to migration, where the machine is to be migratable. -/
def migrationObjections (inv : Inventory) (ch : VmChange) : List Objection :=
  if ch.proposed.migrationSupport = .migratable then
    missingDiskObjections inv (inv.pluggedRows ch.current.id) ++
    [.reject (∃ a, inv.IsPluggedInto ch.current.id a ∧ a.usingScsiReservation = true)
      ⟨.vmUsesScsiReservation, []⟩]
  else []

theorem settle_name (ch : VmChange) :
    Settle (nameObjections c ch) (ch.name.eval (.ofTables inv c)) := by
  simp only [nameObjections, name]
  by_cases hempty : ch.proposed.name = ""
  · rw [if_pos (by simp [hempty])]
    exact .raised ⟨hempty, rfl⟩
  rw [if_neg (by simpa using hempty)]
  refine .passed (by simpa using hempty) ?_
  have hchars : (ch.proposed.name.toList.all isNameChar) = true ↔
      ∀ x ∈ ch.proposed.name.toList,
        Text.isAlphanumeric x = true ∨ x = '.' ∨ x = '_' ∨ x = '-' := by
    simp only [List.all_eq_true, isNameChar_iff]
  rw [← hchars]
  cases ch.proposed.name.toList.all isNameChar with
  | false => exact .raised ⟨by simp, rfl⟩
  | true =>
    refine .passed (by simp) ?_
    simp only [Bool.not_true, Bool.false_eq_true, if_false, eval_bind, eval_isWindows]
    refine settle_osObjections fun os _ => ?_
    by_cases hlong : (c.settings.maxVmNameLength os.isWindows).toNat < ch.proposed.name.length
    · simp [settle_cons_iff, hlong, Verdict.filling, Verdict.reject]
    · simp [settle_cons_iff, hlong]

theorem settle_memory (ch : VmChange) :
    Settle (memoryObjections c ch) (ch.memory.eval (.ofTables inv c)) := by
  unfold memoryObjections memory
  rw [eval_bind, eval_memoryBounds]
  refine settle_osObjections fun os _ => ?_
  have hlegal : LegalMemory c os ch.version ch.proposed.memoryMb ↔
      ¬ (ch.proposed.memoryMb < max (os.minMemoryMbAt ch.version) c.settings.vmMinMemoryMb ∨
        os.maxMemoryMbAt ch.version < ch.proposed.memoryMb) := by
    rw [not_or, UInt64.not_lt, UInt64.not_lt]
    exact ⟨fun ⟨hl, hg⟩ => ⟨hl, hg⟩, fun ⟨hl, hg⟩ => ⟨hl, hg⟩⟩
  simp only [hlegal, not_not, eval_bind, ok_bind, eval_minMemory]
  split
  · rename_i houtside
    exact .raised ⟨houtside, rfl⟩
  · rename_i hinside
    exact .passed (by rwa [isRaised_reject]) .unopposed

theorem settle_monitors (ch : VmChange) :
    Settle [.reject (ch.proposed.numOfMonitors ∉ c.settings.validNumOfMonitors)
      ⟨.illegalNumOfMonitors, []⟩] (ch.monitors.eval (.ofTables inv c)) :=
  settle_rejectIf (by simp)

theorem settle_withinLimits {v : Version} {t : CpuTopology} {settings : List VersionedSetting} :
    Settle (limitObjections c v t settings)
      ((withinLimits t v (settings.map cpuLimit)).eval (.ofTables inv c)) := by
  induction settings with
  | nil => exact .unopposed
  | cons s settings ih =>
    rw [eval_withinLimits_cons]
    cases hlimit : c.settings.limit? s v with
    | none => exact .raised ⟨hlimit, rfl⟩
    | some greatest =>
      refine .passed (by simp [hlimit]) ?_
      rw [Option.elim_some]
      split
      · rename_i hexceeded
        exact .raised ⟨greatest, hlimit, hexceeded, rfl⟩
      · rename_i hkept
        exact .passed (by simpa [hlimit] using hkept) ih

theorem settle_cpuTopology (ch : VmChange) :
    Settle (topologyObjections c ch.version ch.proposed.cpuTopology)
      (ch.cpuTopology.eval (.ofTables inv c)) := by
  unfold topologyObjections cpuTopology
  rw [CpuTopology.isPopulated_iff, not_not]
  split
  · rename_i hnone
    exact .raised ⟨hnone, rfl⟩
  · rename_i hsome
    exact .passed (by rwa [isRaised_reject]) settle_withinLimits

theorem settle_nameUnique (ch : VmChange) :
    Settle [.reject (ch.proposed.name ≠ ch.current.name ∧ ∃ vm ∈ inv.vms,
        vm.storagePoolId = ch.current.storagePoolId ∧ vm.name = ch.proposed.name)
      ⟨.nameAlreadyUsed, []⟩] (ch.nameUnique.eval (.ofTables inv c)) := by
  unfold nameUnique
  by_cases hsame : ch.proposed.name = ch.current.name
  · rw [if_pos hsame]
    exact .passed (by simp [hsame]) .unopposed
  · rw [if_neg hsame]
    refine settle_rejectIf ?_
    rw [← not_iff_not, Bool.not_eq_true, Inventory.isNameInUse_eq_false_iff]
    simp [hsame]

theorem settle_clusterUnchanged (ch : VmChange) :
    Settle [.reject (ch.proposed.clusterId ≠ ch.current.clusterId) ⟨.clusterChanged, []⟩]
      (.ok ch.clusterUnchanged) :=
  settle_rejectIf (by simp)

theorem settle_hostsInCluster {cluster : Uuid} {ids : List Uuid} :
    Settle (hostObjections inv cluster ids)
      ((hostsInCluster cluster ids).eval (.ofTables inv c)) := by
  induction ids with
  | nil => exact .unopposed
  | cons id ids ih =>
    unfold hostsInCluster
    rw [eval_bind, eval_host?, ok_bind]
    cases hhost : inv.host? id with
    | none => exact .raised ⟨hhost, rfl⟩
    | some host =>
      refine .passed (by simp [hhost]) ?_
      simp only
      split
      · rename_i hother
        exact .raised ⟨host, hhost, hother, rfl⟩
      · rename_i hsame
        exact .passed (by simpa [hhost] using hsame) ih

theorem settle_cpuSupported (ch : VmChange) :
    Settle (cpuObjections c ch) (ch.cpuSupported.eval (.ofTables inv c)) := by
  unfold cpuObjections cpuSupported
  cases ch.proposed.cpuName.or ch.cluster.cpuName with
  | none => exact .unopposed
  | some cpu =>
    rw [eval_bind, eval_supportsCpu]
    refine settle_osObjections fun os hos => ?_
    by_cases hunsupported : cpu ∈ os.unsupportedCpusAt ch.version
    · simp [settle_cons_iff, eval_bind, Capabilities.os, hos, Except.map, hunsupported,
        Verdict.filling, Verdict.reject]
    · simp [settle_cons_iff, hunsupported]

theorem settle_virtioScsiUnused (ch : VmChange) :
    Settle (unusedObjections inv ch) (ch.virtioScsiUnused.eval (.ofTables inv c)) := by
  unfold unusedObjections virtioScsiUnused
  rw [eval_bind, eval_pluggedDisksOf]
  refine settle_disksOf fun disks hdisks => settle_rejectIf ?_
  rw [any_disksOf_iff hdisks]
  simp only [decide_eq_true_eq]

theorem settle_virtioScsiSupported (ch : VmChange) :
    Settle (supportedObjections c ch) (ch.virtioScsiSupported.eval (.ofTables inv c)) := by
  unfold supportedObjections virtioScsiSupported
  rw [eval_bind, eval_supportsInterface]
  exact settle_osObjections fun os _ => settle_rejectIf (by simp)

theorem settle_hostedEngineEditable (ch : VmChange) :
    Settle [.reject ((ch.current.origin = .managedHostedEngine ∨
        ch.proposed.origin = .managedHostedEngine) ∧ c.settings.allowEditingHostedEngine = false)
      ⟨.hostedEngineEditingDisabled, []⟩] (ch.hostedEngineEditable.eval (.ofTables inv c)) := by
  have hmanaged : (!ch.current.isManagedHostedEngine && !ch.proposed.isManagedHostedEngine) =
      true ↔ ¬ (ch.current.origin = .managedHostedEngine ∨
        ch.proposed.origin = .managedHostedEngine) := by
    simp [Vm.isManagedHostedEngine]
  unfold hostedEngineEditable
  split
  · rename_i hneither
    exact .passed (by simp [hmanaged.1 hneither]) .unopposed
  · rename_i heither
    refine settle_rejectIf ?_
    rw [hmanaged, not_not] at heither
    simp [heither]

theorem settle_migrationWithReservation (ch : VmChange) :
    Settle (migrationObjections inv ch) (ch.migrationWithReservation.eval (.ofTables inv c)) := by
  unfold migrationObjections migrationWithReservation
  by_cases hmigratable : ch.proposed.migrationSupport = .migratable
  · rw [if_pos hmigratable, if_neg (not_not.2 hmigratable), eval_bind, eval_pluggedDisksOf]
    refine settle_disksOf fun disks hdisks => settle_rejectIf ?_
    rw [any_disksOf_iff hdisks]
    constructor
    · rintro ⟨a, disk, ha, -, hreservation⟩
      exact ⟨a, ha, hreservation⟩
    · rintro ⟨a, ha, hreservation⟩
      obtain ⟨disk, hdisk⟩ := Inventory.exists_disksOf_iff.1 ⟨disks, hdisks⟩ a ha
      exact ⟨a, disk, ha, hdisk, hreservation⟩
  · rw [if_neg hmigratable, if_pos hmigratable]
    exact .unopposed

end VmChange

end VmAdmission
