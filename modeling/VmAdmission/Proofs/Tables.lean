import VmAdmission.Capabilities.Answers
import VmAdmission.Proofs.Fallible
import Mathlib.Data.List.Nodup

/-!
# What the tables answer

Each question to the services, answered by an inventory and capability tables. The two joins of the
attachment table are stated by their rows: `mem_attachmentsOf` and `mem_disksOf` say what is in a
join, `exists_attachmentsOf_iff` and `exists_disksOf_iff` when there is one.
-/

namespace VmAdmission

/-! ## Rows by key -/

section Keys

variable {α κ : Type} [DecidableEq κ] {key : α → κ} {rows rows' : List α}

/-- What is found does not depend on the order, if nothing else could be found. -/
theorem find?_eq_of_perm {p : α → Bool} (h : rows.Perm rows')
    (hp : ∀ x ∈ rows, ∀ y ∈ rows, p x = true → p y = true → x = y) :
    rows.find? p = rows'.find? p := by
  cases hx : rows.find? p with
  | none =>
    rw [List.find?_eq_none] at hx
    exact (List.find?_eq_none.2 fun y hy => hx y (h.mem_iff.2 hy)).symm
  | some x =>
    have hmem : x ∈ rows := List.mem_of_find?_eq_some hx
    cases hy : rows'.find? p with
    | none => exact absurd (List.find?_some hx) (List.find?_eq_none.1 hy x (h.mem_iff.1 hmem))
    | some y =>
      have hmem' : y ∈ rows := h.mem_iff.2 (List.mem_of_find?_eq_some hy)
      rw [hp x hmem y hmem' (List.find?_some hx) (List.find?_some hy)]

/-- A row with a key of its own is found in any order. -/
theorem find?_key_eq_of_perm (h : rows.Perm rows') (hkeys : (rows.map key).Nodup) (k : κ) :
    rows.find? (fun x => key x = k) = rows'.find? fun x => key x = k := by
  refine find?_eq_of_perm h fun x hx y hy hxk hyk => ?_
  rw [decide_eq_true_eq] at hxk hyk
  exact List.inj_on_of_nodup_map hkeys hx hy (hxk.trans hyk.symm)

/-- A key of its own is borne by the row that is found, and by no other. -/
theorem filter_key_eq_find? (hkeys : (rows.map key).Nodup) (k : κ) :
    rows.filter (fun x => key x = k) = (rows.find? fun x => key x = k).toList := by
  induction rows with
  | nil => rfl
  | cons x rows ih =>
    obtain ⟨hx, hkeys⟩ := List.nodup_cons.1 hkeys
    by_cases hk : key x = k
    · have hothers : rows.filter (fun y => key y = k) = [] := by
        rw [List.filter_eq_nil_iff]
        intro y hy hyk
        exact hx (List.mem_map.2 ⟨y, hy, (of_decide_eq_true hyk).trans hk.symm⟩)
      simp [hk, hothers]
    · simp [hk, ih hkeys]

/-- A row with a key of its own is what its key finds. -/
theorem find?_key_of_mem (hkeys : (rows.map key).Nodup) {x : α} (hx : x ∈ rows) :
    (rows.find? fun y => key y = key x) = some x := by
  have hfilter : x ∈ rows.filter fun y => key y = key x :=
    List.mem_filter.2 ⟨hx, decide_eq_true rfl⟩
  rw [filter_key_eq_find? hkeys] at hfilter
  exact Option.mem_toList.1 hfilter

end Keys

/-! ## Rows -/

namespace Inventory

variable {inv : Inventory} {id : Uuid}

/-- No identifier is borne by two rows of a table. -/
structure UniqueIds (inv : Inventory) : Prop where
  vms : (inv.vms.map Vm.id).Nodup
  clusters : (inv.clusters.map Cluster.id).Nodup
  hosts : (inv.hosts.map Host.id).Nodup
  disks : (inv.disks.map Disk.id).Nodup

theorem id_of_vm? {vm : Vm} (h : inv.vm? id = some vm) : vm.id = id := by
  simpa using List.find?_some h

theorem id_of_disk? {disk : Disk} (h : inv.disk? id = some disk) : disk.id = id := by
  simpa using List.find?_some h

theorem isSome_vm?_iff : (inv.vm? id).isSome = true ↔ id ∈ inv.vms.map Vm.id := by
  simp [vm?]

theorem isSome_disk?_iff : (inv.disk? id).isSome = true ↔ id ∈ inv.disks.map Disk.id := by
  simp [disk?]

theorem isNameInUse_eq_false_iff {name : String} {pool : Uuid} :
    inv.isNameInUse name pool = false ↔
      ∀ vm ∈ inv.vms, vm.storagePoolId = pool → vm.name ≠ name := by
  simp only [isNameInUse, List.any_eq_false, Bool.and_eq_true, decide_eq_true_eq, not_and]
  exact forall₂_congr fun _ _ => ⟨fun h hp hn => h hn hp, fun h hn hp => h hp hn⟩

theorem hasController_eq_true_iff {vm : Uuid} {kind : ControllerKind} :
    inv.hasController vm kind = true ↔ ∃ c ∈ inv.controllers, c.vmId = vm ∧ c.kind = kind := by
  simp [hasController]

end Inventory

/-! ## Joins -/

namespace Inventory

variable {inv : Inventory} {a : Attachment}

theorem withVm_eq_ok_iff {joined : Vm × Attachment} :
    inv.withVm a = .ok joined ↔ inv.vm? a.vmId = some joined.1 ∧ a = joined.2 := by
  unfold withVm
  cases inv.vm? a.vmId <;> simp [Prod.ext_iff]

theorem withDisk_eq_ok_iff {joined : Disk × Attachment} :
    inv.withDisk a = .ok joined ↔ inv.disk? a.diskId = some joined.1 ∧ a = joined.2 := by
  unfold withDisk
  cases inv.disk? a.diskId <;> simp [Prod.ext_iff]

/-- The row is an attachment of the disk, through a snapshot or not. -/
def IsAttachmentOf (inv : Inventory) (disk : Uuid) (a : Attachment) : Prop :=
  a ∈ inv.attachments ∧ a.diskId = disk

/-- The attachments of a disk, in the order of the table. -/
def attachmentRows (inv : Inventory) (disk : Uuid) : List Attachment :=
  inv.attachments.filter fun a => a.diskId = disk

/-- The first attachment of a disk to a machine itself. -/
def activeRow? (inv : Inventory) (disk vm : Uuid) : Option Attachment :=
  (inv.attachmentRows disk).find? fun a => a.vmId = vm && a.snapshotId.isNone

/-- The disk has an attachment to the machine through a snapshot, or to the machine itself where no
snapshot is meant. -/
def IsAttached (inv : Inventory) (disk vm : Uuid) (snapshotId : Option Uuid) : Prop :=
  ∃ a, inv.IsAttachmentOf disk a ∧ a.vmId = vm ∧ a.snapshotId = snapshotId

/-- The plugged attachments of a machine itself, in the order of the table. -/
def pluggedRows (inv : Inventory) (vm : Uuid) : List Attachment :=
  inv.attachments.filter (isActiveOn vm true)

/-- No attachment names a machine or a disk that is not stored. -/
def NoDangling (inv : Inventory) : Prop :=
  ∀ a ∈ inv.attachments, (inv.vm? a.vmId).isSome = true ∧ (inv.disk? a.diskId).isSome = true

/-- The row is a plugged attachment of the machine itself. -/
def IsPluggedInto (inv : Inventory) (vm : Uuid) (a : Attachment) : Prop :=
  a ∈ inv.attachments ∧ a.vmId = vm ∧ a.snapshotId = none ∧ a.plugged = true

theorem mem_attachmentRows {disk : Uuid} :
    a ∈ inv.attachmentRows disk ↔ inv.IsAttachmentOf disk a := by
  simp [attachmentRows, IsAttachmentOf]

theorem of_activeRow?_eq_some {disk vm : Uuid} (h : inv.activeRow? disk vm = some a) :
    inv.IsAttachmentOf disk a ∧ a.vmId = vm ∧ a.snapshotId = none := by
  refine ⟨mem_attachmentRows.1 (List.mem_of_find?_eq_some h), ?_⟩
  simpa using List.find?_some h

theorem mem_attachmentsOf {disk : Uuid} {attachments : List (Vm × Attachment)}
    (h : inv.attachmentsOf disk = .ok attachments) {joined : Vm × Attachment} :
    joined ∈ attachments ↔
      inv.IsAttachmentOf disk joined.2 ∧ inv.vm? joined.2.vmId = some joined.1 := by
  rw [mem_of_mapM_eq_ok h]
  simp only [withVm_eq_ok_iff, List.mem_filter, decide_eq_true_eq, IsAttachmentOf]
  constructor
  · rintro ⟨a, ha, hvm, rfl⟩
    exact ⟨ha, hvm⟩
  · rintro ⟨ha, hvm⟩
    exact ⟨joined.2, ha, hvm, rfl⟩

theorem exists_attachmentsOf_iff {disk : Uuid} :
    (∃ attachments, inv.attachmentsOf disk = .ok attachments) ↔
      ∀ a, inv.IsAttachmentOf disk a → ∃ vm, inv.vm? a.vmId = some vm := by
  unfold attachmentsOf
  rw [exists_mapM_eq_ok_iff]
  simp [withVm_eq_ok_iff, IsAttachmentOf]

/-- The machine of a disk's attachment is stored, if the disk's attachments can be joined. -/
theorem exists_vm?_of_attachmentsOf {disk : Uuid} {attachments : List (Vm × Attachment)}
    (h : inv.attachmentsOf disk = .ok attachments) (ha : inv.IsAttachmentOf disk a) :
    ∃ vm, inv.vm? a.vmId = some vm :=
  exists_attachmentsOf_iff.1 ⟨attachments, h⟩ a ha

/-- A property of a disk's joined attachments is one of its rows, with each row's machine. -/
theorem forall_mem_attachmentsOf_iff {disk : Uuid} {attachments : List (Vm × Attachment)}
    (h : inv.attachmentsOf disk = .ok attachments) {p : Vm × Attachment → Prop} :
    (∀ joined ∈ attachments, p joined) ↔
      ∀ a vm, inv.IsAttachmentOf disk a → inv.vm? a.vmId = some vm → p (vm, a) := by
  constructor
  · intro hp a vm ha hvm
    exact hp _ ((mem_attachmentsOf h).2 ⟨ha, hvm⟩)
  · intro hp joined hj
    obtain ⟨ha, hvm⟩ := (mem_attachmentsOf h).1 hj
    exact hp _ _ ha hvm

theorem isActiveOn_true_iff {vm : Uuid} :
    isActiveOn vm true a = true ↔ a.vmId = vm ∧ a.snapshotId = none ∧ a.plugged = true := by
  simp [isActiveOn, and_assoc]

theorem mem_disksOf {vm : Uuid} {disks : List (Disk × Attachment)}
    (h : inv.disksOf vm true = .ok disks) {joined : Disk × Attachment} :
    joined ∈ disks ↔
      inv.IsPluggedInto vm joined.2 ∧ inv.disk? joined.2.diskId = some joined.1 := by
  rw [mem_of_mapM_eq_ok h]
  simp only [withDisk_eq_ok_iff, List.mem_filter, isActiveOn_true_iff, IsPluggedInto]
  constructor
  · rintro ⟨a, ha, hdisk, rfl⟩
    exact ⟨ha, hdisk⟩
  · rintro ⟨ha, hdisk⟩
    exact ⟨joined.2, ha, hdisk, rfl⟩

theorem exists_disksOf_iff {vm : Uuid} :
    (∃ disks, inv.disksOf vm true = .ok disks) ↔
      ∀ a, inv.IsPluggedInto vm a → ∃ disk, inv.disk? a.diskId = some disk := by
  unfold disksOf
  rw [exists_mapM_eq_ok_iff]
  simp [withDisk_eq_ok_iff, isActiveOn_true_iff, IsPluggedInto]

/-- None of the disks plugged into a machine is of a kind exactly if each of the rows has a disk and
is not of that kind together with it. -/
theorem exists_disksOf_any_iff {vm : Uuid} {p : Disk × Attachment → Bool} :
    (∃ disks, inv.disksOf vm true = .ok disks ∧ disks.any p = false) ↔
      ∀ a, inv.IsPluggedInto vm a →
        ∃ disk, inv.disk? a.diskId = some disk ∧ p (disk, a) = false := by
  constructor
  · rintro ⟨disks, hdisks, hp⟩ a ha
    obtain ⟨disk, hdisk⟩ := exists_disksOf_iff.1 ⟨disks, hdisks⟩ a ha
    have hmem : (disk, a) ∈ disks := (mem_disksOf hdisks).2 ⟨ha, hdisk⟩
    exact ⟨disk, hdisk, by simpa using List.any_eq_false.1 hp _ hmem⟩
  · intro h
    obtain ⟨disks, hdisks⟩ := exists_disksOf_iff.2 fun a ha => (h a ha).imp fun _ => And.left
    refine ⟨disks, hdisks, List.any_eq_false.2 fun joined hj => ?_⟩
    obtain ⟨ha, hdisk⟩ := (mem_disksOf hdisks).1 hj
    obtain ⟨disk, hdisk', hp⟩ := h _ ha
    cases hdisk.symm.trans hdisk'
    simp [hp]

end Inventory

/-! ## Capability tables -/

/-- The operating system that a query is about. -/
def OsQuery.osId : OsQuery → OsId
  | .supportsInterface id _ _ | .name id | .isWindows id | .memoryBounds id _
  | .supportsCpu id _ _ => id

namespace Capabilities

variable {c : Capabilities} {fault : Fault}

theorem os_eq_ok_iff {id : OsId} {os : OsEntry} : c.os id = .ok os ↔ c.os? id = some os := by
  unfold Capabilities.os
  cases c.os? id <;> simp

theorem os_eq_error_iff {id : OsId} :
    c.os id = .error fault ↔ c.os? id = none ∧ fault = .unknownOs id := by
  unfold Capabilities.os
  cases c.os? id <;> simp [eq_comm]

theorem answerOs_eq_error_iff {q : OsQuery} :
    c.answerOs q = .error fault ↔ c.os? q.osId = none ∧ fault = .unknownOs q.osId := by
  rw [← os_eq_error_iff]
  cases q with
  | supportsInterface id v i => exact map_eq_error_iff
  | name id => exact map_eq_error_iff
  | isWindows id => exact map_eq_error_iff
  | memoryBounds id v => exact map_eq_error_iff
  | supportsCpu id v cpu => exact map_eq_error_iff

theorem isFeatureSupported_eq_true_iff {f : Feature} {v : Version} :
    c.isFeatureSupported f v = true ↔ ∃ since, c.features.since? f = some since ∧ since ≤ v := by
  simp [isFeatureSupported, Option.any_eq_true]

theorem answerSettings_limit_eq_ok_iff {setting : VersionedSetting} {v : Version} {n : UInt32} :
    c.answerSettings (.limit setting v) = .ok n ↔ c.settings.limit? setting v = some n := by
  simp only [answerSettings]
  cases c.settings.limit? setting v <;> simp

theorem answerSettings_limit_eq_error_iff {setting : VersionedSetting} {v : Version} :
    c.answerSettings (.limit setting v) = .error fault ↔
      c.settings.limit? setting v = none ∧ fault = .missingSetting setting v := by
  simp only [answerSettings]
  cases c.settings.limit? setting v <;> simp [eq_comm]

end Capabilities

/-! ## Questions -/

namespace Consult

variable {inv : Inventory} {c : Capabilities}

@[simp] theorem eval_query (answers : Answers) (q : Query) :
    (query q).eval answers = answers q := by
  rw [query, eval]
  cases answers q <;> rfl

@[simp] theorem eval_vm? (id : Uuid) : (vm? id).eval (.ofTables inv c) = .ok (inv.vm? id) := rfl

@[simp] theorem eval_cluster? (id : Uuid) :
    (cluster? id).eval (.ofTables inv c) = .ok (inv.cluster? id) := rfl

@[simp] theorem eval_host? (id : Uuid) :
    (host? id).eval (.ofTables inv c) = .ok (inv.host? id) := rfl

@[simp] theorem eval_disk? (id : Uuid) :
    (disk? id).eval (.ofTables inv c) = .ok (inv.disk? id) := rfl

@[simp] theorem eval_attachmentsOf (disk : Uuid) :
    (attachmentsOf disk).eval (.ofTables inv c) = inv.attachmentsOf disk :=
  eval_query _ _

@[simp] theorem eval_pluggedDisksOf (vm : Uuid) :
    (pluggedDisksOf vm).eval (.ofTables inv c) = inv.disksOf vm true :=
  eval_query _ _

@[simp] theorem eval_isNameInUse (name : String) (pool : Uuid) :
    (isNameInUse name pool).eval (.ofTables inv c) = .ok (inv.isNameInUse name pool) := rfl

@[simp] theorem eval_hasController (vm : Uuid) (kind : ControllerKind) :
    (hasController vm kind).eval (.ofTables inv c) = .ok (inv.hasController vm kind) := rfl

@[simp] theorem eval_supportsInterface (os : OsId) (v : Version) (i : DiskInterface) :
    (supportsInterface os v i).eval (.ofTables inv c) =
      (c.os os).map fun os => (os.diskInterfacesAt v).contains i :=
  eval_query _ _

@[simp] theorem eval_osName (os : OsId) :
    (osName os).eval (.ofTables inv c) = (c.os os).map OsEntry.name :=
  eval_query _ _

@[simp] theorem eval_isWindows (os : OsId) :
    (isWindows os).eval (.ofTables inv c) = (c.os os).map OsEntry.isWindows :=
  eval_query _ _

@[simp] theorem eval_memoryBounds (os : OsId) (v : Version) :
    (memoryBounds os v).eval (.ofTables inv c) =
      (c.os os).map fun os => (os.minMemoryMbAt v, os.maxMemoryMbAt v) :=
  eval_query _ _

@[simp] theorem eval_supportsCpu (os : OsId) (v : Version) (cpu : String) :
    (supportsCpu os v cpu).eval (.ofTables inv c) =
      (c.os os).map fun os => !(os.unsupportedCpusAt v).contains cpu :=
  eval_query _ _

@[simp] theorem eval_supportsFeature (f : Feature) (v : Version) :
    (supportsFeature f v).eval (.ofTables inv c) = .ok (c.isFeatureSupported f v) := rfl

theorem eval_limit_eq_ok_iff {setting : VersionedSetting} {v : Version} {n : UInt32} :
    (limit setting v).eval (.ofTables inv c) = .ok n ↔ c.settings.limit? setting v = some n := by
  rw [limit, eval_query]
  exact Capabilities.answerSettings_limit_eq_ok_iff

@[simp] theorem eval_maxNameLength (isWindows : Bool) :
    (maxNameLength isWindows).eval (.ofTables inv c) =
      .ok (c.settings.maxVmNameLength isWindows) := rfl

@[simp] theorem eval_minMemory :
    minMemory.eval (.ofTables inv c) = .ok c.settings.vmMinMemoryMb := rfl

@[simp] theorem eval_monitorCounts :
    monitorCounts.eval (.ofTables inv c) = .ok c.settings.validNumOfMonitors := rfl

@[simp] theorem eval_allowsProtectedEditing :
    allowsProtectedEditing.eval (.ofTables inv c) =
      .ok c.settings.allowEditingHostedEngine := rfl

end Consult

end VmAdmission
