import VmAdmission.Rule.VmUpdate
import VmAdmission.Proofs.Judgement
import VmAdmission.Proofs.Tables

/-!
# When the rules about updates of machines accept

Each rule accepts, judged by tables, exactly if a condition on their rows holds. The conditions do
not mention queries, faults or the order in which things are looked at. All but the first take the
guest operating system's entry for granted, since no machine without one gets past its name.
-/

namespace VmAdmission

open Consult

/-! ## Conditions -/

/-- A machine's name is not empty, is made of letters, digits, `.`, `_` and `-`, and has at most as
many characters as the family of the guest operating system allows. -/
structure LegalName (c : Capabilities) (os : OsEntry) (name : String) : Prop where
  nonempty : name ≠ ""
  chars : ∀ x ∈ name.toList, Text.isAlphanumeric x = true ∨ x = '.' ∨ x = '_' ∨ x = '-'
  length_le : name.length ≤ (c.settings.maxVmNameLength os.isWindows).toNat

/-- The memory is between the larger of the two least sizes and the greatest. -/
structure LegalMemory (c : Capabilities) (os : OsEntry) (v : Version) (memory : UInt64) : Prop where
  le_memory : max (os.minMemoryMbAt v) c.settings.vmMinMemoryMb ≤ memory
  memory_le : memory ≤ os.maxMemoryMbAt v

/-- The layout has at least one of everything, and the exact number of processors and each of the
three numbers keep within their limits, which are set. -/
structure LegalTopology (c : Capabilities) (v : Version) (t : CpuTopology) : Prop where
  sockets_pos : 0 < t.sockets.toNat
  cores_pos : 0 < t.coresPerSocket.toNat
  threads_pos : 0 < t.threadsPerCore.toNat
  product_le : ∃ n, c.settings.limit? .maxNumOfVmCpus v = some n ∧ t.product ≤ n.toNat
  sockets_le : ∃ n, c.settings.limit? .maxNumOfVmSockets v = some n ∧ t.sockets ≤ n
  cores_le : ∃ n, c.settings.limit? .maxNumOfCpuPerSocket v = some n ∧ t.coresPerSocket ≤ n
  threads_le : ∃ n, c.settings.limit? .maxNumOfThreadsPerCpu v = some n ∧ t.threadsPerCore ≤ n

namespace VmChange

variable {inv : Inventory} {c : Capabilities} {ch : VmChange} {os : OsEntry}

/-! ## The name -/

theorem isNameChar_iff {x : Char} :
    isNameChar x = true ↔ Text.isAlphanumeric x = true ∨ x = '.' ∨ x = '_' ∨ x = '-' := by
  simp [isNameChar, or_assoc]

theorem accepts_name_iff :
    ch.name.Accepts (.ofTables inv c) ↔
      ∃ os, c.os? ch.proposed.osId = some os ∧ LegalName c os ch.proposed.name := by
  have h : ch.name.Accepts (.ofTables inv c) ↔
      ch.proposed.name ≠ "" ∧ (∀ x ∈ ch.proposed.name.toList, isNameChar x = true) ∧
        ∃ os, c.os? ch.proposed.osId = some os ∧
          ch.proposed.name.length ≤ (c.settings.maxVmNameLength os.isWindows).toNat := by
    unfold name
    simp [map_eq_ok_iff, Capabilities.os_eq_ok_iff]
  rw [h]
  simp only [isNameChar_iff]
  constructor
  · rintro ⟨hn, hc, os, hos, hl⟩
    exact ⟨os, hos, hn, hc, hl⟩
  · rintro ⟨os, hos, hn, hc, hl⟩
    exact ⟨hn, hc, os, hos, hl⟩

theorem accepts_nameUnique_iff :
    ch.nameUnique.Accepts (.ofTables inv c) ↔
      ch.proposed.name = ch.current.name ∨
        ∀ vm ∈ inv.vms, vm.storagePoolId = ch.current.storagePoolId →
          vm.name ≠ ch.proposed.name := by
  rw [or_iff_not_imp_left, ← Inventory.isNameInUse_eq_false_iff]
  unfold nameUnique
  simp

/-! ## Sizes -/

theorem accepts_memory_iff (hos : c.os? ch.proposed.osId = some os) :
    ch.memory.Accepts (.ofTables inv c) ↔ LegalMemory c os ch.version ch.proposed.memoryMb := by
  have h : ch.memory.Accepts (.ofTables inv c) ↔
      max (os.minMemoryMbAt ch.version) c.settings.vmMinMemoryMb ≤ ch.proposed.memoryMb ∧
        ch.proposed.memoryMb ≤ os.maxMemoryMbAt ch.version := by
    unfold memory
    simp [map_eq_ok_iff, Capabilities.os_eq_ok_iff, hos]
  rw [h]
  exact ⟨fun ⟨hl, hg⟩ => ⟨hl, hg⟩, fun ⟨hl, hg⟩ => ⟨hl, hg⟩⟩

theorem accepts_monitors_iff :
    ch.monitors.Accepts (.ofTables inv c) ↔
      ch.proposed.numOfMonitors ∈ c.settings.validNumOfMonitors := by
  unfold monitors
  simp

/-! ## The processor layout -/

theorem vcpus_eq_zero_iff {t : CpuTopology} : t.vcpus = 0 ↔ t.product = 0 := by
  rw [← UInt64.toNat_inj, t.vcpus_toNat, UInt64.toNat_zero]
  have : 0 < UInt64.size - 1 := by decide
  omega

/-- A limit is far below the cut, so the count keeps within it only if the exact number does. -/
theorem vcpus_le_iff {t : CpuTopology} {n : UInt32} :
    t.vcpus ≤ n.toUInt64 ↔ t.product ≤ n.toNat := by
  rw [UInt64.le_iff_toNat_le, t.vcpus_toNat, UInt32.toNat_toUInt64]
  have hn : n.toNat < 4294967296 := n.toNat_lt
  have hs : UInt64.size = 18446744073709551616 := rfl
  omega

theorem product_eq_zero_iff {t : CpuTopology} :
    t.product = 0 ↔
      t.sockets.toNat = 0 ∨ t.coresPerSocket.toNat = 0 ∨ t.threadsPerCore.toNat = 0 := by
  unfold CpuTopology.product
  rw [Nat.mul_eq_zero, Nat.mul_eq_zero, or_assoc]

theorem accepts_withinLimits_iff {t : CpuTopology} {v : Version} {limits : List CpuLimit} :
    (withinLimits t v limits).Accepts (.ofTables inv c) ↔
      ∀ l ∈ limits, ∃ n, c.settings.limit? l.setting v = some n ∧ l.requested t ≤ n.toUInt64 := by
  induction limits with
  | nil => simp [withinLimits]
  | cons l limits ih =>
    unfold withinLimits
    simp [eval_limit_eq_ok_iff, ih, ← and_assoc, exists_and_right]

theorem accepts_cpuTopology_iff :
    ch.cpuTopology.Accepts (.ofTables inv c) ↔
      LegalTopology c ch.version ch.proposed.cpuTopology := by
  have hle {n m : UInt32} : n.toUInt64 ≤ m.toUInt64 ↔ n ≤ m := by
    rw [UInt64.le_iff_toNat_le, UInt32.le_iff_toNat_le, UInt32.toNat_toUInt64,
      UInt32.toNat_toUInt64]
  unfold cpuTopology
  simp only [accepts_ite, vcpus_eq_zero_iff, accepts_withinLimits_iff, product_eq_zero_iff]
  simp only [pure_eq_done, accepts_done, Verdict.reject_ne_accepted, cpuLimits,
    List.forall_mem_cons, List.not_mem_nil, false_implies, implies_true, and_true, vcpus_le_iff,
    hle]
  constructor
  · intro h
    split at h
    · exact h.elim
    · rename_i hz
      obtain ⟨hproduct, hsockets, hcores, hthreads⟩ := h
      exact ⟨by omega, by omega, by omega, hproduct, hsockets, hcores, hthreads⟩
  · intro h
    have hs := h.sockets_pos
    have hc := h.cores_pos
    have ht := h.threads_pos
    rw [if_neg (by omega)]
    exact ⟨h.product_le, h.sockets_le, h.cores_le, h.threads_le⟩

/-! ## Placement -/

theorem clusterUnchanged_eq_accepted_iff :
    ch.clusterUnchanged = .accepted ↔ ch.proposed.clusterId = ch.current.clusterId := by
  simp [clusterUnchanged]

theorem accepts_hostsInCluster_iff {cluster : Uuid} {ids : List Uuid} :
    (hostsInCluster cluster ids).Accepts (.ofTables inv c) ↔
      ∀ id ∈ ids, ∃ host, inv.host? id = some host ∧ host.clusterId = cluster := by
  induction ids with
  | nil => simp [hostsInCluster]
  | cons id ids ih =>
    unfold hostsInCluster
    rw [List.forall_mem_cons, ← ih, accepts_bind]
    simp only [eval_host?, Except.ok.injEq, exists_eq_left']
    cases inv.host? id with
    | none => simp
    | some host => simp

theorem accepts_cpuSupported_iff (hos : c.os? ch.proposed.osId = some os) :
    ch.cpuSupported.Accepts (.ofTables inv c) ↔
      ∀ cpu, ch.proposed.cpuName.or ch.cluster.cpuName = some cpu →
        cpu ∉ os.unsupportedCpusAt ch.version := by
  unfold cpuSupported
  cases ch.proposed.cpuName.or ch.cluster.cpuName with
  | none => simp
  | some cpu => simp [map_eq_ok_iff, Capabilities.os_eq_ok_iff, hos]

theorem accepts_migrationWithReservation_iff :
    ch.migrationWithReservation.Accepts (.ofTables inv c) ↔
      (ch.proposed.migrationSupport = .migratable →
        ∀ a, inv.IsPluggedInto ch.current.id a →
          (∃ disk, inv.disk? a.diskId = some disk) ∧ a.usingScsiReservation = false) := by
  have h : ch.migrationWithReservation.Accepts (.ofTables inv c) ↔
      (ch.proposed.migrationSupport = .migratable → ∃ disks,
        inv.disksOf ch.current.id true = .ok disks ∧
          disks.any (fun joined => joined.2.usingScsiReservation) = false) := by
    unfold migrationWithReservation
    simp
  rw [h, Inventory.exists_disksOf_any_iff]
  simp only [exists_and_right]

/-! ## Devices and protection -/

theorem accepts_virtioScsiUnused_iff :
    ch.virtioScsiUnused.Accepts (.ofTables inv c) ↔
      ∀ a, inv.IsPluggedInto ch.current.id a →
        ∃ disk, inv.disk? a.diskId = some disk ∧ disk.interface ≠ .virtioScsi := by
  have h : ch.virtioScsiUnused.Accepts (.ofTables inv c) ↔ ∃ disks,
      inv.disksOf ch.current.id true = .ok disks ∧
        disks.any (fun joined => joined.1.interface = .virtioScsi) = false := by
    unfold virtioScsiUnused
    simp
  rw [h, Inventory.exists_disksOf_any_iff]
  simp only [decide_eq_false_iff_not, ne_eq]

theorem accepts_virtioScsiSupported_iff (hos : c.os? ch.proposed.osId = some os) :
    ch.virtioScsiSupported.Accepts (.ofTables inv c) ↔
      .virtioScsi ∈ os.diskInterfacesAt ch.version := by
  unfold virtioScsiSupported
  simp [map_eq_ok_iff, Capabilities.os_eq_ok_iff, hos]

theorem accepts_hostedEngineEditable_iff :
    ch.hostedEngineEditable.Accepts (.ofTables inv c) ↔
      (ch.current.origin = .managedHostedEngine ∨ ch.proposed.origin = .managedHostedEngine →
        c.settings.allowEditingHostedEngine = true) := by
  rw [or_iff_not_imp_left]
  unfold hostedEngineEditable
  simp [Vm.isManagedHostedEngine]

end VmChange

end VmAdmission
