import VmAdmission.Proofs.Catalog.UpdateVm
import VmAdmission.Proofs.ConsistentTables

/-!
# Memory ranges at a version

Tables are taken in only if no entry asks for more memory than it allows, but what a version
overrides is not looked at. A version that overrides the least memory, the greatest or both can
invert the range that holds at it (`OsOverride.InvertsBounds`), and nothing else can. So the range
of an entry is usable exactly at the versions that do not (`memoryBounds_usable_iff`); at the others
no update to that system is accepted, however much memory it proposes. Tables with each of the three
inversions are taken in (`memoryBounds_inverted`).
-/

namespace VmAdmission

/-! ## Inverted ranges -/

/-- The override inverts the memory bounds of an entry: it raises the least above the greatest,
lowers the greatest below the least, or gives both the wrong way round. -/
def OsOverride.InvertsBounds (o : OsOverride) (os : OsEntry) : Prop :=
  match o.minMemoryMb, o.maxMemoryMb with
  | none, none => False
  | some least, none => os.maxMemoryMb < least
  | none, some greatest => greatest < os.minMemoryMb
  | some least, some greatest => greatest < least

/-- The memory bounds of the entry are inverted by what a version overrides. -/
def OsEntry.InvertedAt (os : OsEntry) (v : Version) : Prop :=
  ∃ o, os.versions.find? v = some o ∧ o.InvertsBounds os

variable {os : OsEntry} {c : Capabilities} {v : Version} {text : String} {memory : UInt64}

/-- Bounds that are in order stay so at a version, unless it inverts them. -/
theorem OsEntry.minMemoryMbAt_le_iff (h : os.minMemoryMb ≤ os.maxMemoryMb) :
    os.minMemoryMbAt v ≤ os.maxMemoryMbAt v ↔ ¬ os.InvertedAt v := by
  unfold minMemoryMbAt maxMemoryMbAt resolve InvertedAt
  cases os.versions.find? v with
  | none => simpa using h
  | some o =>
    simp only [Option.bind_some, Option.some.injEq, exists_eq_left', OsOverride.InvertsBounds]
    cases o.minMemoryMb <;> cases o.maxMemoryMb <;> simp [h]

theorem LegalMemory.not_invertedAt (hbase : os.minMemoryMb ≤ os.maxMemoryMb)
    (h : LegalMemory c os v memory) : ¬ os.InvertedAt v := by
  refine (OsEntry.minMemoryMbAt_le_iff hbase).1 ?_
  have hleast : os.minMemoryMbAt v ≤ max (os.minMemoryMbAt v) c.settings.vmMinMemoryMb := by
    rw [UInt64.le_iff_toNat_le, UInt64.toNat_max]
    exact le_max_left _ _
  calc os.minMemoryMbAt v
    _ ≤ max (os.minMemoryMbAt v) c.settings.vmMinMemoryMb := hleast
    _ ≤ memory := h.le_memory
    _ ≤ os.maxMemoryMbAt v := h.memory_le

namespace Capabilities

theorem answerOs_memoryBounds (h : parse text = .ok c) (hos : os ∈ c.operatingSystems) :
    c.answerOs (.memoryBounds os.id v) = .ok (os.minMemoryMbAt v, os.maxMemoryMbAt v) := by
  rw [answerOs, Capabilities.os, os?_id_of_parse h hos]
  rfl

/-- **Memory ranges of tables that are taken in.** The range of an entry at a version is the one that
the version's overrides give, and is usable exactly if they do not invert it. Where they do, no
update of a machine is accepted that has it run that system at that version. -/
theorem memoryBounds_usable_iff (h : parse text = .ok c) (hos : os ∈ c.operatingSystems)
    (v : Version) :
    (∃ least greatest, c.answerOs (.memoryBounds os.id v) = .ok (least, greatest) ∧
      (least ≤ greatest ↔ ¬ os.InvertedAt v)) ∧
    (os.InvertedAt v → ∀ inv u current cluster, inv.vm? u.vm.id = some current →
      inv.cluster? current.clusterId = some cluster → u.vm.osId = os.id →
      VmChange.version ⟨current, u.vm, cluster⟩ = v →
      (Operation.updateVm u).judge inv c ≠ .ok .accepted) := by
  have hbase : os.minMemoryMb ≤ os.maxMemoryMb := (parse_eq_ok_iff.1 h).2.min_le_max os hos
  refine ⟨⟨_, _, answerOs_memoryBounds h hos, OsEntry.minMemoryMbAt_le_iff hbase⟩, ?_⟩
  intro hinverted inv u current cluster hvm hcluster hid hv haccepted
  obtain ⟨current', cluster', os', hvm', hcluster', hos', hadmissible⟩ :=
    Operation.updateVm_accepted_iff.1 haccepted
  obtain rfl : current = current' := Option.some.inj (hvm.symm.trans hvm')
  obtain rfl : cluster = cluster' := Option.some.inj (hcluster.symm.trans hcluster')
  rw [hid, os?_id_of_parse h hos] at hos'
  cases hos'
  have hmemory : LegalMemory c os v u.vm.memoryMb := hv ▸ hadmissible.memory
  exact hmemory.not_invertedAt hbase hinverted

section Overrides

/-- A text with one entry, whose bounds three versions invert: the first by a greater least memory,
the second by a smaller greatest one, the third by both. -/
def invertingText : String :=
  "[[os]]\nid = 1\nname = \"a\"\nmin-memory-mb = 2\nmax-memory-mb = 4\ndisk-interfaces = []\n" ++
  "[os.versions.\"4.1\"]\nmin-memory-mb = 8\n" ++
  "[os.versions.\"4.2\"]\nmax-memory-mb = 1\n" ++
  "[os.versions.\"4.3\"]\nmin-memory-mb = 4\nmax-memory-mb = 3\n"

/-- The entry of that text. -/
def invertingEntry : OsEntry where
  id := 1
  name := "a"
  isWindows := false
  architecture := .x86_64
  minMemoryMb := 2
  maxMemoryMb := 4
  diskInterfaces := []
  unsupportedCpus := []
  versions := [(⟨4, 1⟩, ⟨some 8, none, none, none⟩), (⟨4, 2⟩, ⟨none, some 1, none, none⟩),
    (⟨4, 3⟩, ⟨some 4, some 3, none, none⟩)]

/-- The text is taken in. -/
theorem parse_invertingText : parse invertingText = .ok ⟨⟨none⟩, .default, [invertingEntry]⟩ :=
  toOption_eq_some_iff.1 (by decide +kernel)

theorem memoryBounds_usable_iff_inverting : ∃ c, parse invertingText = .ok c ∧
    ∀ inv u current cluster, inv.vm? u.vm.id = some current →
      inv.cluster? current.clusterId = some cluster → u.vm.osId = 1 →
      VmChange.version ⟨current, u.vm, cluster⟩ = ⟨4, 1⟩ →
      (Operation.updateVm u).judge inv c ≠ .ok .accepted :=
  ⟨_, parse_invertingText, (memoryBounds_usable_iff parse_invertingText List.mem_cons_self ⟨4, 1⟩).2
    ⟨⟨some 8, none, none, none⟩, rfl, (by decide : (4 : UInt64) < 8)⟩⟩

/-- Tables are taken in whose memory ranges at three versions are inverted. -/
theorem memoryBounds_inverted : ∃ c, parse invertingText = .ok c ∧
    c.answerOs (.memoryBounds 1 ⟨4, 1⟩) = .ok (8, 4) ∧
    c.answerOs (.memoryBounds 1 ⟨4, 2⟩) = .ok (2, 1) ∧
    c.answerOs (.memoryBounds 1 ⟨4, 3⟩) = .ok (4, 3) :=
  ⟨_, parse_invertingText, rfl, rfl, rfl⟩

end Overrides

end Capabilities

end VmAdmission
