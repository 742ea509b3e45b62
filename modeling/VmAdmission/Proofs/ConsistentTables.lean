import VmAdmission.Capabilities.BuiltIn
import VmAdmission.Capabilities.Consistency
import VmAdmission.Proofs.Codec.Gather
import VmAdmission.Proofs.Tables
import Mathlib.Data.List.Induction
import Mathlib.Data.Nat.Find

/-!
# Consistent tables

The entries of operating systems are consistent (`OsEntry.Consistent`) if their numbers are distinct
and none asks for more memory than it allows. What a text holds is taken in exactly then, and else
the first entry at fault is reported: one whose number an earlier one bears, or one whose memory
bounds are inverted (`parse_reports_first_fault`). So a number stands for one entry of the tables
that are taken in, in whatever order they are entered. The built-in tables are taken in like others,
from a text of their own (`parse_builtInText`).
-/

namespace VmAdmission

/-! ## Entries at fault -/

namespace OsEntry

/-- Entries without fault: no number is borne twice, and none asks for more memory than it
allows. -/
structure Consistent (entries : List OsEntry) : Prop where
  ids_nodup : (entries.map OsEntry.id).Nodup
  min_le_max : ∀ os ∈ entries, os.minMemoryMb ≤ os.maxMemoryMb

/-- The entry is at fault behind earlier ones: one of them bears its number, or its memory bounds
are inverted. -/
def IsAtFault (earlier : List OsEntry) (os : OsEntry) : Prop :=
  os.id ∈ earlier.map OsEntry.id ∨ os.maxMemoryMb < os.minMemoryMb

instance (entries : List OsEntry) : Decidable (Consistent entries) :=
  decidable_of_iff ((entries.map OsEntry.id).Nodup ∧ ∀ os ∈ entries, os.minMemoryMb ≤ os.maxMemoryMb)
    ⟨fun ⟨hids, hbounds⟩ => ⟨hids, hbounds⟩, fun ⟨hids, hbounds⟩ => ⟨hids, hbounds⟩⟩

instance (earlier : List OsEntry) (os : OsEntry) : Decidable (os.IsAtFault earlier) :=
  inferInstanceAs (Decidable (_ ∨ _))

/-- The entry stands at a place, is at fault behind those before it, and is the first such one. -/
structure FirstAtFault (entries : List OsEntry) (k : Nat) (os : OsEntry) : Prop where
  getElem?_eq : entries[k]? = some os
  isAtFault : os.IsAtFault (entries.take k)
  least : ∀ j < k, ∀ other, entries[j]? = some other → ¬ other.IsAtFault (entries.take j)

variable {entries : List OsEntry} {os : OsEntry} {k : Nat}

theorem consistent_nil : Consistent [] := ⟨List.nodup_nil, nofun⟩

/-- Consistent entries stay so behind one more exactly if it is not at fault. -/
theorem consistent_concat_iff :
    Consistent (entries ++ [os]) ↔ Consistent entries ∧ ¬ os.IsAtFault entries := by
  unfold IsAtFault
  rw [not_or, UInt64.not_lt]
  constructor
  · rintro ⟨hids, hbounds⟩
    rw [List.map_append, List.nodup_append] at hids
    rw [List.forall_mem_append] at hbounds
    obtain ⟨hentries, -, hdisjoint⟩ := hids
    exact ⟨⟨hentries, hbounds.1⟩, fun hmem => hdisjoint _ hmem _ List.mem_cons_self rfl,
      hbounds.2 os List.mem_cons_self⟩
  · rintro ⟨⟨hids, hbounds⟩, hid, hos⟩
    refine ⟨?_, List.forall_mem_append.2 ⟨hbounds, by simpa using hos⟩⟩
    rw [List.map_append, List.nodup_append]
    refine ⟨hids, List.nodup_singleton _, ?_⟩
    rintro id hmem _ hlast rfl
    rw [List.mem_singleton.1 hlast] at hmem
    exact hid hmem

/-- The first entries are consistent exactly if none of them is at fault behind those before it. -/
theorem consistent_take_iff :
    Consistent (entries.take k) ↔
      ∀ j < k, ∀ other, entries[j]? = some other → ¬ other.IsAtFault (entries.take j) := by
  induction k with
  | zero => simp [consistent_nil]
  | succ k ih =>
    rw [List.take_add_one]
    cases hk : entries[k]? with
    | none =>
      rw [Option.toList_none, List.append_nil, ih]
      constructor
      · intro h j hj other hother
        rcases Nat.lt_succ_iff_lt_or_eq.1 hj with hj | rfl
        · exact h j hj other hother
        · rw [hk] at hother
          cases hother
      · exact fun h j hj => h j (Nat.lt_succ_of_lt hj)
    | some os =>
      rw [Option.toList_some, consistent_concat_iff, ih]
      constructor
      · rintro ⟨h, hos⟩ j hj other hother
        rcases Nat.lt_succ_iff_lt_or_eq.1 hj with hj | rfl
        · exact h j hj other hother
        · rw [hk] at hother
          cases hother
          exact hos
      · exact fun h => ⟨fun j hj => h j (Nat.lt_succ_of_lt hj), h k (Nat.lt_succ_self k) os hk⟩

/-- Entries that are not consistent have a first one at fault. -/
theorem exists_firstAtFault (h : ¬ Consistent entries) :
    ∃ k os, FirstAtFault entries k os := by
  have hfault : ∃ k, ∃ os : OsEntry, entries[k]? = some os ∧ os.IsAtFault (entries.take k) := by
    by_contra hnone
    refine h ?_
    rw [← List.take_length (l := entries), consistent_take_iff]
    exact fun j _ other hother hat => hnone ⟨j, other, hother, hat⟩
  classical
  obtain ⟨os, hos, hat⟩ := Nat.find_spec hfault
  exact ⟨Nat.find hfault, os, hos, hat, fun j hj other hother hat =>
    Nat.find_min hfault hj ⟨other, hother, hat⟩⟩

theorem FirstAtFault.not_consistent (h : FirstAtFault entries k os) : ¬ Consistent entries := by
  intro hconsistent
  rw [← List.take_length (l := entries), consistent_take_iff] at hconsistent
  have hlt : k < entries.length := (List.getElem?_eq_some_iff.1 h.getElem?_eq).1
  exact hconsistent k hlt os h.getElem?_eq h.isAtFault

end OsEntry

/-! ## The check -/

namespace Capabilities

open OsEntry

variable {taken : List OsId} {before after entries : List OsEntry} {os : OsEntry} {k : Nat}
  {c : Capabilities} {text : String}

/-- Behind entries without fault, the check goes on with their numbers taken. -/
theorem firstFault?_append (h : firstFault? taken before = none) :
    firstFault? taken (before ++ after) =
      firstFault? ((before.map OsEntry.id).reverse ++ taken) after := by
  induction before generalizing taken with
  | nil => rfl
  | cons os before ih =>
    rw [firstFault?] at h
    rw [List.cons_append, firstFault?]
    split at h
    · cases h
    · rename_i htaken
      rw [if_neg htaken]
      split at h
      · cases h
      · rename_i hbounds
        rw [if_neg hbounds, ih h, List.map_cons, List.reverse_cons, List.append_assoc]
        rfl

theorem firstFault?_of_consistent (h : Consistent entries) : firstFault? [] entries = none := by
  induction entries using List.reverseRecOn with
  | nil => rfl
  | append_singleton entries os ih =>
    obtain ⟨hentries, hos⟩ := consistent_concat_iff.1 h
    obtain ⟨hid, hbounds⟩ := not_or.1 hos
    rw [firstFault?_append (ih hentries), List.append_nil, firstFault?,
      if_neg (by rwa [List.mem_reverse]), if_neg hbounds, firstFault?]

/-- The check reports the first entry at fault, and the number that is taken before the bounds. -/
theorem firstFault?_of_firstAtFault (h : FirstAtFault entries k os) :
    firstFault? [] entries = some (if os.id ∈ (entries.take k).map OsEntry.id
      then .duplicateOs os.id
      else .memoryBoundsInverted os.id os.minMemoryMb os.maxMemoryMb) := by
  obtain ⟨hk, hos⟩ := List.getElem?_eq_some_iff.1 h.getElem?_eq
  have hsplit : entries.take k ++ os :: entries.drop (k + 1) = entries := by
    rw [← hos, List.getElem_cons_drop, List.take_append_drop]
  have hbefore : firstFault? [] (entries.take k) = none :=
    firstFault?_of_consistent (consistent_take_iff.2 h.least)
  conv_lhs => rw [← hsplit]
  rw [firstFault?_append hbefore, List.append_nil, firstFault?]
  simp only [List.mem_reverse]
  by_cases hid : os.id ∈ (entries.take k).map OsEntry.id
  · rw [if_pos hid, if_pos hid]
  · have hbounds : os.maxMemoryMb < os.minMemoryMb := h.isAtFault.resolve_left hid
    rw [if_neg hid, if_neg hid, if_pos hbounds]

theorem checked_eq_ok_iff {c' : Capabilities} :
    c.checked = .ok c' ↔ c = c' ∧ Consistent c.operatingSystems := by
  unfold checked
  by_cases h : Consistent c.operatingSystems
  · rw [firstFault?_of_consistent h]
    simp [h]
  · obtain ⟨k, os, hfirst⟩ := exists_firstAtFault h
    rw [firstFault?_of_firstAtFault hfirst]
    simp [h]

theorem checked_of_firstAtFault (h : FirstAtFault c.operatingSystems k os) :
    c.checked = .error (if os.id ∈ (c.operatingSystems.take k).map OsEntry.id
      then .duplicateOs os.id
      else .memoryBoundsInverted os.id os.minMemoryMb os.maxMemoryMb) := by
  rw [checked, firstFault?_of_firstAtFault h]

/-! ## Tables in a text -/

/-- The tables that a text holds, be they consistent or not. -/
def decode (text : String) : Except DecodeError Capabilities :=
  match Toml.read? text with
  | none => .error .invalid
  | some datum => codec.read .toml datum

theorem parse_eq :
    parse text = match decode text with
      | .error e => .error (.undecodable e)
      | .ok c => c.checked := by
  unfold parse decode
  cases Toml.read? text <;> rfl

theorem parse_of_decode (h : decode text = .ok c) : parse text = c.checked := by
  rw [parse_eq, h]

/-- Tables that are taken in are those that the text holds, and are consistent. -/
theorem parse_eq_ok_iff :
    parse text = .ok c ↔ decode text = .ok c ∧ Consistent c.operatingSystems := by
  rw [parse_eq]
  cases decode text with
  | error e => simp
  | ok c' =>
    show c'.checked = .ok c ↔ _
    rw [checked_eq_ok_iff]
    constructor
    · rintro ⟨rfl, h⟩
      exact ⟨rfl, h⟩
    · rintro ⟨hc, h⟩
      cases hc
      exact ⟨rfl, h⟩

/-- In tables that are taken in, an entry is found by its number. -/
theorem os?_id_of_parse (h : parse text = .ok c) (hos : os ∈ c.operatingSystems) :
    c.os? os.id = some os :=
  find?_key_of_mem (parse_eq_ok_iff.1 h).2.ids_nodup hos

/-- **The check of capability tables.** The tables that a text holds are taken in, as they are,
exactly if their entries of operating systems are consistent. Otherwise the first entry at fault is
reported, by its number if an earlier entry bears it, and else by its number and its inverted
bounds. In tables that are taken in, a number is looked up as the one entry that bears it, whatever
the order of the entries. -/
theorem parse_reports_first_fault (h : decode text = .ok c) :
    (parse text = .ok c ↔ Consistent c.operatingSystems) ∧
    (¬ Consistent c.operatingSystems ↔ ∃ k os, FirstAtFault c.operatingSystems k os) ∧
    (∀ k os, FirstAtFault c.operatingSystems k os →
      (os.id ∈ (c.operatingSystems.take k).map OsEntry.id →
        parse text = .error (.duplicateOs os.id)) ∧
      (os.id ∉ (c.operatingSystems.take k).map OsEntry.id →
        parse text = .error (.memoryBoundsInverted os.id os.minMemoryMb os.maxMemoryMb))) ∧
    (parse text = .ok c → ∀ id,
      (c.operatingSystems.filter fun os => os.id = id) = (c.os? id).toList ∧
      ∀ c' : Capabilities, c'.operatingSystems.Perm c.operatingSystems →
        c'.os? id = c.os? id) := by
  refine ⟨?_, ⟨exists_firstAtFault, fun ⟨_, _, hfirst⟩ => hfirst.not_consistent⟩,
    fun k os hfirst => ?_, fun hok id => ?_⟩
  · rw [parse_eq_ok_iff]
    exact and_iff_right h
  · rw [parse_of_decode h, checked_of_firstAtFault hfirst]
    exact ⟨fun hid => by rw [if_pos hid], fun hid => by rw [if_neg hid]⟩
  · have hids := (parse_eq_ok_iff.1 hok).2.ids_nodup
    exact ⟨filter_key_eq_find? hids id, fun c' hperm =>
      (find?_key_eq_of_perm hperm.symm hids id).symm⟩

/-- A text with two entries of one number, of which the later has inverted bounds as well. -/
def twiceEntered : String :=
  "[[os]]\nid = 1\nname = \"a\"\nmax-memory-mb = 4096\ndisk-interfaces = [\"ide\"]\n\n" ++
  "[[os]]\nid = 1\nname = \"b\"\nmin-memory-mb = 2048\nmax-memory-mb = 1024\ndisk-interfaces = []\n"

theorem parse_reports_first_fault_twice_entered :
    ∃ c, decode twiceEntered = .ok c ∧ parse twiceEntered = .error (.duplicateOs 1) := by
  have hdecode : decode twiceEntered = .ok ⟨⟨none⟩, .default,
      [⟨1, "a", false, .x86_64, 0, 4096, [.ide], [], []⟩,
        ⟨1, "b", false, .x86_64, 2048, 1024, [], [], []⟩]⟩ :=
    toOption_eq_some_iff.1 (by decide +kernel)
  refine ⟨_, hdecode, ((parse_reports_first_fault hdecode).2.2.1 1 _ ⟨rfl, ?_, ?_⟩).1 ?_⟩
  · decide
  · intro j hj other hother
    obtain rfl : j = 0 := Nat.lt_one_iff.1 hj
    cases hother
    decide
  · decide

/-! ## The built-in tables -/

/-- The lines of the text of the built-in tables. -/
def builtInLines : List String :=
  ["# Capability tables for the vmconf validation engine.",
  "",
  "[features]",
  "virtio-scsi = \"3.3\"",
  "",
  "[settings]",
  "max-vm-name-length-windows = 15",
  "max-vm-name-length-non-windows = 64",
  "vm-min-memory-mb = 256",
  "valid-num-of-monitors = [1, 2, 4]",
  "allow-editing-hosted-engine = false",
  "",
  "[settings.versions.\"4.1\"]",
  "max-num-of-vm-cpus = 288",
  "max-num-of-vm-sockets = 16",
  "max-num-of-cpu-per-socket = 254",
  "max-num-of-threads-per-cpu = 8",
  "",
  "[settings.versions.\"4.2\"]",
  "max-num-of-vm-cpus = 384",
  "max-num-of-vm-sockets = 16",
  "max-num-of-cpu-per-socket = 254",
  "max-num-of-threads-per-cpu = 8",
  "",
  "[[os]]",
  "id = 0",
  "name = \"Other OS\"",
  "max-memory-mb = 4194304",
  "disk-interfaces = [\"ide\", \"virtio\", \"virtio-scsi\"]",
  "",
  "[[os]]",
  "id = 5",
  "name = \"Red Hat Enterprise Linux 7.x x64\"",
  "max-memory-mb = 4194304",
  "min-memory-mb = 1024",
  "disk-interfaces = [\"ide\", \"virtio\", \"virtio-scsi\", \"sata\"]",
  "unsupported-cpus = [\"Intel Conroe Family\"]",
  "",
  "[[os]]",
  "id = 11",
  "name = \"Windows XP\"",
  "windows = true",
  "max-memory-mb = 4096",
  "disk-interfaces = [\"ide\"]",
  "",
  "[os.versions.\"4.2\"]",
  "disk-interfaces = [\"ide\", \"virtio\"]",
  "",
  "[[os]]",
  "id = 1001",
  "name = \"Red Hat Enterprise Linux 7.x ppc64\"",
  "architecture = \"ppc64\"",
  "max-memory-mb = 1048576",
  "disk-interfaces = [\"virtio\", \"virtio-scsi\", \"spapr-vscsi\"]"]

/-- The text of the built-in tables. -/
def builtInText : String := String.join (builtInLines.map (· ++ "\n"))

theorem toList_builtInText :
    builtInText.toList = builtInLines.flatMap fun line => line.toList ++ ['\n'] := by
  simp [builtInText, List.flatMap_map]

/-- Whatever text has the characters of these lines holds the built-in tables. -/
theorem decode_of_toList_eq
    (h : text.toList = builtInLines.flatMap fun line => line.toList ++ ['\n']) :
    decode text = .ok builtIn := by
  refine toOption_eq_some_iff.1 ?_
  unfold decode Toml.read?
  -- the lines are evaluated one by one; the text, put together, would not be in reasonable time
  rw [h]
  decide +kernel

/-- The built-in tables are those of their text, and are taken in. -/
theorem parse_builtInText : parse builtInText = .ok builtIn :=
  parse_eq_ok_iff.2 ⟨decode_of_toList_eq toList_builtInText, by decide⟩

end Capabilities

end VmAdmission
