import VmAdmission.Proofs.Codec.Parts
import VmAdmission.Proofs.ConsistentTables
import VmAdmission.Proofs.VersionTables

/-!
# What capability tables answer at a version

An entry of an operating system has overrides for some versions. At such a version each part that is
overridden is taken from there, be it empty, and each other part from the entry itself
(`OsEntry.Gives`); a limit has a value only at the versions whose own table sets it. What is said
for one version is never seen at another, which is stated by leaving that version out of all tables
(`Capabilities.without`). `Capabilities.answers_by_version` says all this of tables that are taken
in, and ties their entries to the members of the document that spell the version. These stand in the
order of the text: a table with a heading of its own at that heading, any other where its key is
first met.
-/

namespace VmAdmission

/-! ## What a version gives -/

namespace OsEntry

variable {α : Type} {os : OsEntry} {v w : Version} {part : OsOverride → Option α} {base : α}

/-- The part that holds at a version: the one that the version overrides, or the entry's own where
it overrides none. -/
def Gives (os : OsEntry) (v : Version) (part : OsOverride → Option α) (base x : α) : Prop :=
  (∃ o, (v, o) ∈ os.versions ∧ part o = some x) ∨
    (∀ o, (v, o) ∈ os.versions → part o = none) ∧ x = base

theorem gives_resolve (h : os.versions.Ascending) :
    os.Gives v part base (os.resolve v part base) := by
  unfold Gives resolve
  simp only [← h.find?_eq_some_iff]
  cases hfound : os.versions.find? v with
  | none => exact .inr ⟨by simp, rfl⟩
  | some o =>
    cases hpart : part o with
    | none => exact .inr ⟨by simp [hpart], by simp [hpart]⟩
    | some x => exact .inl ⟨o, rfl, by simp [hpart]⟩

/-- The entry without its overrides for a version. -/
def without (v : Version) (os : OsEntry) : OsEntry :=
  { os with versions := os.versions.without v }

theorem resolve_without (h : w ≠ v) :
    (os.without v).resolve w part base = os.resolve w part base := by
  unfold resolve without
  rw [VersionTable.find?_without h]

end OsEntry

/-- The version that a query is about, if it is about one. -/
def OsQuery.version? : OsQuery → Option Version
  | .supportsInterface _ v _ | .memoryBounds _ v | .supportsCpu _ v _ => some v
  | .name _ | .isWindows _ => none

/-- The version that a query is about, if it is about one. -/
def SettingsQuery.version? : SettingsQuery → Option Version
  | .supportsFeature _ v | .limit _ v => some v
  | .maxNameLength _ | .minMemory | .monitorCounts | .allowsProtectedEditing => none

namespace Capabilities

variable {c c' : Capabilities} {v : Version} {text : String} {fault : Fault}

/-! ## Entries and limits -/

theorem os?_eq_none_iff {id : OsId} : c.os? id = none ↔ ∀ os ∈ c.operatingSystems, os.id ≠ id := by
  simp [os?]

theorem limit?_eq_some_iff (h : c.settings.versions.Ascending) {s : VersionedSetting} {n : UInt32} :
    c.settings.limit? s v = some n ↔
      ∃ limits, (v, limits) ∈ c.settings.versions ∧ limits.get? s = some n := by
  simp only [Settings.limit?, Option.bind_eq_some_iff, h.find?_eq_some_iff]

theorem limit?_eq_none_iff (h : c.settings.versions.Ascending) {s : VersionedSetting} :
    c.settings.limit? s v = none ↔
      ∀ limits, (v, limits) ∈ c.settings.versions → limits.get? s = none := by
  simp only [Settings.limit?, Option.bind_eq_none_iff, h.find?_eq_some_iff]

/-! ## Tables but for one version -/

/-- The tables without what they say for a version. -/
def without (v : Version) (c : Capabilities) : Capabilities :=
  { c with
    settings := { c.settings with versions := c.settings.versions.without v }
    operatingSystems := c.operatingSystems.map (OsEntry.without v) }

theorem os_without {id : OsId} : (c.without v).os id = (c.os id).map (OsEntry.without v) := by
  have hfound : (c.without v).os? id = (c.os? id).map (OsEntry.without v) := by
    unfold os? without
    rw [List.find?_map]
    rfl
  unfold Capabilities.os
  rw [hfound]
  cases c.os? id <;> rfl

theorem map_os_without {α : Type} {id : OsId} {f : OsEntry → α}
    (h : ∀ os : OsEntry, f (os.without v) = f os) :
    ((c.without v).os id).map f = (c.os id).map f := by
  rw [os_without]
  cases c.os id with
  | error fault => rfl
  | ok os => exact congrArg Except.ok (h os)

/-- A query that is not about the version does not see what is said for it. -/
theorem answerOs_without {q : OsQuery} (h : q.version? ≠ some v) :
    (c.without v).answerOs q = c.answerOs q := by
  cases q with
  | supportsInterface id w i =>
    have hw : w ≠ v := fun he => h (congrArg some he)
    exact map_os_without fun os => congrArg (List.contains · i) (OsEntry.resolve_without hw)
  | name id => exact map_os_without fun _ => rfl
  | isWindows id => exact map_os_without fun _ => rfl
  | memoryBounds id w =>
    have hw : w ≠ v := fun he => h (congrArg some he)
    exact map_os_without fun os =>
      congrArg₂ Prod.mk (OsEntry.resolve_without hw) (OsEntry.resolve_without hw)
  | supportsCpu id w cpu =>
    have hw : w ≠ v := fun he => h (congrArg some he)
    exact map_os_without fun os => congrArg (fun cpus => !List.contains cpus cpu)
      (OsEntry.resolve_without hw)

theorem answerSettings_without {q : SettingsQuery} (h : q.version? ≠ some v) :
    (c.without v).answerSettings q = c.answerSettings q := by
  cases q with
  | limit s w =>
    have hw : w ≠ v := fun he => h (congrArg some he)
    have hlimit : (c.without v).settings.limit? s w = c.settings.limit? s w := by
      unfold Settings.limit? without
      rw [VersionTable.find?_without hw]
    simp only [answerSettings, hlimit]
  | supportsFeature f w => rfl
  | maxNameLength isWindows => rfl
  | minMemory => rfl
  | monitorCounts => rfl
  | allowsProtectedEditing => rfl

/-! ## Tables of a document -/

open VersionTable (ComesFrom LastMember membersOf)

/-- What a document gives as the limits by version. -/
def givenLimits (doc : Datum) : Option Datum :=
  (doc.part? fields.keys "settings").bind (Datum.part? Settings.fields.keys "versions")

/-- What a document gives as the overrides of the entry at a place. -/
def givenOverrides (doc : Datum) (k : Nat) : Option Datum :=
  ((doc.part? fields.keys "os").bind (Datum.item? k)).bind
    (Datum.part? OsEntry.fields.keys "versions")

variable {doc datum : Datum} {k : Nat} {os : OsEntry}

theorem comesFrom_of_read_settings {s : Settings} (h : Settings.codec.read .toml datum = .ok s) :
    ComesFrom VersionLimits.codec .toml (datum.part? Settings.fields.keys "versions")
      s.versions := by
  obtain ⟨xs, hxs, rfl⟩ := map_eq_ok_iff.1 h
  obtain ⟨-, -, -, -, -, hversions, -⟩ := Codec.Fields.takeFrom_of_read (by decide) hxs
  exact Codec.Field.takesFrom_defaulting_iff.1 hversions

theorem comesFrom_of_read_entry (h : OsEntry.codec.read .toml datum = .ok os) :
    ComesFrom OsOverride.codec .toml (datum.part? OsEntry.fields.keys "versions") os.versions := by
  obtain ⟨xs, hxs, rfl⟩ := map_eq_ok_iff.1 h
  obtain ⟨-, -, -, -, -, -, -, -, hversions, -⟩ := Codec.Fields.takeFrom_of_read (by decide) hxs
  exact Codec.Field.takesFrom_defaulting_iff.1 hversions

/-- The settings and the entries are read from the parts of the document at their keys. -/
theorem takeFrom_of_read (h : codec.read .toml doc = .ok c) :
    ((∃ settings, doc.part? fields.keys "settings" = some settings ∧
        Settings.codec.read .toml settings = .ok c.settings) ∨
      doc.part? fields.keys "settings" = none ∧ c.settings = .default) ∧
    ((∃ entries, doc.part? fields.keys "os" = some entries ∧
        OsEntry.codec.list.read .toml entries = .ok c.operatingSystems) ∨
      doc.part? fields.keys "os" = none ∧ c.operatingSystems = []) := by
  obtain ⟨xs, hxs, rfl⟩ := map_eq_ok_iff.1 h
  obtain ⟨-, hsettings, hentries, -⟩ := Codec.Fields.takeFrom_of_read (by decide) hxs
  exact ⟨Codec.Field.takesFrom_defaulting_iff.1 hsettings,
    Codec.Field.takesFrom_defaulting_iff.1 hentries⟩

theorem comesFrom_givenLimits (h : codec.read .toml doc = .ok c) :
    ComesFrom VersionLimits.codec .toml (givenLimits doc) c.settings.versions := by
  unfold givenLimits
  rcases (takeFrom_of_read h).1 with ⟨settings, hpart, hread⟩ | ⟨hpart, hdefault⟩
  · rw [hpart]
    exact comesFrom_of_read_settings hread
  · rw [hpart, hdefault]
    exact .inr ⟨rfl, rfl⟩

theorem comesFrom_givenOverrides (h : codec.read .toml doc = .ok c)
    (hk : c.operatingSystems[k]? = some os) :
    ComesFrom OsOverride.codec .toml (givenOverrides doc k) os.versions := by
  unfold givenOverrides
  rcases (takeFrom_of_read h).2 with ⟨entries, hpart, hread⟩ | ⟨-, hnone⟩
  · rw [hpart]
    cases entries with
    | list items =>
      obtain ⟨item, hitem, hread⟩ := getElem?_of_mapM_eq_ok (f := OsEntry.codec.read .toml) hread hk
      have hfound : (Datum.list items).item? k = some item := hitem
      rw [Option.bind_some, hfound]
      exact comesFrom_of_read_entry hread
    | _ => cases hread
  · rw [hnone] at hk
    cases hk

theorem exists_read_of_parse (h : parse text = .ok c) :
    ∃ doc, Toml.read? text = some doc ∧ codec.read .toml doc = .ok c := by
  have hdecode := (parse_eq_ok_iff.1 h).1
  unfold decode at hdecode
  split at hdecode
  · cases hdecode
  · rename_i doc hdoc
    exact ⟨doc, hdoc, hdecode⟩

/-! ## Answers -/

theorem ascending_limits_of_parse (h : parse text = .ok c) : c.settings.versions.Ascending := by
  obtain ⟨doc, -, hread⟩ := exists_read_of_parse h
  exact (comesFrom_givenLimits hread).ascending

theorem ascending_overrides_of_parse (h : parse text = .ok c) (hos : os ∈ c.operatingSystems) :
    os.versions.Ascending := by
  obtain ⟨doc, -, hread⟩ := exists_read_of_parse h
  obtain ⟨k, hk⟩ := List.mem_iff_getElem?.1 hos
  exact (comesFrom_givenOverrides hread hk).ascending

theorem os_of_parse (h : parse text = .ok c) (hos : os ∈ c.operatingSystems) :
    c.os os.id = .ok os :=
  os_eq_ok_iff.2 (os?_id_of_parse h hos)

/-- The answers about an entry at a version are those of its parts, each of which the version gives
by itself. -/
theorem answers_of_entry (h : parse text = .ok c) (hos : os ∈ c.operatingSystems) (v : Version) :
    ∃ least greatest interfaces cpus,
      os.Gives v OsOverride.minMemoryMb os.minMemoryMb least ∧
      os.Gives v OsOverride.maxMemoryMb os.maxMemoryMb greatest ∧
      os.Gives v OsOverride.diskInterfaces os.diskInterfaces interfaces ∧
      os.Gives v OsOverride.unsupportedCpus os.unsupportedCpus cpus ∧
      c.answerOs (.memoryBounds os.id v) = .ok (least, greatest) ∧
      (∀ i, c.answerOs (.supportsInterface os.id v i) = .ok (decide (i ∈ interfaces))) ∧
      ∀ cpu, c.answerOs (.supportsCpu os.id v cpu) = .ok (decide (cpu ∉ cpus)) := by
  have hascending := ascending_overrides_of_parse h hos
  have hentry := os_of_parse h hos
  refine ⟨_, _, _, _, OsEntry.gives_resolve hascending, OsEntry.gives_resolve hascending,
    OsEntry.gives_resolve hascending, OsEntry.gives_resolve hascending, ?_, ?_, ?_⟩
  · rw [answerOs, hentry]
    rfl
  · intro i
    rw [answerOs, hentry]
    simp [Except.map, OsEntry.diskInterfacesAt]
  · intro cpu
    rw [answerOs, hentry]
    simp [Except.map, OsEntry.unsupportedCpusAt]

/-- **Answers by version.** Of tables that are taken in, the following holds.

1. A query about a system is a fault, that the system is unknown, exactly if there is no entry.
2. For each entry and version, the least memory, the greatest, the disk interfaces and the
   processors that are not supported are each what the version overrides, be it empty, or else what
   the entry says.
3. A limit is what the table of exactly that version sets, and a fault where it sets nothing.
4. Tables that differ at one version only give the same answers at every other.
5. The table for a version is what the last member that spells the version holds in the document;
   of other members that spell it, nothing is left. -/
theorem answers_by_version (h : parse text = .ok c) :
    (∀ q fault, c.answerOs q = .error fault ↔
      (∀ os ∈ c.operatingSystems, os.id ≠ q.osId) ∧ fault = .unknownOs q.osId) ∧
    (∀ os ∈ c.operatingSystems, ∀ v, ∃ least greatest interfaces cpus,
      os.Gives v OsOverride.minMemoryMb os.minMemoryMb least ∧
      os.Gives v OsOverride.maxMemoryMb os.maxMemoryMb greatest ∧
      os.Gives v OsOverride.diskInterfaces os.diskInterfaces interfaces ∧
      os.Gives v OsOverride.unsupportedCpus os.unsupportedCpus cpus ∧
      c.answerOs (.memoryBounds os.id v) = .ok (least, greatest) ∧
      (∀ i, c.answerOs (.supportsInterface os.id v i) = .ok (decide (i ∈ interfaces))) ∧
      ∀ cpu, c.answerOs (.supportsCpu os.id v cpu) = .ok (decide (cpu ∉ cpus))) ∧
    (∀ s v,
      (∀ n, c.answerSettings (.limit s v) = .ok n ↔
        ∃ limits, (v, limits) ∈ c.settings.versions ∧ limits.get? s = some n) ∧
      ∀ fault, c.answerSettings (.limit s v) = .error fault ↔
        (∀ limits, (v, limits) ∈ c.settings.versions → limits.get? s = none) ∧
          fault = .missingSetting s v) ∧
    (∀ v (c' : Capabilities), c'.without v = c.without v →
      (∀ q : OsQuery, q.version? ≠ some v → c'.answerOs q = c.answerOs q) ∧
      ∀ q : SettingsQuery, q.version? ≠ some v → c'.answerSettings q = c.answerSettings q) ∧
    ∃ doc, Toml.read? text = some doc ∧
      (∀ v limits, (v, limits) ∈ c.settings.versions ↔
        ∃ m, LastMember v (membersOf (givenLimits doc)) m ∧
          VersionLimits.codec.read .toml m.2 = .ok limits) ∧
      ∀ k os, c.operatingSystems[k]? = some os → ∀ v o, (v, o) ∈ os.versions ↔
        ∃ m, LastMember v (membersOf (givenOverrides doc k)) m ∧
          OsOverride.codec.read .toml m.2 = .ok o := by
  have hlimits := ascending_limits_of_parse h
  obtain ⟨doc, hdoc, hread⟩ := exists_read_of_parse h
  refine ⟨?_, fun os hos v => answers_of_entry h hos v, ?_, ?_, doc, hdoc, ?_, ?_⟩
  · intro q fault
    rw [answerOs_eq_error_iff, os?_eq_none_iff]
  · intro s v
    refine ⟨fun n => ?_, fun fault => ?_⟩
    · rw [answerSettings_limit_eq_ok_iff, limit?_eq_some_iff hlimits]
    · rw [answerSettings_limit_eq_error_iff, limit?_eq_none_iff hlimits]
  · intro v c' heq
    constructor
    · intro q hq
      rw [← answerOs_without hq, heq, answerOs_without hq]
    · intro q hq
      rw [← answerSettings_without hq, heq, answerSettings_without hq]
  · intro v limits
    exact (comesFrom_givenLimits hread).mem_iff_lastMember
  · intro k os hk v o
    exact (comesFrom_givenOverrides hread hk).mem_iff_lastMember

/-- A text in which two keys spell one version, both of the limits and of an entry's overrides. The
later ones set other parts, one of them an empty list. -/
def twiceSpelledText : String :=
  "[settings.versions]\n\"4.2\".max-num-of-vm-sockets = 4\n\"04.2\".max-num-of-vm-cpus = 16\n" ++
  "[[os]]\nid = 1\nname = \"a\"\nmax-memory-mb = 8\ndisk-interfaces = [\"ide\"]\n" ++
  "[os.versions]\n\"4.2\".min-memory-mb = 2\n\"04.2\".disk-interfaces = []\n"

/-- The tables of that text. -/
def twiceSpelled : Capabilities where
  features := ⟨none⟩
  settings := { Settings.default with versions := [(⟨4, 2⟩, ⟨some 16, none, none, none⟩)] }
  operatingSystems := [
    { id := 1
      name := "a"
      isWindows := false
      architecture := .x86_64
      minMemoryMb := 0
      maxMemoryMb := 8
      diskInterfaces := [.ide]
      unsupportedCpus := []
      versions := [(⟨4, 2⟩, ⟨none, none, some [], none⟩)] }]

/-- The text is taken in. -/
theorem parse_twiceSpelledText : parse twiceSpelledText = .ok twiceSpelled :=
  toOption_eq_some_iff.1 (by decide +kernel)

theorem answers_by_version_twiceSpelled : ∃ c, parse twiceSpelledText = .ok c ∧
    c.answerOs (.name 2) = .error (.unknownOs 2) ∧
    (∀ i, c.answerOs (.supportsInterface 1 ⟨4, 2⟩ i) = .ok false) ∧
    c.answerSettings (.limit .maxNumOfVmCpus ⟨4, 2⟩) = .ok 16 ∧
    c.answerSettings (.limit .maxNumOfVmSockets ⟨4, 2⟩) =
      .error (.missingSetting .maxNumOfVmSockets ⟨4, 2⟩) := by
  obtain ⟨hunknown, hentries, hlimits, -⟩ := answers_by_version parse_twiceSpelledText
  obtain ⟨-, -, interfaces, -, -, -, hgives, -, -, hinterfaces, -⟩ :=
    hentries _ List.mem_cons_self ⟨4, 2⟩
  have hnone : interfaces = [] := by
    rcases hgives with ⟨o, ho, hset⟩ | ⟨hunset, -⟩
    · cases List.mem_singleton.1 ho
      cases hset
      rfl
    · cases hunset _ List.mem_cons_self
  subst hnone
  refine ⟨_, parse_twiceSpelledText, (hunknown (.name 2) _).2 ⟨by decide, rfl⟩, hinterfaces,
    ((hlimits _ ⟨4, 2⟩).1 16).2 ⟨_, List.mem_cons_self, rfl⟩,
    ((hlimits _ ⟨4, 2⟩).2 _).2 ⟨?_, rfl⟩⟩
  intro limits hmem
  cases List.mem_singleton.1 hmem
  rfl

end Capabilities

end VmAdmission
