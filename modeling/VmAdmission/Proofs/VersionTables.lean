import VmAdmission.Proofs.Tables

/-!
# Tables by version

A table that is read from a record holds its versions in ascending order, each of them once
(`VersionTable.Ascending`), so what is found for a version is the one entry that the table has for
it. Several members of the record may spell the same version. The last of them gives the entry, all
of it, and what stands behind the others is lost (`VersionTable.mem_iff_lastMember`).
-/

namespace VmAdmission

/-! ## The last of a list -/

/-- The element is the last of a list with a property. -/
def IsLast {α : Type} (p : α → Prop) (xs : List α) (x : α) : Prop :=
  ∃ before after, xs = before ++ x :: after ∧ p x ∧ ∀ y ∈ after, ¬ p y

theorem isLast_cons_iff {α : Type} {p : α → Prop} {xs : List α} {x y : α} :
    IsLast p (y :: xs) x ↔ IsLast p xs x ∨ x = y ∧ p y ∧ ∀ z ∈ xs, ¬ p z := by
  constructor
  · rintro ⟨_ | ⟨z, before⟩, after, heq, hx, hafter⟩
    · cases heq
      exact .inr ⟨rfl, hx, hafter⟩
    · cases heq
      exact .inl ⟨before, after, rfl, hx, hafter⟩
  · rintro (⟨before, after, rfl, hx, hafter⟩ | ⟨rfl, hx, hafter⟩)
    · exact ⟨y :: before, after, rfl, hx, hafter⟩
    · exact ⟨[], xs, rfl, hx, hafter⟩

namespace VersionTable

variable {α : Type} {table table' : VersionTable α} {v w : Version} {x y : α}

/-! ## Tables in ascending order -/

/-- Each version of the table is above those before it. -/
def Ascending (table : VersionTable α) : Prop :=
  table.Pairwise fun entry later => ¬ later.1 ≤ entry.1

theorem ascending_nil : Ascending ([] : VersionTable α) := .nil

theorem mem_insert {entry : Version × α} (h : entry ∈ insert v x table) :
    entry = (v, x) ∨ entry ∈ table := by
  induction table with
  | nil => exact .inl (List.mem_singleton.1 h)
  | cons first table ih =>
    unfold insert at h
    split at h
    · exact (List.mem_cons.1 h).imp_right (List.mem_cons_of_mem _)
    · split at h
      · exact List.mem_cons.1 h
      · rcases List.mem_cons.1 h with rfl | h
        · exact .inr List.mem_cons_self
        · exact (ih h).imp_right (List.mem_cons_of_mem _)

theorem Ascending.insert (h : Ascending table) : Ascending (insert v x table) := by
  induction table with
  | nil => exact List.pairwise_singleton _ _
  | cons first table ih =>
    obtain ⟨hfirst, htable⟩ := List.pairwise_cons.1 h
    unfold VersionTable.insert
    split
    · rename_i hv
      subst hv
      exact List.pairwise_cons.2 ⟨hfirst, htable⟩
    · rename_i hne
      split
      · rename_i hle
        refine List.pairwise_cons.2 ⟨?_, h⟩
        intro entry hentry
        rcases List.mem_cons.1 hentry with rfl | hentry
        · exact fun hle' => hne (Version.le_antisymm hle hle')
        · exact fun hle' => hfirst entry hentry (Version.le_trans hle' hle)
      · rename_i hnle
        refine List.pairwise_cons.2 ⟨?_, ih htable⟩
        intro entry hentry
        rcases mem_insert hentry with rfl | hentry
        · exact hnle
        · exact hfirst entry hentry

theorem Ascending.nodup (h : Ascending table) : (table.map Prod.fst).Nodup := by
  refine List.pairwise_map.2 (h.imp ?_)
  intro entry later hlater heq
  exact hlater (heq ▸ Version.le_refl entry.1)

/-- What is found for a version is the one entry that the table has for it. -/
theorem Ascending.find?_eq_some_iff (h : Ascending table) :
    table.find? v = some x ↔ (v, x) ∈ table := by
  unfold find?
  rw [Option.map_eq_some_iff]
  constructor
  · rintro ⟨⟨w, y⟩, hfound, rfl⟩
    obtain rfl : w = v := by simpa using List.find?_some hfound
    exact List.mem_of_find?_eq_some hfound
  · intro hmem
    have hfound : List.find? (fun entry => entry.1 = v) table = some (v, x) :=
      find?_key_of_mem h.nodup hmem
    exact ⟨(v, x), hfound, rfl⟩

/-! ## Tables that are read -/

/-- The member is the last one that spells the version. -/
def LastMember (v : Version) (members : List (String × Datum)) (m : String × Datum) : Prop :=
  IsLast (fun m => Version.parse m.1 = .ok v) members m

variable {c : Codec α} {d : Dialect} {members : List (String × Datum)} {datum : Datum}

theorem parseVersion_eq_ok_iff {text : String} :
    Codec.parseVersion text = .ok v ↔ Version.parse text = .ok v := by
  unfold Codec.parseVersion
  cases Version.parse text <;> simp [Except.mapError]

theorem readEntries_cons_eq_ok_iff {m : String × Datum} :
    readEntries c d (m :: members) table = .ok table' ↔
      ∃ v x, Version.parse m.1 = .ok v ∧ c.read d m.2 = .ok x ∧
        readEntries c d members (table.insert v x) = .ok table' := by
  obtain ⟨key, datum⟩ := m
  rw [readEntries]
  simp only [← parseVersion_eq_ok_iff]
  cases Codec.parseVersion key with
  | error e => simp
  | ok v => cases c.read d datum <;> simp

theorem Ascending.readEntries (h : Ascending table)
    (hread : readEntries c d members table = .ok table') : Ascending table' := by
  induction members generalizing table with
  | nil =>
    cases hread
    exact h
  | cons m members ih =>
    obtain ⟨v, x, -, -, hread⟩ := readEntries_cons_eq_ok_iff.1 hread
    exact ih h.insert hread

/-- Behind some entries, the last member that spells a version gives the entry for it, and where
there is none the entry stays. -/
theorem find?_readEntries_iff (hread : readEntries c d members table = .ok table') :
    table'.find? v = some x ↔
      (∃ m, LastMember v members m ∧ c.read d m.2 = .ok x) ∨
        (∀ m ∈ members, Version.parse m.1 ≠ .ok v) ∧ table.find? v = some x := by
  induction members generalizing table with
  | nil =>
    cases hread
    simp [LastMember, IsLast]
  | cons m members ih =>
    obtain ⟨w, y, hw, hy, hread⟩ := readEntries_cons_eq_ok_iff.1 hread
    rw [ih hread, find?_insert]
    simp only [LastMember, isLast_cons_iff, List.forall_mem_cons, hw, ne_eq, Except.ok.injEq]
    by_cases hv : w = v
    · subst hv
      rw [if_pos rfl]
      constructor
      · rintro (⟨m', hlast, hx⟩ | ⟨hnone, hx⟩)
        · exact .inl ⟨m', .inl hlast, hx⟩
        · cases hx
          exact .inl ⟨m, .inr ⟨rfl, rfl, hnone⟩, hy⟩
      · rintro (⟨m', hlast | ⟨rfl, -, hnone⟩, hx⟩ | ⟨⟨hne, -⟩, -⟩)
        · exact .inl ⟨m', hlast, hx⟩
        · cases hy.symm.trans hx
          exact .inr ⟨hnone, rfl⟩
        · exact absurd rfl hne
    · rw [if_neg hv]
      constructor
      · rintro (⟨m', hlast, hx⟩ | ⟨hnone, hx⟩)
        · exact .inl ⟨m', .inl hlast, hx⟩
        · exact .inr ⟨⟨hv, hnone⟩, hx⟩
      · rintro (⟨m', hlast | ⟨-, hv', -⟩, hx⟩ | ⟨⟨-, hnone⟩, hx⟩)
        · exact .inl ⟨m', hlast, hx⟩
        · exact absurd hv' hv
        · exact .inr ⟨hnone, hx⟩

/-- The members by which a table is given; where nothing is given, there are none. -/
def membersOf (given : Option Datum) : List (String × Datum) :=
  ((given.bind Datum.members?).map Prod.fst).getD []

theorem read_eq_ok_iff :
    (codec c).read d datum = .ok table ↔
      ∃ members, datum.members? = some (members, true) ∧
        readEntries c d members [] = .ok table := by
  simp only [codec]
  rcases datum.members? with _ | ⟨members, complete⟩
  · simp
  · cases hread : readEntries c d members [] with
    | error e => simp [hread]
    | ok table => cases complete <;> simp [hread]

/-- The table comes from what is given: it is read from that, or nothing is given and it is
empty. -/
def ComesFrom (c : Codec α) (d : Dialect) (given : Option Datum) (table : VersionTable α) : Prop :=
  (∃ datum, given = some datum ∧ (codec c).read d datum = .ok table) ∨ given = none ∧ table = []

variable {given : Option Datum}

theorem ComesFrom.readEntries (h : ComesFrom c d given table) :
    VersionTable.readEntries c d (membersOf given) [] = .ok table := by
  rcases h with ⟨datum, rfl, hread⟩ | ⟨rfl, rfl⟩
  · obtain ⟨members, hmembers, hread⟩ := read_eq_ok_iff.1 hread
    simp [membersOf, hmembers, hread]
  · rfl

theorem ComesFrom.ascending (h : ComesFrom c d given table) : Ascending table :=
  ascending_nil.readEntries h.readEntries

/-- The entry for a version is what the last member that spells it holds. -/
theorem ComesFrom.mem_iff_lastMember (h : ComesFrom c d given table) :
    (v, x) ∈ table ↔ ∃ m, LastMember v (membersOf given) m ∧ c.read d m.2 = .ok x := by
  rw [← h.ascending.find?_eq_some_iff, find?_readEntries_iff h.readEntries]
  simp [find?_nil]

/-! ## Tables but for one version -/

/-- The table without its entry for a version. -/
def without (v : Version) (table : VersionTable α) : VersionTable α :=
  table.filter fun entry => entry.1 ≠ v

theorem find?_without (h : w ≠ v) : (table.without v).find? w = table.find? w := by
  unfold without find?
  rw [List.find?_filter]
  congr 2
  funext entry
  by_cases hw : entry.1 = w
  · simp [hw, h]
  · simp [hw]

end VersionTable

end VmAdmission
