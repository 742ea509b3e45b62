import VmAdmission.Codec.Record

/-!
# Tables by version

A table holds one entry for each of some versions, in ascending order. Two keys of a document that
spell the same version stand for one entry, and the later one holds. `find?_insert` is the law of
such tables.
-/

namespace VmAdmission

/-- Entries by version. -/
abbrev VersionTable (α : Type) := List (Version × α)

namespace VersionTable

variable {α : Type}

/-- The entry of exactly a version. -/
def find? (table : VersionTable α) (v : Version) : Option α :=
  (List.find? (fun entry => entry.1 = v) table).map Prod.snd

/-- The table with an entry for a version in the place of any other. -/
def insert (v : Version) (x : α) : VersionTable α → VersionTable α
  | [] => [(v, x)]
  | (w, y) :: table =>
    if v = w then (v, x) :: table
    else if v ≤ w then (v, x) :: (w, y) :: table
    else (w, y) :: insert v x table

theorem find?_nil (w : Version) : find? ([] : VersionTable α) w = none := rfl

theorem find?_cons (v w : Version) (x : α) (table : VersionTable α) :
    find? ((v, x) :: table) w = if v = w then some x else find? table w := by
  unfold find?
  rw [List.find?_cons]
  by_cases h : v = w <;> simp [h]

theorem find?_insert (v w : Version) (x : α) (table : VersionTable α) :
    find? (insert v x table) w = if v = w then some x else find? table w := by
  induction table with
  | nil => rw [insert, find?_cons]
  | cons entry table ih =>
    obtain ⟨u, y⟩ := entry
    unfold insert
    split
    · rename_i h
      subst h
      by_cases h' : v = w <;> simp [find?_cons, h']
    · rename_i h
      split
      · rw [find?_cons]
      · rw [find?_cons, find?_cons, ih]
        by_cases h₁ : u = w <;> by_cases h₂ : v = w <;> simp_all

/-- Reads the entries of a record in the order of the text. -/
def readEntries (c : Codec α) (d : Dialect) :
    List (String × Datum) → VersionTable α → Except DecodeError (VersionTable α)
  | [], table => .ok table
  | (key, datum) :: members, table =>
    match Codec.parseVersion key with
    | .error e => .error e
    | .ok v =>
      match c.read d datum with
      | .error e => .error e
      | .ok x => readEntries c d members (table.insert v x)

/-- The codec of tables by version, as records keyed by the versions' texts. -/
def codec (c : Codec α) : Codec (VersionTable α) where
  read d datum :=
    match datum.members? with
    | none => .error .invalid
    | some (members, complete) =>
      match readEntries c d members [] with
      | .error e => .error e
      | .ok table => if complete then .ok table else .error .invalid
  write table := .record (table.map fun (v, x) => (v.render, c.write x))

end VersionTable

end VmAdmission
