import VmAdmission.Proofs.Codec.Gather
import VmAdmission.Proofs.Fallible

/-!
# The parts of a record

Where a record's field is found in a datum (`Datum.part?`): behind the field's key, or at the
field's place if the datum is the list of the fields' values. Each field of a record that is read
takes its value from that part alone, or has the value that stands for its absence
(`Fields.takeFrom_of_read`).
-/

namespace VmAdmission

namespace Datum

/-- The members of a datum. The items of a list are those of the keys, in turn. -/
def membersBy (keys : List String) : Datum → List (String × Datum)
  | .list items => keys.zip items
  | datum => (datum.members?.map Prod.fst).getD []

/-- What a datum has at a key. -/
def part? (keys : List String) (key : String) (datum : Datum) : Option Datum :=
  ((datum.membersBy keys).find? fun m => m.1 = key).map Prod.snd

/-- What a datum has at a place, if it is a list. -/
def item? (k : Nat) : Datum → Option Datum
  | .list items => items[k]?
  | _ => none

end Datum

namespace Codec

open Datum

variable {σ α : Type} {αs : List Type} {d : Dialect} {strict : Bool}

/-- The field has its value from the part, or the value that stands for its absence where there is
no such part. -/
def Field.TakesFrom (field : Field σ α) (d : Dialect) (part : Option Datum) (x : α) : Prop :=
  (∃ datum, part = some datum ∧ field.codec.read d datum = .ok x) ∨
    part = none ∧ (field.absent = some x ∨ field.beyond = some x)

theorem Field.takesFrom_defaulting_iff {key : String} {c : Codec α} {get : σ → α} {default x : α}
    {part : Option Datum} :
    (Field.defaulting key c get default).TakesFrom d part x ↔
      (∃ datum, part = some datum ∧ c.read d datum = .ok x) ∨ part = none ∧ x = default := by
  simp [TakesFrom, defaulting, eq_comm]

namespace Fields

/-- Each of the fields has its value from the part at its key. -/
def TakeFrom (d : Dialect) (part? : String → Option Datum) :
    {αs : List Type} → Fields σ αs → Values αs → Prop
  | _, .nil, _ => True
  | _, .cons field rest, (x, xs) =>
    field.TakesFrom d (part? field.key) x ∧ rest.TakeFrom d part? xs

variable {fields : Fields σ αs} {xs : Values αs} {ms : List (String × Datum)}
  {items left : List Datum} {datum : Datum}

theorem takeFrom_congr {p q : String → Option Datum} (h : ∀ key ∈ fields.keys, p key = q key)
    (hp : fields.TakeFrom d p xs) : fields.TakeFrom d q xs := by
  induction fields with
  | nil => trivial
  | cons field rest ih =>
    obtain ⟨x, xs⟩ := xs
    obtain ⟨hfield, hrest⟩ := hp
    refine ⟨?_, ih (fun key hkey => h key (List.mem_cons_of_mem _ hkey)) hrest⟩
    rwa [← h field.key List.mem_cons_self]

/-- The one member with a field's key is the part that the field takes its value from. -/
theorem takesFrom_of_gather {field : Field σ α} {x : α} (h : field.gather d ms = some x) :
    field.TakesFrom d ((ms.find? fun m => m.1 = field.key).map Prod.snd) x := by
  have hfind : ms.find? (fun m => m.1 = field.key) = (membersAt field.key ms).head? := by
    rw [membersAt, List.head?_filter]
  rw [hfind]
  unfold Field.gather at h
  generalize membersAt field.key ms = hits at h ⊢
  rcases hits with _ | ⟨m, _ | ⟨m', hits⟩⟩
  · rw [settle_nil] at h
    exact .inr ⟨rfl, .inl h⟩
  · rw [settle_singleton] at h
    cases hread : field.codec.read d m.2 with
    | error e =>
      rw [hread] at h
      cases h
    | ok y =>
      rw [hread] at h
      cases h
      exact .inl ⟨m.2, rfl, hread⟩
  · rw [settle_cons_cons] at h
    cases h

theorem find?_membersBeside {key other : String} (h : other ≠ key) :
    ((membersBeside key ms).find? fun m => m.1 = other) = ms.find? fun m => m.1 = other := by
  rw [membersBeside, List.find?_filter]
  congr 1
  funext m
  by_cases hm : m.1 = other
  · simp [hm, h]
  · simp [hm]

theorem takeFrom_of_gather (hnodup : fields.keys.Nodup) (h : fields.gather strict d ms = some xs) :
    fields.TakeFrom d (fun key => (ms.find? fun m => m.1 = key).map Prod.snd) xs := by
  induction fields generalizing ms with
  | nil => trivial
  | cons field rest ih =>
    obtain ⟨hkey, hnodup⟩ := List.nodup_cons.1 hnodup
    obtain ⟨x, hx, h⟩ := Option.bind_eq_some_iff.1 h
    obtain ⟨xs', hxs, rfl⟩ := Option.map_eq_some_iff.1 h
    refine ⟨takesFrom_of_gather hx, takeFrom_congr ?_ (ih hnodup hxs)⟩
    intro key hmem
    rw [find?_membersBeside]
    rintro rfl
    exact hkey hmem

theorem takeFrom_of_readItems (hnodup : fields.keys.Nodup)
    (h : (fields.readItems d items).toOption = some (xs, left)) :
    fields.TakeFrom d (fun key => ((fields.keys.zip items).find? fun m => m.1 = key).map Prod.snd)
      xs := by
  induction fields generalizing items with
  | nil => trivial
  | cons field rest ih =>
    obtain ⟨hkey, hnodup⟩ := List.nodup_cons.1 hnodup
    cases items with
    | nil =>
      rw [toOption_readItems_cons_nil] at h
      obtain ⟨x, hx, h⟩ := Option.bind_eq_some_iff.1 h
      obtain ⟨r, hr, h⟩ := Option.map_eq_some_iff.1 h
      cases h
      refine ⟨.inr ⟨rfl, .inr hx⟩, takeFrom_congr ?_ (ih hnodup hr)⟩
      intro key _
      rw [List.zip_nil_right, List.zip_nil_right]
    | cons item items =>
      rw [toOption_readItems_cons] at h
      obtain ⟨x, hx, h⟩ := Option.bind_eq_some_iff.1 h
      obtain ⟨r, hr, h⟩ := Option.map_eq_some_iff.1 h
      cases h
      rw [keys, List.zip_cons_cons]
      refine ⟨.inl ⟨item, by simp, toOption_eq_some_iff.1 hx⟩, takeFrom_congr ?_ (ih hnodup hr)⟩
      intro key hmem
      have hne : field.key ≠ key := by
        rintro rfl
        exact hkey hmem
      rw [List.find?_cons_of_neg (by simpa using hne)]

/-- Every field of a record that is read takes its value from its part. -/
theorem takeFrom_of_read (hnodup : fields.keys.Nodup) (h : fields.read strict d datum = .ok xs) :
    fields.TakeFrom d (fun key => datum.part? fields.keys key) xs := by
  have hrecord (ms : List (String × Datum)) (hms : fields.read strict d (.record ms) = .ok xs) :
      fields.TakeFrom d (fun key => (ms.find? fun m => m.1 = key).map Prod.snd) xs := by
    rw [← toOption_eq_some_iff, toOption_read_record] at hms
    exact takeFrom_of_gather hnodup hms
  cases datum with
  | list items =>
    rw [← toOption_eq_some_iff, toOption_read_list] at h
    obtain ⟨⟨xs', left⟩, hr, h⟩ := Option.bind_eq_some_iff.1 h
    split at h
    · cases h
      exact takeFrom_of_readItems hnodup hr
    · cases h
  | record ms => exact hrecord ms h
  | table ms => exact hrecord ms h
  | moment => exact hrecord _ h
  | torn ms damage =>
    simp only [read, members?] at h
    cases hread : fields.readMembers strict d ms (.empty αs) <;> simp [hread] at h
  | null => cases h
  | bool _ => cases h
  | int _ => cases h
  | decimal _ => cases h
  | text _ => cases h
  | damaged _ => cases h

end Fields

end Codec

end VmAdmission
