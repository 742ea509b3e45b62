import VmAdmission.Codec.Tagged
import VmAdmission.Proofs.Codec.Members

/-!
# Reading a record field by field

A record is read member by member, so that the first fault in its text is the one reported. What it
holds, if there is no fault, is said more simply field by field: each field takes its value from the
one member with its key (`Fields.toOption_read_record`). A tagged union takes its variant from the
one member with the tag's key, and the rest from the others (`Tagged.toOption_read_record`). These
two equations say everything about records except which of several faults is reported.
-/

namespace VmAdmission

variable {α β σ ε : Type}

@[simp] theorem toOption_ok (x : α) : (.ok x : Except ε α).toOption = some x := rfl

@[simp] theorem toOption_error (e : ε) : (.error e : Except ε α).toOption = none := rfl

@[simp] theorem toOption_map (x : Except ε α) (f : α → β) :
    (x.map f).toOption = x.toOption.map f := by
  cases x <;> rfl

@[simp] theorem toOption_bind (x : Except ε α) (f : α → Except ε β) :
    (x >>= f).toOption = x.toOption.bind fun a => (f a).toOption := by
  cases x <;> rfl

@[simp] theorem toOption_mapError {ε' : Type} (x : Except ε α) (f : ε → ε') :
    (x.mapError f).toOption = x.toOption := by
  cases x <;> rfl

theorem toOption_eq_some_iff {x : Except ε α} {a : α} : x.toOption = some a ↔ x = .ok a := by
  cases x <;> simp

namespace Codec

open Datum

/-- What a place holds once the values of some members are read into it, of which one may be. -/
def settle (read : Datum → Option α) : Option α → List (String × Datum) → Option (Option α)
  | place, [] => some place
  | none, m :: hits => (read m.2).bind fun x => settle read (some x) hits
  | some _, _ :: _ => none

section Settle

variable {read : Datum → Option α} {m m' : String × Datum} {hits : List (String × Datum)}

@[simp] theorem settle_nil {place : Option α} : settle read place [] = some place := by
  cases place <;> rfl

@[simp] theorem settle_singleton : settle read none [m] = (read m.2).map some := by
  cases h : read m.2 <;> simp [settle, h]

/-- A second member finds the place taken. -/
@[simp] theorem settle_cons_cons : settle read none (m :: m' :: hits) = none := by
  cases h : read m.2 <;> simp [settle, h]

theorem settle_of_one_lt_length (h : 1 < hits.length) : settle read none hits = none := by
  rcases hits with _ | ⟨m, _ | ⟨m', hits⟩⟩
  · exact absurd h (by simp)
  · exact absurd h (by simp)
  · exact settle_cons_cons

end Settle

/-! ## Records -/

section Fields

variable {αs : List Type} {strict : Bool} {d : Dialect} {members : List (String × Datum)}

/-- What a field holds at last: what is read from the one member with its key, or what its absence
stands for. -/
def Field.gather (field : Field σ α) (d : Dialect) (members : List (String × Datum)) : Option α :=
  (settle (fun x => (field.codec.read d x).toOption) none (membersAt field.key members)).bind
    fun place => place.or field.absent

/-- Whether a record may hold members that no field takes: a strict one may not, and a lax one has
to pass their values over. -/
def mayLeave (strict : Bool) (members : List (String × Datum)) : Bool :=
  if strict then members.isEmpty else members.all fun m => m.2.isPassable

/-- The value of a field in front of those of the others. -/
def Values.cons {αs : List Type} (x : α) (xs : Values αs) : Values (α :: αs) := (x, xs)

/-- The values of all fields, each taken from the members that the fields before it have left
over. -/
def Fields.gather (strict : Bool) (d : Dialect) :
    {αs : List Type} → Fields σ αs → List (String × Datum) → Option (Values αs)
  | _, .nil, members =>
    if mayLeave strict members then some () else none
  | _, .cons field rest, members =>
    (field.gather d members).bind fun x =>
      (rest.gather strict d (membersBeside field.key members)).map (.cons x)

namespace Fields

theorem toOption_readMembers_nil :
    (readMembers strict d (.nil : Fields σ []) members (.empty [])).toOption =
      if mayLeave strict members then some (.empty []) else none := by
  induction members with
  | nil => cases strict <;> rfl
  | cons m members ih =>
    simp only [readMembers, fill]
    cases strict with
    | true => rfl
    | false =>
      have hleave : mayLeave false (m :: members) =
          (m.2.isPassable && mayLeave false members) := rfl
      rw [hleave]
      cases m.2.isPassable with
      | false => rfl
      | true => exact ih

/-- Each member goes to the first field or to the others, whatever stands between. -/
theorem toOption_readMembers_cons {field : Field σ α} {rest : Fields σ αs} {slot : Option α}
    {slots : Slots αs} :
    (readMembers strict d (.cons field rest) members (slot, slots)).toOption =
      (settle (fun x => (field.codec.read d x).toOption) slot (membersAt field.key members)).bind
        fun slot =>
          (readMembers strict d rest (membersBeside field.key members) slots).toOption.map
            (slot, ·) := by
  induction members generalizing slot slots with
  | nil => cases slot <;> rfl
  | cons m members ih =>
    by_cases hkey : m.1 = field.key
    · rw [membersAt_cons_self hkey, membersBeside_cons_self hkey]
      simp only [readMembers, fill, if_pos hkey]
      cases slot with
      | some x => rfl
      | none =>
        simp only [settle]
        cases field.codec.read d m.2 with
        | error e => rfl
        | ok x => exact ih
    · rw [membersAt_cons_of_ne hkey, membersBeside_cons_of_ne hkey]
      simp only [readMembers, fill, if_neg hkey]
      cases rest.fill d m.1 m.2 slots with
      | none =>
        cases strict with
        | true => exact (Option.bind_fun_none _).symm
        | false =>
          cases m.2.isPassable with
          | false => exact (Option.bind_fun_none _).symm
          | true => exact ih
      | some filled =>
        cases filled with
        | error e => exact (Option.bind_fun_none _).symm
        | ok slots' => exact ih

/-- The places of all fields, completed, are what is gathered. -/
theorem bind_complete_readMembers (fields : Fields σ αs) (members : List (String × Datum)) :
    ((readMembers strict d fields members (.empty αs)).toOption.bind fun slots =>
      (fields.complete slots).toOption) = fields.gather strict d members := by
  induction fields generalizing members with
  | nil =>
    exact (Option.bind_fun_some _).trans toOption_readMembers_nil
  | cons field rest ih =>
    rw [gather, ← ih, Field.gather, Slots.empty, toOption_readMembers_cons]
    cases settle (fun x => (field.codec.read d x).toOption) none
      (membersAt field.key members) with
    | none => rfl
    | some slot =>
      cases (readMembers strict d rest (membersBeside field.key members)
        (.empty _)).toOption with
      | none => exact (Option.bind_fun_none _).symm
      | some slots =>
        simp only [Option.bind_some, Option.map_some]
        show (complete (.cons field rest) (slot, slots)).toOption = _
        rw [complete]
        cases slot.or field.absent with
        | none => rfl
        | some x => exact toOption_map _ _

/-- A record is read field by field. -/
theorem toOption_read_record (fields : Fields σ αs) :
    (fields.read strict d (.record members)).toOption = fields.gather strict d members := by
  rw [← bind_complete_readMembers]
  simp only [Fields.read, Datum.members?]
  cases readMembers strict d fields members (.empty αs) <;> rfl

/-! From a list, the values are read one by one. -/

theorem toOption_readItems_cons {field : Field σ α} {rest : Fields σ αs} {item : Datum}
    {items : List Datum} :
    ((Fields.cons field rest).readItems d (item :: items)).toOption =
      (field.codec.read d item).toOption.bind fun x =>
        (rest.readItems d items).toOption.map fun r => (.cons x r.1, r.2) := by
  simp only [readItems]
  cases field.codec.read d item with
  | error e => rfl
  | ok x => exact toOption_map _ _

theorem toOption_readItems_cons_nil {field : Field σ α} {rest : Fields σ αs} :
    ((Fields.cons field rest).readItems d []).toOption =
      field.beyond.bind fun x =>
        (rest.readItems d []).toOption.map fun r => (.cons x r.1, r.2) := by
  simp only [readItems]
  cases field.beyond with
  | none => rfl
  | some x => exact toOption_map _ _

theorem toOption_read_list {fields : Fields σ αs} {items : List Datum} :
    (fields.read strict d (.list items)).toOption =
      (fields.readItems d items).toOption.bind fun r =>
        if r.2.isEmpty || d.admitsSurplusItems then some r.1 else none := by
  simp only [read]
  cases fields.readItems d items with
  | error e => rfl
  | ok r =>
    simp only [toOption_ok, Option.bind_some]
    split <;> rfl

end Fields

end Fields

/-! ## Tagged unions -/

namespace Tagged

variable {τ : Type} {tag : String} {members : List (String × Datum)}

/-- The tag is read where its key is met, and whatever stands beside it is set aside undamaged. -/
theorem toOption_separate {readTag : Datum → Except DecodeError τ} {found : Option τ} :
    (separate tag readTag found members).toOption =
      (settle (fun x => (readTag x).toOption) found (membersAt tag members)).bind fun found =>
        if ∀ m ∈ membersBeside tag members, m.2.isWhole = true then
          some (found, membersBeside tag members)
        else none := by
  induction members generalizing found with
  | nil => cases found <;> simp [separate]
  | cons m members ih =>
    by_cases hkey : m.1 = tag
    · simp only [separate, if_pos hkey, membersAt_cons_self hkey, membersBeside_cons_self hkey]
      cases found with
      | some t => rfl
      | none =>
        simp only [settle]
        cases readTag m.2 with
        | error e => rfl
        | ok t => exact ih
    · simp only [separate, if_neg hkey, membersAt_cons_of_ne hkey, membersBeside_cons_of_ne hkey,
        List.forall_mem_cons]
      cases m.2.isWhole with
      | false => simp
      | true =>
        rw [if_pos rfl, toOption_map, ih, Option.map_bind]
        simp only [true_and]
        congr 1
        funext found
        simp only [Function.comp_apply]
        split <;> rfl

/-- A tagged union is read by the variant that its one tag names, from the other members. -/
theorem toOption_read_record (variants : List (Variant σ)) (d : Dialect) :
    (read tag variants d (.record members)).toOption =
      (settle (fun x => (readTag variants d x).toOption) none (membersAt tag members)).bind
        fun found => found.bind fun v =>
          if ∀ m ∈ membersBeside tag members, m.2.isWhole = true then
            (v.read (.record (membersBeside tag members))).toOption
          else none := by
  have hread : (read tag variants d (.record members)).toOption =
      (separate tag (readTag variants d) none members).toOption.bind fun found =>
        found.1.bind fun v => (v.read (.record found.2)).toOption := by
    simp only [read, Datum.members?]
    rcases separate tag (readTag variants d) none members with e | ⟨_ | v, others⟩ <;> rfl
  rw [hread, toOption_separate, Option.bind_assoc]
  congr 1
  funext found
  split
  · rfl
  · cases found <;> rfl

/-- The one tag leads to its variant. -/
theorem toOption_read_of_singleton {variants : List (Variant σ)} {d : Dialect} {v : Variant σ}
    {x : Datum} (hat : membersAt tag members = [(tag, x)]) (hx : readTag variants d x = .ok v) :
    (read tag variants d (.record members)).toOption =
      if ∀ m ∈ membersBeside tag members, m.2.isWhole = true then
        (v.read (.record (membersBeside tag members))).toOption
      else none := by
  rw [toOption_read_record, hat, settle_singleton, hx]
  rfl

theorem toOption_read_list_cons {variants : List (Variant σ)} {d : Dialect} {item : Datum}
    {items : List Datum} :
    (read tag variants d (.list (item :: items))).toOption =
      (readTag variants d item).toOption.bind fun v =>
        if areWhole items then (v.read (.list items)).toOption else none := by
  simp only [read]
  cases readTag variants d item with
  | error e => rfl
  | ok v =>
    simp only [toOption_ok, Option.bind_some]
    split <;> rfl

end Tagged

end Codec

end VmAdmission
