import VmAdmission.Proofs.Codec.Gather

/-!
# Codecs that lose nothing

A codec is sound (`Codec.RoundTrips`) if it reads back what it writes, in every dialect, and writes
only plain data of a bounded nesting: data that every notation has a text for. The property is
handed up from the parts to the whole: to options and lists, to records whose fields have distinct
keys (`record_roundTrips`), and to tagged unions whose tag is none of the variants' keys
(`tagged_roundTrips`).
-/

namespace VmAdmission

/-! ## Plain data -/

/-- A datum that has a text and is nested at most so deeply: integers are natural numbers of 64
bits, and nothing is damaged. -/
inductive Datum.Plain : Nat → Datum → Prop
  | null {depth : Nat} : Plain depth .null
  | bool {depth : Nat} (b : Bool) : Plain depth (.bool b)
  | int {depth n : Nat} (h : n < UInt64.size) : Plain depth (.int n)
  | text {depth : Nat} (s : String) : Plain depth (.text s)
  | list {depth : Nat} {items : List Datum} (h : ∀ item ∈ items, Plain depth item) :
    Plain (depth + 1) (.list items)
  | record {depth : Nat} {members : List (String × Datum)} (h : ∀ m ∈ members, Plain depth m.2) :
    Plain (depth + 1) (.record members)

namespace Datum

theorem Plain.mono {depth depth' : Nat} {d : Datum} (h : d.Plain depth) (hle : depth ≤ depth') :
    d.Plain depth' := by
  induction h generalizing depth' with
  | null => exact .null
  | bool b => exact .bool b
  | int h => exact .int h
  | text s => exact .text s
  | list h ih =>
    cases depth' with
    | zero => exact absurd hle (Nat.not_succ_le_zero _)
    | succ depth' => exact .list fun item hitem => ih item hitem (Nat.le_of_succ_le_succ hle)
  | record h ih =>
    cases depth' with
    | zero => exact absurd hle (Nat.not_succ_le_zero _)
    | succ depth' => exact .record fun m hm => ih m hm (Nat.le_of_succ_le_succ hle)

/-- Plain data are not damaged. -/
theorem Plain.isWhole {depth : Nat} {d : Datum} (h : d.Plain depth) : d.isWhole = true := by
  induction h with
  | null | bool | int | text => simp [Datum.isWhole]
  | list h ih =>
    rw [Datum.isWhole, areWhole_eq_all]
    exact List.all_eq_true.2 ih
  | record h ih =>
    rw [Datum.isWhole, areMembersWhole_eq_all]
    exact List.all_eq_true.2 ih

end Datum

namespace Codec

open Datum

variable {α σ : Type} {depth : Nat} {c : Codec α}

/-- What is written is read back, in every dialect, and is plain and nested at most so deeply. -/
structure RoundTrips (depth : Nat) (c : Codec α) : Prop where
  lawful : c.Lawful
  plain : ∀ x, (c.write x).Plain depth

theorem RoundTrips.mono {depth' : Nat} (h : c.RoundTrips depth) (hle : depth ≤ depth') :
    c.RoundTrips depth' :=
  ⟨h.lawful, fun x => (h.plain x).mono hle⟩

/-! ## Scalars, options and lists -/

theorem bool_roundTrips : bool.RoundTrips depth := ⟨bool_lawful, .bool⟩

theorem text_roundTrips : text.RoundTrips depth := ⟨text_lawful, .text⟩

theorem uint32_roundTrips : uint32.RoundTrips depth :=
  ⟨uint32_lawful, fun x => .int (Nat.lt_trans x.toNat_lt_size (by decide))⟩

theorem uint64_roundTrips : uint64.RoundTrips depth :=
  ⟨uint64_lawful, fun x => .int x.toNat_lt_size⟩

theorem uuid_roundTrips : uuid.RoundTrips depth := ⟨uuid_lawful, fun u => .text u.render⟩

theorem version_roundTrips : version.RoundTrips depth := ⟨version_lawful, fun v => .text v.render⟩

theorem list_roundTrips (h : c.RoundTrips depth) : c.list.RoundTrips (depth + 1) where
  lawful := list_lawful h.lawful
  plain xs := by
    refine .list fun item hitem => ?_
    obtain ⟨x, -, rfl⟩ := List.mem_map.1 hitem
    exact h.plain x

theorem option_roundTrips (h : c.RoundTrips depth) (hnull : ∀ x, c.write x ≠ .null) :
    c.option.RoundTrips depth where
  lawful := option_lawful h.lawful hnull
  plain
    | none => .null
    | some x => h.plain x

/-- An enumeration that lists all values, under distinct names. -/
theorem enumeration_roundTrips {values : List α} {name : α → String} (hall : ∀ x, x ∈ values)
    (hnames : (values.map name).Nodup) : (enumeration values name).RoundTrips depth where
  lawful := enumeration_lawful hall fun x y h => List.inj_on_of_nodup_map hnames (hall x) (hall y) h
  plain x := .text (name x)

/-! ## Records -/

/-- The field's value is read back, and a value that is left out is the one that absence stands
for. -/
structure Field.RoundTrips (depth : Nat) (field : Field σ α) : Prop where
  codec : field.codec.RoundTrips depth
  omitted : ∀ x, field.isOmitted x = true → field.absent = some x

namespace Field

theorem required_roundTrips {key : String} {get : σ → α} (h : c.RoundTrips depth) :
    (required key c get).RoundTrips depth :=
  ⟨h, nofun⟩

theorem defaulting_roundTrips {key : String} {get : σ → α} {default : α}
    (h : c.RoundTrips depth) : (defaulting key c get default).RoundTrips depth :=
  ⟨h, nofun⟩

theorem optional_roundTrips {key : String} {get : σ → Option α} (h : c.RoundTrips depth)
    (hnull : ∀ x, c.write x ≠ .null) : (optional key c get).RoundTrips depth :=
  defaulting_roundTrips (option_roundTrips h hnull)

end Field

namespace Fields

/-- Every field's value is read back. -/
def RoundTrips (depth : Nat) : {αs : List Type} → Fields σ αs → Prop
  | _, .nil => True
  | _, .cons field rest => field.RoundTrips depth ∧ rest.RoundTrips depth

/-- The values of a record's fields. -/
def values (r : σ) : {αs : List Type} → Fields σ αs → Values αs
  | _, .nil => ()
  | _, .cons field rest => (field.get r, rest.values r)

/-- The places of a record's fields once the record's own members are read. -/
def slots (r : σ) : {αs : List Type} → Fields σ αs → Slots αs
  | _, .nil => ()
  | _, .cons field rest =>
    (if field.isOmitted (field.get r) then none else some (field.get r), rest.slots r)

variable {αs : List Type} {fields : Fields σ αs} {strict : Bool} {d : Dialect} {r : σ}

theorem key_mem_keys_of_mem_members {m : String × Datum} (hm : m ∈ fields.members r) :
    m.1 ∈ fields.keys := by
  induction fields with
  | nil => cases hm
  | cons field rest ih =>
    rw [members] at hm
    split at hm
    · exact List.mem_cons_of_mem _ (ih hm)
    · rcases List.mem_cons.1 hm with rfl | hm
      · exact List.mem_cons_self
      · exact List.mem_cons_of_mem _ (ih hm)

theorem plain_of_mem_members (h : fields.RoundTrips depth) {m : String × Datum}
    (hm : m ∈ fields.members r) : m.2.Plain depth := by
  induction fields with
  | nil => cases hm
  | cons field rest ih =>
    rw [members] at hm
    split at hm
    · exact ih h.2 hm
    · rcases List.mem_cons.1 hm with rfl | hm
      · exact h.1.codec.plain _
      · exact ih h.2 hm

/-- A record's own members fill the places of the fields that are not left out. -/
theorem readMembers_members (hkeys : fields.keys.Nodup) (h : fields.RoundTrips depth) :
    readMembers strict d fields (fields.members r) (.empty αs) = .ok (fields.slots r) := by
  rw [← toOption_eq_some_iff]
  induction fields with
  | nil => rfl
  | cons field rest ih =>
    obtain ⟨hkey, hkeys⟩ := List.nodup_cons.1 hkeys
    have hothers : field.key ∉ (rest.members r).map Prod.fst := fun hmem => by
      obtain ⟨m, hm, he⟩ := List.mem_map.1 hmem
      exact hkey (he ▸ key_mem_keys_of_mem_members hm)
    by_cases homitted : field.isOmitted (field.get r) = true
    · rw [members, slots, if_pos homitted, if_pos homitted, Slots.empty, toOption_readMembers_cons,
        membersAt_eq_nil hothers, membersBeside_eq_self hothers, settle_nil, Option.bind_some,
        ih hkeys h.2]
      rfl
    · rw [members, slots, if_neg homitted, if_neg homitted, Slots.empty, toOption_readMembers_cons,
        membersAt_cons_of_notMem hothers, membersBeside_cons_of_notMem hothers, settle_singleton,
        h.1.codec.lawful d _, ih hkeys h.2]
      rfl

theorem complete_slots (h : fields.RoundTrips depth) :
    fields.complete (fields.slots r) = .ok (fields.values r) := by
  induction fields with
  | nil => rfl
  | @cons α αs field rest ih =>
    have hvalue : (if field.isOmitted (field.get r) then none else some (field.get r)).or
        field.absent = some (field.get r) := by
      split
      · rename_i homitted
        exact h.1.omitted _ homitted
      · rfl
    rw [slots, complete, hvalue, ih h.2]
    rfl

end Fields

/-- The values of the fields are read back from a record's own members, whatever else is read
beside the record. -/
theorem read_record_members {αs : List Type} {fields : Fields σ αs} {strict : Bool} {d : Dialect}
    {r : σ} (hkeys : fields.keys.Nodup) (h : fields.RoundTrips depth) :
    fields.read strict d (.record (fields.members r)) = .ok (fields.values r) := by
  simp only [Fields.read, Datum.members?, Fields.readMembers_members hkeys h]
  exact Fields.complete_slots h

/-- A record type whose fields have distinct keys, and which is built from its fields' values. -/
theorem record_roundTrips {αs : List Type} {fields : Fields σ αs} {strict : Bool}
    {build : Values αs → σ} (hkeys : fields.keys.Nodup) (h : fields.RoundTrips depth)
    (hbuild : ∀ r, build (fields.values r) = r) :
    (record strict fields build).RoundTrips (depth + 1) where
  lawful d r := by
    show (fields.read strict d (.record (fields.members r))).map build = .ok r
    rw [read_record_members hkeys h]
    exact congrArg Except.ok (hbuild r)
  plain r := .record fun m hm => Fields.plain_of_mem_members h hm

/-! ## Tagged unions -/

/-- A variant's contents are read back from the members that stand beside the tag, none of which
has the tag's key. -/
structure Variant.RoundTrips (tag : String) (depth : Nat) (v : Variant σ) : Prop where
  read_members : ∀ x members, v.members? x = some members → v.read (.record members) = .ok x
  key_ne_tag : ∀ x members, v.members? x = some members → ∀ m ∈ members, m.1 ≠ tag
  plain : ∀ x members, v.members? x = some members → ∀ m ∈ members, m.2.Plain depth

namespace Variant

variable {π : Type} {αs : List Type} {tag name : String}

theorem record_roundTrips {fields : Fields π αs} {strict : Bool} {build : Values αs → σ}
    {project? : σ → Option π} (hkeys : (tag :: fields.keys).Nodup) (h : fields.RoundTrips depth)
    (hbuild : ∀ x p, project? x = some p → build (fields.values p) = x) :
    (record name strict fields build project?).RoundTrips tag depth := by
  obtain ⟨htag, hkeys⟩ := List.nodup_cons.1 hkeys
  have hmembers {x : σ} {members : List (String × Datum)}
      (hx : (project? x).map (fun p => fields.members p) = some members) :
      ∃ p, project? x = some p ∧ fields.members p = members := Option.map_eq_some_iff.1 hx
  refine ⟨fun x _ hx => ?_, fun x _ hx m hm he => ?_, fun x _ hx m hm => ?_⟩
  · obtain ⟨p, hp, rfl⟩ := hmembers hx
    show (fields.read strict .deferred (.record (fields.members p))).map build = .ok x
    rw [read_record_members hkeys h]
    exact congrArg Except.ok (hbuild x p hp)
  · obtain ⟨p, -, rfl⟩ := hmembers hx
    exact htag (he ▸ Fields.key_mem_keys_of_mem_members hm)
  · obtain ⟨p, -, rfl⟩ := hmembers hx
    exact Fields.plain_of_mem_members h hm

theorem unit_roundTrips {value : σ} {isValue : σ → Bool}
    (hvalue : ∀ x, isValue x = true → x = value) :
    (unit name value isValue).RoundTrips tag depth := by
  have hmembers {x : σ} {members : List (String × Datum)}
      (hx : (if isValue x then some [] else none) = some members) :
      x = value ∧ members = [] := by
    split at hx
    · rename_i h
      exact ⟨hvalue x h, (Option.some.inj hx).symm⟩
    · cases hx
  refine ⟨fun x _ hx => ?_, fun x _ hx m hm => ?_, fun x _ hx m hm => ?_⟩
  · obtain ⟨rfl, rfl⟩ := hmembers hx
    rfl
  · obtain ⟨-, rfl⟩ := hmembers hx
    cases hm
  · obtain ⟨-, rfl⟩ := hmembers hx
    cases hm

end Variant

namespace Tagged

variable {tag : String} {variants : List (Variant σ)}

theorem readTag_name {d : Dialect} {v : Variant σ} (hnames : (variants.map Variant.name).Nodup)
    (hv : v ∈ variants) : readTag variants d (.text v.name) = .ok v := by
  have hfind : variants.find? (·.name = v.name) = some v := by
    obtain ⟨w, hw⟩ : ∃ w, variants.find? (·.name = v.name) = some w :=
      Option.isSome_iff_exists.1 (List.find?_isSome.2 ⟨v, hv, by simp⟩)
    have hname : w.name = v.name := by simpa using List.find?_some hw
    rw [hw, List.inj_on_of_nodup_map hnames (List.mem_of_find?_eq_some hw) hv hname]
  rw [readTag, hfind]

/-- A value is written by one of the variants, behind the variant's name. -/
theorem exists_members_eq {x : σ} (hx : (variants.any fun v => (v.members? x).isSome) = true) :
    ∃ v ∈ variants, ∃ others, v.members? x = some others ∧
      members tag variants x = (tag, .text v.name) :: others := by
  obtain ⟨v, hv, hsome⟩ := List.any_eq_true.1 hx
  obtain ⟨written, hwritten⟩ : ∃ written, variants.findSome? (fun v =>
      (v.members? x).map ((tag, Datum.text v.name) :: ·)) = some written := by
    rw [← Option.isSome_iff_exists, List.findSome?_isSome_iff]
    exact ⟨v, hv, by simpa using hsome⟩
  obtain ⟨w, hw, hwrites⟩ := List.exists_of_findSome?_eq_some hwritten
  obtain ⟨others, hothers, rfl⟩ := Option.map_eq_some_iff.1 hwrites
  exact ⟨w, hw, others, hothers, by rw [members, hwritten]; rfl⟩

end Tagged

/-- A union whose variants have distinct names, and each of whose values is of some variant. -/
theorem tagged_roundTrips {tag : String} {variants : List (Variant σ)}
    (hnames : (variants.map Variant.name).Nodup)
    (h : ∀ v ∈ variants, v.RoundTrips tag depth)
    (hcover : ∀ x, (variants.any fun v => (v.members? x).isSome) = true) :
    (tagged tag variants).RoundTrips (depth + 1) where
  lawful d x := by
    obtain ⟨v, hv, others, hothers, hwritten⟩ := Tagged.exists_members_eq (hcover x)
    have hwhole : ∀ m ∈ others, m.2.isWhole = true := fun m hm =>
      ((h v hv).plain x others hothers m hm).isWhole
    have htag : tag ∉ others.map Prod.fst := fun hmem => by
      obtain ⟨m, hm, he⟩ := List.mem_map.1 hmem
      exact (h v hv).key_ne_tag x others hothers m hm he
    show Tagged.read tag variants d (.record (Tagged.members tag variants x)) = .ok x
    rw [hwritten, ← toOption_eq_some_iff, Tagged.toOption_read_of_singleton
      (membersAt_cons_of_notMem htag) (Tagged.readTag_name hnames hv),
      membersBeside_cons_of_notMem htag, if_pos hwhole, (h v hv).read_members x others hothers]
    rfl
  plain x := by
    obtain ⟨v, hv, others, hothers, hwritten⟩ := Tagged.exists_members_eq (hcover x)
    show (Datum.record (Tagged.members tag variants x)).Plain (depth + 1)
    rw [hwritten]
    refine .record (List.forall_mem_cons.2 ⟨.text _, ?_⟩)
    exact (h v hv).plain x others hothers

end Codec

end VmAdmission
