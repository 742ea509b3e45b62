import VmAdmission.Proofs.Codec.Order

/-!
# The two forms of a record

A record may be given by its members or as the list of its fields' values. `Shape` says what such a
record may hold, and `Shape.Governs` what that means for a reader: the two forms agree, a missing or
repeated field is a fault, and an unknown one is a fault or is ignored. Records are governed by
their fields (`Fields.governs`). A tagged union is governed by the variant that its tag names, whose
fields stand behind the tag (`tagged_governs`).
-/

namespace VmAdmission

variable {α β σ : Type}

open Datum

/-! ## Shapes -/

/-- What a record may hold: the keys of its fields in declaration order, those of them that must be
there, and whether other keys are refused. -/
structure Shape where
  keys : List String
  required : List String
  strict : Bool
deriving DecidableEq

namespace Shape

/-- A reader takes records by their shape, as far as they are about something. -/
structure Governs (s : Shape) (about : List (String × Datum) → Prop)
    (read : Datum → Except DecodeError α) : Prop where
  /-- The list of the first fields' values is the same as the record with these members, in any
  order. -/
  listed : ∀ n ms, about ms → (ms.map Prod.fst).Perm (s.keys.take n) →
    (read (.list (valuesAt (s.keys.take n) ms))).toOption = (read (.record ms)).toOption
  missing : ∀ key ∈ s.required, ∀ ms, about ms → key ∉ ms.map Prod.fst →
    (read (.record ms)).toOption = none
  repeated : ∀ key ∈ s.keys, ∀ ms, about ms → 1 < (ms.map Prod.fst).count key →
    (read (.record ms)).toOption = none
  unknown : s.strict = true → ∀ ms, about ms → ∀ m ∈ ms, m.1 ∉ s.keys →
    (read (.record ms)).toOption = none
  /-- Where other keys are not refused, what stands behind them does not matter. -/
  ignored : s.strict = false → ∀ before m after, about (before ++ m :: after) → m.1 ∉ s.keys →
    m.2.isWhole = true →
    (read (.record (before ++ m :: after))).toOption = (read (.record (before ++ after))).toOption

/-- What is made of a value afterwards does not matter. -/
theorem Governs.map {s : Shape} {about : List (String × Datum) → Prop}
    {read : Datum → Except DecodeError α} (h : s.Governs about read) (f : α → β) :
    s.Governs about fun x => (read x).map f where
  listed n ms ha hkeys := by rw [toOption_map, toOption_map, h.listed n ms ha hkeys]
  missing key hkey ms ha hms := by rw [toOption_map, h.missing key hkey ms ha hms, Option.map_none]
  repeated key hkey ms ha hms := by
    rw [toOption_map, h.repeated key hkey ms ha hms, Option.map_none]
  unknown hstrict ms ha m hm hkey := by
    rw [toOption_map, h.unknown hstrict ms ha m hm hkey, Option.map_none]
  ignored hlax before m after ha hkey hwhole := by
    rw [toOption_map, toOption_map, h.ignored hlax before m after ha hkey hwhole]

/-- The shape with a tag in front. -/
def tagged (tag : String) (s : Shape) : Shape where
  keys := tag :: s.keys
  required := tag :: s.required
  strict := s.strict

end Shape

namespace Codec

/-! ## Records -/

namespace Fields

/-- The keys of the fields that must be there, in declaration order. -/
def requiredKeys : {αs : List Type} → Fields σ αs → List String
  | _, .nil => []
  | _, .cons field rest =>
    if field.absent.isNone then field.key :: rest.requiredKeys else rest.requiredKeys

/-- The shape of a record with these fields. -/
def shape {αs : List Type} (fields : Fields σ αs) (strict : Bool) : Shape where
  keys := fields.keys
  required := fields.requiredKeys
  strict

/-- A field that a list leaves off has the value of one whose key is absent. -/
def SameDefaults : {αs : List Type} → Fields σ αs → Prop
  | _, .nil => True
  | _, .cons field rest => field.beyond = field.absent ∧ rest.SameDefaults

variable {αs : List Type} {fields : Fields σ αs} {strict : Bool} {d : Dialect}
  {ms : List (String × Datum)} {key : String}

/-- The list of the first fields' values is read like the record with these members, and nothing is
left over. -/
theorem toOption_readItems_valuesAt (strict : Bool) (d : Dialect) (hnodup : fields.keys.Nodup)
    (hdefaults : fields.SameDefaults) {n : Nat} (hkeys : (ms.map Prod.fst).Perm (fields.keys.take n)) :
    (fields.readItems d (valuesAt (fields.keys.take n) ms)).toOption =
      (fields.gather strict d ms).map fun xs => (xs, []) := by
  induction fields generalizing n ms with
  | nil =>
    rw [keys, List.take_nil] at hkeys ⊢
    rw [List.map_eq_nil_iff.1 hkeys.eq_nil, gather]
    cases strict <;> rfl
  | @cons α αs field rest ih =>
    obtain ⟨hkey, hnodup⟩ := List.nodup_cons.1 hnodup
    have hout (x? : Option α) (xs? : Option (Values αs)) :
        (x?.bind fun x => (xs?.map fun xs => (xs, ([] : List Datum))).map
          fun r => (Values.cons x r.1, r.2)) =
          (x?.bind fun x => xs?.map (.cons x)).map fun xs => (xs, []) := by
      cases x? <;> cases xs? <;> rfl
    rw [gather, ← hout]
    cases n with
    | zero =>
      rw [List.take_zero] at hkeys ⊢
      have hnone : (([] : List (String × Datum)).map Prod.fst).Perm (rest.keys.take 0) := .refl _
      have hrest := ih hnodup hdefaults.2 hnone
      have habsent : field.gather d [] = field.beyond := hdefaults.1.symm
      rw [List.map_eq_nil_iff.1 hkeys.eq_nil, habsent, membersBeside_nil, ← hrest]
      exact toOption_readItems_cons_nil
    | succ n =>
      rw [keys, List.take_succ_cons] at hkeys ⊢
      obtain ⟨x, hat, hbeside, hvalues⟩ :=
        exists_membersAt_of_perm hkeys fun hmem => hkey (List.mem_of_mem_take hmem)
      have hfield : field.gather d ms = (field.codec.read d x).toOption := by
        rw [Field.gather, hat, settle_singleton]
        cases (field.codec.read d x).toOption <;> rfl
      rw [hvalues, toOption_readItems_cons, hfield, ih hnodup hdefaults.2 hbeside]

theorem gather_of_missing (hkey : key ∈ fields.requiredKeys) (hms : key ∉ ms.map Prod.fst) :
    fields.gather strict d ms = none := by
  induction fields generalizing ms with
  | nil => cases hkey
  | cons field rest ih =>
    rw [gather]
    by_cases hfield : field.absent = none ∧ key = field.key
    · obtain ⟨habsent, rfl⟩ := hfield
      have hnone : field.gather d ms = none := by
        rw [Field.gather, membersAt_eq_nil hms, settle_nil]
        exact habsent
      rw [hnone, Option.bind_none]
    · have hrest : key ∈ rest.requiredKeys := by
        rw [requiredKeys] at hkey
        split at hkey
        · rename_i habsent
          exact (List.mem_cons.1 hkey).resolve_left fun he =>
            hfield ⟨Option.isNone_iff_eq_none.1 habsent, he⟩
        · exact hkey
      have hbeside : key ∉ (membersBeside field.key ms).map Prod.fst := by
        rw [map_fst_membersBeside]
        exact fun hmem => hms (List.mem_of_mem_filter hmem)
      rw [ih hrest hbeside]
      exact Option.bind_fun_none _

/-- A second member with a field's key is never taken. -/
theorem gather_of_repeated (hkey : key ∈ fields.keys) (hms : 1 < (ms.map Prod.fst).count key) :
    fields.gather strict d ms = none := by
  induction fields generalizing ms with
  | nil => cases hkey
  | cons field rest ih =>
    rw [gather]
    by_cases hfield : key = field.key
    · have hnone : field.gather d ms = none := by
        rw [hfield, ← length_membersAt] at hms
        rw [Field.gather, settle_of_one_lt_length hms]
        rfl
      rw [hnone, Option.bind_none]
    · have hrest : key ∈ rest.keys := (List.mem_cons.1 hkey).resolve_left hfield
      rw [ih hrest (by rwa [count_membersBeside hfield])]
      exact Option.bind_fun_none _

theorem gather_of_unknown {m : String × Datum} (hm : m ∈ ms) (hkey : m.1 ∉ fields.keys) :
    fields.gather true d ms = none := by
  induction fields generalizing ms with
  | nil =>
    have hleave : mayLeave true ms = false := by
      simpa [mayLeave] using List.ne_nil_of_mem hm
    rw [gather, hleave]
    rfl
  | cons field rest ih =>
    obtain ⟨hfield, hrest⟩ := not_or.1 fun h => hkey (List.mem_cons.2 h)
    rw [gather, ih (mem_membersBeside.2 ⟨hm, hfield⟩) hrest]
    exact Option.bind_fun_none _

theorem gather_cons_of_ignored {m : String × Datum} (hkey : m.1 ∉ fields.keys)
    (hpassable : m.2.isPassable = true) :
    fields.gather false d (m :: ms) = fields.gather false d ms := by
  induction fields generalizing ms with
  | nil =>
    have hleave : mayLeave false (m :: ms) = mayLeave false ms := by simp [mayLeave, hpassable]
    rw [gather, gather, hleave]
  | cons field rest ih =>
    obtain ⟨hfield, hrest⟩ := not_or.1 fun h => hkey (List.mem_cons.2 h)
    rw [gather, gather, Field.gather, Field.gather, membersAt_cons_of_ne hfield,
      membersBeside_cons_of_ne hfield, ih hrest]

/-- Records are taken by the shape of their fields. -/
theorem governs (hnodup : fields.keys.Nodup) (hdefaults : fields.SameDefaults) :
    (fields.shape strict).Governs (fun _ => True) (fields.read strict d) where
  listed n ms _ hkeys := by
    rw [toOption_read_record, toOption_read_list]
    have hitems := toOption_readItems_valuesAt strict d hnodup hdefaults hkeys
    rw [shape, hitems, Option.bind_map]
    exact Option.bind_fun_some _
  missing key hkey ms _ hms := by rw [toOption_read_record, gather_of_missing hkey hms]
  repeated key hkey ms _ hms := by rw [toOption_read_record, gather_of_repeated hkey hms]
  unknown hstrict ms _ m hm hkey := by
    cases hstrict
    rw [toOption_read_record, gather_of_unknown hm hkey]
  ignored hlax before m after _ hkey hwhole := by
    cases hlax
    rw [toOption_read_record, toOption_read_record, gather_perm List.perm_middle,
      gather_cons_of_ignored hkey (isPassable_of_isWhole hwhole)]

end Fields

theorem record_governs {αs : List Type} {fields : Fields σ αs} {strict : Bool}
    {build : Values αs → σ} (hnodup : fields.keys.Nodup) (hdefaults : fields.SameDefaults)
    (d : Dialect) :
    (fields.shape strict).Governs (fun _ => True) ((record strict fields build).read d) :=
  (Fields.governs hnodup hdefaults).map build

/-! ## Tagged unions -/

theorem Variant.record_governs {π : Type} {αs : List Type} {name : String} {strict : Bool}
    {fields : Fields π αs} {build : Values αs → σ} {project? : σ → Option π}
    (hnodup : fields.keys.Nodup) (hdefaults : fields.SameDefaults) :
    (fields.shape strict).Governs (fun _ => True)
      (Variant.record name strict fields build project?).read :=
  (Fields.governs hnodup hdefaults).map build

namespace Tagged

/-- The record has a tag that names the variant. -/
def Names (tag : String) (variants : List (Variant σ)) (d : Dialect) (v : Variant σ)
    (ms : List (String × Datum)) : Prop :=
  ∃ x, (tag, x) ∈ ms ∧ readTag variants d x = .ok v

variable {tag : String} {variants : List (Variant σ)} {d : Dialect} {v : Variant σ}
  {ms : List (String × Datum)}

theorem toOption_read_of_not_names (h : ∀ v, ¬ Names tag variants d v ms) :
    (read tag variants d (.record ms)).toOption = none := by
  rw [toOption_read_record]
  cases hfound : settle (fun x => (readTag variants d x).toOption) none (membersAt tag ms) with
  | none => rfl
  | some found =>
    cases found with
    | none => rfl
    | some v =>
      obtain ⟨⟨key, x⟩, hm, hx⟩ := exists_of_settle hfound
      obtain ⟨hmem, rfl⟩ := mem_membersAt.1 hm
      exact absurd ⟨x, hmem, toOption_eq_some_iff.1 hx⟩ (h v)

/-- A list whose first item names no variant is not read either. -/
theorem toOption_read_list_of_not_names {items : List Datum}
    (h : ∀ x ∈ items.head?, ∀ v, readTag variants d x ≠ .ok v) :
    (read tag variants d (.list items)).toOption = none := by
  cases items with
  | nil => rfl
  | cons x items =>
    rw [toOption_read_list_cons]
    cases hx : (readTag variants d x).toOption with
    | none => rfl
    | some v => exact absurd (toOption_eq_some_iff.1 hx) (h x rfl v)

/-- With two tags, nothing is read. -/
theorem toOption_read_of_repeated (h : 1 < (ms.map Prod.fst).count tag) :
    (read tag variants d (.record ms)).toOption = none := by
  rw [← length_membersAt] at h
  rw [toOption_read_record, settle_of_one_lt_length h]
  rfl

/-- A record with a tag has either two, or only the one that names its variant. -/
theorem Names.repeated_or_singleton (h : Names tag variants d v ms) :
    1 < (ms.map Prod.fst).count tag ∨
      ∃ x, membersAt tag ms = [(tag, x)] ∧ readTag variants d x = .ok v := by
  obtain ⟨x, hmem, hx⟩ := h
  have hat : (tag, x) ∈ membersAt tag ms := mem_membersAt.2 ⟨hmem, rfl⟩
  rw [← length_membersAt]
  rcases hms : membersAt tag ms with _ | ⟨m, _ | ⟨m', rest⟩⟩
  · rw [hms] at hat
    cases hat
  · rw [hms, List.mem_singleton] at hat
    exact .inr ⟨x, by rw [hat], hx⟩
  · exact .inl (by simp)

/-- What the variant does not read from the other members is not read at all. -/
theorem Names.toOption_read_eq_none (h : Names tag variants d v ms)
    (hread : (v.read (.record (membersBeside tag ms))).toOption = none) :
    (read tag variants d (.record ms)).toOption = none := by
  rcases h.repeated_or_singleton with hrepeated | ⟨x, hat, hx⟩
  · exact toOption_read_of_repeated hrepeated
  · rw [toOption_read_of_singleton hat hx, hread, ite_self]

end Tagged

open Tagged in
/-- A tagged union is taken by the shape of the variant that its tag names, with the tag as the
first of its fields. -/
theorem tagged_governs {tag : String} {variants : List (Variant σ)} {v : Variant σ} {s : Shape}
    (h : s.Governs (fun _ => True) v.read) (hnodup : (tag :: s.keys).Nodup) (d : Dialect) :
    (s.tagged tag).Governs (Tagged.Names tag variants d v) ((tagged tag variants).read d) where
  listed n ms ha hkeys := by
    obtain ⟨htag, hnodup⟩ := List.nodup_cons.1 hnodup
    cases n with
    | zero =>
      obtain ⟨x, hmem, -⟩ := ha
      rw [List.take_zero] at hkeys
      rw [List.map_eq_nil_iff.1 hkeys.eq_nil] at hmem
      cases hmem
    | succ n =>
      show _ = (Tagged.read tag variants d (.record ms)).toOption
      change (ms.map Prod.fst).Perm (tag :: s.keys.take n) at hkeys
      obtain ⟨x, hat, hbeside, hvalues⟩ :=
        exists_membersAt_of_perm hkeys fun hmem => htag (List.mem_of_mem_take hmem)
      have hx : readTag variants d x = .ok v := by
        obtain ⟨y, hmem, hy⟩ := ha
        have hy' : (tag, y) ∈ membersAt tag ms := mem_membersAt.2 ⟨hmem, rfl⟩
        rw [hat, List.mem_singleton] at hy'
        cases hy'
        exact hy
      have hwhole : areWhole (valuesAt (s.keys.take n) (membersBeside tag ms)) = true ↔
          ∀ m ∈ membersBeside tag ms, m.2.isWhole = true := by
        rw [areWhole_eq_all, (valuesAt_perm hbeside (hnodup.sublist (List.take_sublist n _))).all_eq]
        simp
      rw [toOption_read_of_singleton hat hx]
      show (Tagged.read tag variants d (.list (valuesAt (tag :: s.keys.take n) ms))).toOption = _
      rw [hvalues, toOption_read_list_cons, hx, toOption_ok, Option.bind_some,
        h.listed n _ trivial hbeside]
      simp only [hwhole]
  missing key hkey ms ha hms := by
    rcases List.mem_cons.1 hkey with rfl | hkey
    · obtain ⟨x, hmem, -⟩ := ha
      exact absurd (List.mem_map_of_mem hmem) hms
    · refine ha.toOption_read_eq_none (h.missing key hkey _ trivial ?_)
      rw [map_fst_membersBeside]
      exact fun hmem => hms (List.mem_of_mem_filter hmem)
  repeated key hkey ms ha hms := by
    rcases List.mem_cons.1 hkey with rfl | hmem
    · exact toOption_read_of_repeated hms
    · have hne : key ≠ tag := by
        rintro rfl
        exact (List.nodup_cons.1 hnodup).1 hmem
      refine ha.toOption_read_eq_none (h.repeated key hmem _ trivial ?_)
      rwa [count_membersBeside hne]
  unknown hstrict ms ha m hm hkey := by
    obtain ⟨hne, hkey⟩ := not_or.1 fun h => hkey (List.mem_cons.2 h)
    exact ha.toOption_read_eq_none
      (h.unknown hstrict _ trivial m (mem_membersBeside.2 ⟨hm, hne⟩) hkey)
  ignored hlax before m after ha hkey hwhole := by
    obtain ⟨hne, hkey⟩ := not_or.1 fun h => hkey (List.mem_cons.2 h)
    have hat : membersAt tag (before ++ m :: after) = membersAt tag (before ++ after) := by
      rw [membersAt_append, membersAt_append, membersAt_cons_of_ne hne]
    have hbeside : membersBeside tag (before ++ m :: after) =
        membersBeside tag before ++ m :: membersBeside tag after := by
      rw [membersBeside_append, membersBeside_cons_of_ne hne]
    show (Tagged.read tag variants d (.record (before ++ m :: after))).toOption =
      (Tagged.read tag variants d (.record (before ++ after))).toOption
    rcases ha.repeated_or_singleton with hrepeated | ⟨x, hone, hx⟩
    · rw [toOption_read_of_repeated hrepeated, toOption_read_of_repeated]
      rwa [← length_membersAt, ← hat, length_membersAt]
    · rw [toOption_read_of_singleton hone hx, toOption_read_of_singleton (hat ▸ hone) hx, hbeside,
        h.ignored hlax _ m _ trivial hkey hwhole, membersBeside_append]
      simp only [List.forall_mem_append, List.forall_mem_cons, hwhole, true_and]

end Codec

end VmAdmission
