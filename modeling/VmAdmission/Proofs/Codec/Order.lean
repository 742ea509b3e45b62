import VmAdmission.Proofs.Codec.Gather
import VmAdmission.Proofs.Codec.Reordering

/-!
# Codecs that ignore order

A codec that does not look at the order of members (`Codec.IgnoresOrder`) reads the same value from
data that differ in it only, or none from either; the faults may differ, since the first one met is
reported. The property is handed up from the parts to the whole, through the equations that say what
a record holds whatever its order.
-/

namespace VmAdmission

variable {α β σ : Type}

open Datum

/-! ## Readers that ignore order -/

/-- Data that differ in the order of members only have the same value, or none. -/
def ReadsInAnyOrder {ε : Type} (read : Datum → Except ε α) : Prop :=
  ∀ x y, Datum.Reorders x y → (read x).toOption = (read y).toOption

/-- What may stand behind a plain variant's name does not depend on the order of members. -/
def Dialect.IgnoresOrder (d : Dialect) : Prop :=
  ∀ x y, Datum.Reorders x y → d.isVariantPayload x = d.isVariantPayload y

/-- The codec reads in any order, in every dialect that ignores order itself. -/
def Codec.IgnoresOrder (c : Codec α) : Prop :=
  ∀ d : Dialect, d.IgnoresOrder → ReadsInAnyOrder (c.read d)

namespace Dialect

theorem json_ignoresOrder : json.IgnoresOrder := by
  intro x y h
  refine h.congr ?_ ?_ ?_ <;> intros <;> rfl

/-- Only an empty record may stand for nothing, and it has no other order. -/
theorem deferred_ignoresOrder : deferred.IgnoresOrder := by
  intro x y h
  refine h.congr (fun ms ms' h => ?_) (fun ms ms' h => ?_) (fun _ _ _ => rfl)
  · cases ms with
    | nil => rw [h.nil_eq]
    | cons m ms =>
      cases ms' with
      | nil => exact absurd h.symm.nil_eq (by simp)
      | cons m' ms' => rfl
  · cases h <;> rfl

end Dialect

namespace Codec

variable {c : Codec α} {d : Dialect}

/-! ## Scalars, options and lists -/

/-- Whatever takes neither records nor lists does not see their order. -/
theorem ignoresOrder_of_scalar (hrecord : ∀ d ms, (c.read d (.record ms)).toOption = none)
    (hlist : ∀ d xs, (c.read d (.list xs)).toOption = none) : c.IgnoresOrder := by
  intro d _ x y h
  refine h.congr (f := fun x => (c.read d x).toOption) (fun ms ms' _ => ?_) (fun ms ms' _ => ?_)
    fun xs ys _ => ?_
  · rw [hrecord, hrecord]
  · rw [hrecord, hrecord]
  · rw [hlist, hlist]

theorem bool_ignoresOrder : bool.IgnoresOrder :=
  ignoresOrder_of_scalar (fun _ _ => rfl) fun _ _ => rfl

theorem text_ignoresOrder : text.IgnoresOrder :=
  ignoresOrder_of_scalar (fun _ _ => rfl) fun _ _ => rfl

theorem uint32_ignoresOrder : uint32.IgnoresOrder :=
  ignoresOrder_of_scalar (fun _ _ => rfl) fun _ _ => rfl

theorem uint64_ignoresOrder : uint64.IgnoresOrder :=
  ignoresOrder_of_scalar (fun _ _ => rfl) fun _ _ => rfl

theorem uuid_ignoresOrder : uuid.IgnoresOrder :=
  ignoresOrder_of_scalar (fun _ _ => rfl) fun _ _ => rfl

theorem version_ignoresOrder : version.IgnoresOrder :=
  ignoresOrder_of_scalar (fun _ _ => rfl) fun _ _ => rfl

theorem option_ignoresOrder (h : c.IgnoresOrder) : c.option.IgnoresOrder := by
  intro d hd x y hxy
  -- records and lists are no null, so they are handed on
  have hrecord (ms : List (String × Datum)) :
      (c.option.read d (.record ms)).toOption = (c.read d (.record ms)).toOption.map some :=
    toOption_map _ _
  have hlist (xs : List Datum) :
      (c.option.read d (.list xs)).toOption = (c.read d (.list xs)).toOption.map some :=
    toOption_map _ _
  refine hxy.congr (f := fun x => (c.option.read d x).toOption) (fun ms ms' hp => ?_)
    (fun ms ms' hv => ?_) fun xs ys hi => ?_
  · rw [hrecord, hrecord, h d hd _ _ (.members hp)]
  · rw [hrecord, hrecord, h d hd _ _ (.values hv)]
  · rw [hlist, hlist, h d hd _ _ (.items hi)]

theorem list_ignoresOrder (h : c.IgnoresOrder) : c.list.IgnoresOrder := by
  intro d hd x y hxy
  have hitems (xs ys : List Datum) (hi : ItemsReorder xs ys) :
      (xs.mapM (c.read d)).toOption = (ys.mapM (c.read d)).toOption := by
    induction hi with
    | nil => rfl
    | cons hxy _ ih =>
      rw [List.mapM_cons, List.mapM_cons, toOption_bind, toOption_bind, h d hd _ _ hxy]
      simp only [toOption_bind, ih]
  exact hxy.congr (f := fun x => (c.list.read d x).toOption) (fun _ _ _ => rfl) (fun _ _ _ => rfl)
    hitems

/-! ## Plain enumerations -/

/-- A record names a variant only if it has one member. -/
theorem toOption_ofMembers_of_length {values : List α} {name : α → String}
    {ms : List (String × Datum)} (h : ms.length ≠ 1) :
    (readVariant.ofMembers values name d ms true).toOption = none := by
  rcases ms with _ | ⟨⟨key, payload⟩, _ | ⟨m, others⟩⟩
  · rfl
  · exact absurd rfl h
  · simp only [readVariant.ofMembers, List.isEmpty_cons, Bool.false_and, Bool.and_false]
    split
    · rfl
    · cases readVariant.find values name key <;> rfl

theorem enumeration_ignoresOrder {values : List α} {name : α → String} :
    (enumeration values name).IgnoresOrder := by
  intro d hd x y hxy
  refine hxy.congr (f := fun x => ((enumeration values name).read d x).toOption)
    (fun ms ms' hp => ?_) (fun ms ms' hv => ?_) fun _ _ _ => rfl
  · show (readVariant.ofMembers values name d ms true).toOption =
      (readVariant.ofMembers values name d ms' true).toOption
    by_cases hone : ms.length = 1
    · obtain ⟨m, rfl⟩ := List.length_eq_one_iff.1 hone
      rw [List.perm_singleton.1 hp.symm]
    · rw [toOption_ofMembers_of_length hone,
        toOption_ofMembers_of_length fun h => hone (hp.length_eq.trans h)]
  · show (readVariant.ofMembers values name d ms true).toOption =
      (readVariant.ofMembers values name d ms' true).toOption
    cases hv with
    | nil => rfl
    | @cons m m' ms ms' hm hrest =>
      obtain ⟨key, payload⟩ := m
      obtain ⟨key', payload'⟩ := m'
      obtain ⟨rfl, hpayload⟩ := hm
      cases hrest with
      | nil => simp only [readVariant.ofMembers, hd payload payload' hpayload]
      | cons _ _ =>
        rw [toOption_ofMembers_of_length (by simp), toOption_ofMembers_of_length (by simp)]

/-! ## Records -/

section Settle

variable {read : Datum → Option α} {ms ms' : List (String × Datum)}

theorem settle_perm (h : ms.Perm ms') : settle read none ms = settle read none ms' := by
  rcases ms with _ | ⟨m, _ | ⟨m', ms⟩⟩
  · rw [h.nil_eq]
  · rw [List.perm_singleton.1 h.symm]
  · rcases ms' with _ | ⟨n, _ | ⟨n', ms'⟩⟩
    · exact absurd h.length_eq (by simp)
    · exact absurd h.length_eq (by simp)
    · rw [settle_cons_cons, settle_cons_cons]

theorem settle_reorder (hread : ∀ x y, Datum.Reorders x y → read x = read y)
    (h : MembersReorder ms ms') : settle read none ms = settle read none ms' := by
  cases h with
  | nil => rfl
  | cons hm hrest =>
    cases hrest with
    | nil => rw [settle_singleton, settle_singleton, hread _ _ hm.2]
    | cons _ _ => rw [settle_cons_cons, settle_cons_cons]

/-- What is read into a place was read from one of the members. -/
theorem exists_of_settle {x : α} (h : settle read none ms = some (some x)) :
    ∃ m ∈ ms, read m.2 = some x := by
  rcases ms with _ | ⟨m, _ | ⟨m', ms⟩⟩
  · simp at h
  · exact ⟨m, List.mem_cons_self, by simpa using h⟩
  · simp at h

end Settle

/-- Each field's codec ignores order. -/
def Fields.IgnoreOrder : {αs : List Type} → Fields σ αs → Prop
  | _, .nil => True
  | _, .cons field rest => field.codec.IgnoresOrder ∧ rest.IgnoreOrder

namespace Fields

variable {αs : List Type} {fields : Fields σ αs} {strict : Bool} {ms ms' : List (String × Datum)}

theorem gather_perm (h : ms.Perm ms') : fields.gather strict d ms = fields.gather strict d ms' := by
  induction fields generalizing ms ms' with
  | nil =>
    have hleave : mayLeave strict ms = mayLeave strict ms' := by
      rw [mayLeave, mayLeave, h.isEmpty_eq, h.all_eq]
    rw [gather, gather, hleave]
  | cons field rest ih =>
    rw [gather, gather, Field.gather, Field.gather, settle_perm (membersAt_perm h),
      ih (membersBeside_perm h)]

theorem gather_reorder (hfields : fields.IgnoreOrder) (hd : d.IgnoresOrder)
    (h : MembersReorder ms ms') : fields.gather strict d ms = fields.gather strict d ms' := by
  induction fields generalizing ms ms' with
  | nil =>
    have hleave : mayLeave strict ms = mayLeave strict ms' := by
      unfold mayLeave
      induction h with
      | nil => rfl
      | cons hm _ ih => cases strict <;> simp_all [hm.2.isPassable_eq]
    rw [gather, gather, hleave]
  | cons field rest ih =>
    rw [gather, gather, Field.gather, Field.gather,
      settle_reorder (fun x y => hfields.1 d hd x y) (membersAt_reorder h),
      ih hfields.2 (membersBeside_reorder h)]

/-- From a list, the values are read one by one, and as many items are left over. -/
theorem readItems_reorder (hfields : fields.IgnoreOrder) (hd : d.IgnoresOrder) {xs ys : List Datum}
    (h : ItemsReorder xs ys) :
    ((fields.readItems d xs).toOption.map fun r => (r.1, r.2.isEmpty)) =
      (fields.readItems d ys).toOption.map fun r => (r.1, r.2.isEmpty) := by
  induction fields generalizing xs ys with
  | nil => cases h <;> rfl
  | cons field rest ih =>
    cases h with
    | nil => rfl
    | @cons x y xs ys hxy hrest =>
      rw [toOption_readItems_cons, toOption_readItems_cons, hfields.1 d hd x y hxy,
        Option.map_bind, Option.map_bind]
      congr 1
      funext a
      simpa [Function.comp_def] using
        congrArg (Option.map fun r => (Values.cons a r.1, r.2)) (ih hfields.2 hrest)

theorem readsInAnyOrder (hfields : fields.IgnoreOrder) (hd : d.IgnoresOrder) :
    ReadsInAnyOrder (fields.read strict d) := by
  intro x y hxy
  refine hxy.congr (f := fun x => (fields.read strict d x).toOption) (fun ms ms' hp => ?_)
    (fun ms ms' hv => ?_) fun xs ys hi => ?_
  · rw [toOption_read_record, toOption_read_record, gather_perm hp]
  · rw [toOption_read_record, toOption_read_record, gather_reorder hfields hd hv]
  · have hvalues (xs : List Datum) : (fields.read strict d (.list xs)).toOption =
        ((fields.readItems d xs).toOption.map fun r => (r.1, r.2.isEmpty)).bind fun r =>
          if r.2 || d.admitsSurplusItems then some r.1 else none := by
      rw [toOption_read_list, Option.bind_map]
      rfl
    rw [hvalues, hvalues, readItems_reorder hfields hd hi]

end Fields

theorem record_ignoresOrder {αs : List Type} {fields : Fields σ αs} {strict : Bool}
    {build : Values αs → σ} (h : fields.IgnoreOrder) :
    (record strict fields build).IgnoresOrder := by
  intro d hd x y hxy
  simp only [record, toOption_map, Fields.readsInAnyOrder h hd x y hxy]

/-! ## Tagged unions -/

theorem Variant.record_readsInAnyOrder {π : Type} {αs : List Type} {name : String} {strict : Bool}
    {fields : Fields π αs} {build : Values αs → σ} {project? : σ → Option π}
    (h : fields.IgnoreOrder) :
    ReadsInAnyOrder (Variant.record name strict fields build project?).read := by
  intro x y hxy
  simp only [record, toOption_map,
    Fields.readsInAnyOrder h Dialect.deferred_ignoresOrder x y hxy]

namespace Tagged

variable {tag : String} {variants : List (Variant σ)}

theorem readTag_readsInAnyOrder : ReadsInAnyOrder (readTag variants d) := by
  intro x y hxy
  exact hxy.congr (f := fun x => (readTag variants d x).toOption) (fun _ _ _ => rfl)
    (fun _ _ _ => rfl) fun _ _ _ => rfl

theorem mem_of_readTag {x : Datum} {v : Variant σ} (h : readTag variants d x = .ok v) :
    v ∈ variants := by
  cases x with
  | text name =>
    simp only [readTag] at h
    cases hfound : variants.find? (·.name = name) with
    | none =>
      rw [hfound] at h
      cases h
    | some w =>
      rw [hfound] at h
      cases h
      exact List.mem_of_find?_eq_some hfound
  | int i =>
    cases i with
    | ofNat n =>
      simp only [readTag] at h
      cases hfound : variants[n]? with
      | none =>
        rw [hfound] at h
        cases h
      | some w =>
        rw [hfound] at h
        simp only at h
        split at h
        · cases h
          exact List.mem_of_getElem? hfound
        · cases h
    | negSucc n => cases h
  | _ => cases h

/-- What the tag names is one of the variants. -/
theorem mem_of_settle {ms : List (String × Datum)} {v : Variant σ}
    (h : settle (fun x => (readTag variants d x).toOption) none ms = some (some v)) :
    v ∈ variants := by
  obtain ⟨m, -, hm⟩ := exists_of_settle h
  exact mem_of_readTag (toOption_eq_some_iff.1 hm)

/-- The same members beside the same tag are read the same by each of the variants. -/
theorem read_record_congr {ms ms' : List (String × Datum)}
    (htag : settle (fun x => (readTag variants d x).toOption) none (membersAt tag ms) =
      settle (fun x => (readTag variants d x).toOption) none (membersAt tag ms'))
    (hwhole : (∀ m ∈ membersBeside tag ms, m.2.isWhole = true) ↔
      ∀ m ∈ membersBeside tag ms', m.2.isWhole = true)
    (hread : ∀ v ∈ variants, (v.read (.record (membersBeside tag ms))).toOption =
      (v.read (.record (membersBeside tag ms'))).toOption) :
    (read tag variants d (.record ms)).toOption = (read tag variants d (.record ms')).toOption := by
  rw [toOption_read_record, toOption_read_record, htag]
  simp only [hwhole]
  cases hfound : settle (fun x => (readTag variants d x).toOption) none (membersAt tag ms') with
  | none => rfl
  | some found =>
    cases found with
    | none => rfl
    | some v => simp only [Option.bind_some, hread v (mem_of_settle hfound)]

end Tagged

theorem tagged_ignoresOrder {tag : String} {variants : List (Variant σ)}
    (h : ∀ v ∈ variants, ReadsInAnyOrder v.read) : (tagged tag variants).IgnoresOrder := by
  intro d hd x y hxy
  refine hxy.congr (f := fun x => (Tagged.read tag variants d x).toOption) (fun ms ms' hp => ?_)
    (fun ms ms' hv => ?_) fun xs ys hi => ?_
  · refine Tagged.read_record_congr (settle_perm (membersAt_perm hp)) ?_ fun v hv => ?_
    · simp only [(membersBeside_perm hp).mem_iff]
    · exact h v hv _ _ (.members (membersBeside_perm hp))
  · refine Tagged.read_record_congr ?_ ?_ fun v hv' => ?_
    · exact settle_reorder Tagged.readTag_readsInAnyOrder (membersAt_reorder hv)
    · exact forall_isWhole_reorder (membersBeside_reorder hv)
    · exact h v hv' _ _ (.values (membersBeside_reorder hv))
  · cases hi with
    | nil => rfl
    | @cons x y xs ys hxy hrest =>
      show (Tagged.read tag variants d (.list (x :: xs))).toOption =
        (Tagged.read tag variants d (.list (y :: ys))).toOption
      rw [Tagged.toOption_read_list_cons, Tagged.toOption_read_list_cons,
        Tagged.readTag_readsInAnyOrder x y hxy, areWhole_reorder hrest]
      cases htag : (Tagged.readTag variants d y).toOption with
      | none => rfl
      | some v =>
        have hv : v ∈ variants := Tagged.mem_of_readTag (toOption_eq_some_iff.1 htag)
        simp only [Option.bind_some, h v hv _ _ (.items hrest)]

end Codec

end VmAdmission
