import VmAdmission.Datum
import Mathlib.Data.List.Nodup
import Mathlib.Data.List.Perm.Basic

/-!
# Members of records

The members of a record with a key and those beside it (`Datum.membersAt`, `Datum.membersBeside`),
whatever their order, and the list of the values that stand behind some keys (`Datum.valuesAt`).
Undamaged data can be passed over (`Datum.isPassable_of_isWhole`).
-/

namespace VmAdmission.Datum

/-! ## Members by key -/

/-- The members of a record with a key. -/
def membersAt (key : String) (members : List (String × Datum)) : List (String × Datum) :=
  members.filter fun m => m.1 = key

/-- The members of a record with other keys. -/
def membersBeside (key : String) (members : List (String × Datum)) : List (String × Datum) :=
  members.filter fun m => m.1 ≠ key

variable {key : String} {keys : List String} {m : String × Datum} {ms ms' : List (String × Datum)}

@[simp] theorem membersAt_nil : membersAt key [] = [] := rfl

@[simp] theorem membersBeside_nil : membersBeside key [] = [] := rfl

theorem membersAt_cons_self (h : m.1 = key) :
    membersAt key (m :: ms) = m :: membersAt key ms :=
  List.filter_cons_of_pos (by simpa using h)

theorem membersAt_cons_of_ne (h : m.1 ≠ key) :
    membersAt key (m :: ms) = membersAt key ms :=
  List.filter_cons_of_neg (by simpa using h)

theorem membersBeside_cons_self (h : m.1 = key) :
    membersBeside key (m :: ms) = membersBeside key ms :=
  List.filter_cons_of_neg (by simpa using h)

theorem membersBeside_cons_of_ne (h : m.1 ≠ key) :
    membersBeside key (m :: ms) = m :: membersBeside key ms :=
  List.filter_cons_of_pos (by simpa using h)

theorem membersAt_append :
    membersAt key (ms ++ ms') = membersAt key ms ++ membersAt key ms' :=
  List.filter_append ms ms'

theorem membersBeside_append :
    membersBeside key (ms ++ ms') = membersBeside key ms ++ membersBeside key ms' :=
  List.filter_append ms ms'

theorem mem_membersAt : m ∈ membersAt key ms ↔ m ∈ ms ∧ m.1 = key := by
  simp [membersAt]

theorem mem_membersBeside : m ∈ membersBeside key ms ↔ m ∈ ms ∧ m.1 ≠ key := by
  simp [membersBeside]

/-! ## Keys of members -/

/-- The values of the members with some keys, in the order of the keys. -/
def valuesAt (keys : List String) (members : List (String × Datum)) : List Datum :=
  keys.filterMap fun key => (members.find? fun m => m.1 = key).map Prod.snd

theorem map_fst_membersAt :
    (membersAt key ms).map Prod.fst = (ms.map Prod.fst).filter (· = key) := by
  rw [membersAt, List.filter_map]
  rfl

theorem map_fst_membersBeside :
    (membersBeside key ms).map Prod.fst = (ms.map Prod.fst).filter (· ≠ key) := by
  rw [membersBeside, List.filter_map]
  rfl

theorem membersAt_eq_nil (h : key ∉ ms.map Prod.fst) : membersAt key ms = [] := by
  refine List.filter_eq_nil_iff.2 fun m hm he => h ?_
  rw [← of_decide_eq_true he]
  exact List.mem_map_of_mem hm

theorem membersBeside_eq_self (h : key ∉ ms.map Prod.fst) : membersBeside key ms = ms := by
  refine List.filter_eq_self.2 fun m hm => decide_eq_true fun he => h ?_
  rw [← he]
  exact List.mem_map_of_mem hm

/-- A member in front of others with other keys is the one with its key. -/
theorem membersAt_cons_of_notMem {x : Datum} (h : key ∉ ms.map Prod.fst) :
    membersAt key ((key, x) :: ms) = [(key, x)] := by
  rw [membersAt_cons_self (m := (key, x)) rfl, membersAt_eq_nil h]

theorem membersBeside_cons_of_notMem {x : Datum} (h : key ∉ ms.map Prod.fst) :
    membersBeside key ((key, x) :: ms) = ms := by
  rw [membersBeside_cons_self (m := (key, x)) rfl, membersBeside_eq_self h]

theorem length_membersAt : (membersAt key ms).length = (ms.map Prod.fst).count key := by
  rw [← List.length_map (f := Prod.fst), map_fst_membersAt, List.count_eq_length_filter]
  congr 1

theorem count_membersBeside {other : String} (h : other ≠ key) :
    ((membersBeside key ms).map Prod.fst).count other = (ms.map Prod.fst).count other := by
  rw [map_fst_membersBeside, List.count_filter (by simpa using h)]

theorem valuesAt_membersBeside (h : key ∉ keys) :
    valuesAt keys (membersBeside key ms) = valuesAt keys ms := by
  refine List.filterMap_congr fun other hother => ?_
  have hne : other ≠ key := fun he => h (he ▸ hother)
  rw [membersBeside, List.find?_filter]
  congr 2
  funext m
  by_cases hm : m.1 = other <;> simp [hm, hne]

/-- Where the keys are some key and others, one member has the former, and those beside it have the
latter. -/
theorem exists_membersAt_of_perm (h : (ms.map Prod.fst).Perm (key :: keys)) (hkey : key ∉ keys) :
    ∃ x, membersAt key ms = [(key, x)] ∧ ((membersBeside key ms).map Prod.fst).Perm keys ∧
      valuesAt (key :: keys) ms = x :: valuesAt keys (membersBeside key ms) := by
  have hat : ((membersAt key ms).map Prod.fst).Perm [key] := by
    rw [map_fst_membersAt]
    refine (h.filter _).trans ?_
    rw [List.filter_cons_of_pos (by simp), List.filter_eq_nil_iff.2]
    intro other hother he
    rw [of_decide_eq_true he] at hother
    exact hkey hother
  have hbeside : ((membersBeside key ms).map Prod.fst).Perm keys := by
    rw [map_fst_membersBeside]
    refine (h.filter _).trans ?_
    rw [List.filter_cons_of_neg (by simp), List.filter_eq_self.2]
    intro other hother
    rw [decide_eq_true_eq]
    rintro rfl
    exact hkey hother
  obtain ⟨⟨key', x⟩, hms, rfl⟩ := List.map_eq_singleton_iff.1 (List.perm_singleton.1 hat)
  refine ⟨x, hms, hbeside, ?_⟩
  have hfound : (ms.find? fun m => m.1 = key') = some (key', x) := by
    rw [← List.head?_filter]
    exact congrArg List.head? hms
  rw [valuesAt_membersBeside hkey, valuesAt, List.filterMap_cons, hfound]
  rfl

/-- The values of all members are there, in another order. -/
theorem valuesAt_perm (h : (ms.map Prod.fst).Perm keys) (hkeys : keys.Nodup) :
    (valuesAt keys ms).Perm (ms.map Prod.snd) := by
  induction keys generalizing ms with
  | nil =>
    rw [List.map_eq_nil_iff.1 h.eq_nil]
    exact .refl _
  | cons key keys ih =>
    obtain ⟨hkey, hkeys⟩ := List.nodup_cons.1 hkeys
    obtain ⟨x, hat, hbeside, hvalues⟩ := exists_membersAt_of_perm h hkey
    have hms : (membersAt key ms ++ membersBeside key ms).Perm ms := by
      unfold membersAt membersBeside
      simpa using List.filter_append_perm (fun m => decide (m.1 = key)) ms
    rw [hvalues]
    refine ((ih hbeside hkeys).cons x).trans ?_
    rw [hat] at hms
    exact hms.map Prod.snd

/-! ## Undamaged data -/

theorem areWhole_eq_all {items : List Datum} : areWhole items = items.all isWhole := by
  induction items with
  | nil => rfl
  | cons item items ih => rw [areWhole, ih, List.all_cons]

theorem areMembersWhole_eq_all {ms : List (String × Datum)} :
    areMembersWhole ms = ms.all fun m => m.2.isWhole := by
  induction ms with
  | nil => rfl
  | cons m ms ih => rw [areMembersWhole, ih, List.all_cons]

theorem arePassable_eq_all {items : List Datum} : arePassable items = items.all isPassable := by
  induction items with
  | nil => rfl
  | cons item items ih => rw [arePassable, ih, List.all_cons]

theorem areMembersPassable_eq_all {ms : List (String × Datum)} :
    areMembersPassable ms = ms.all fun m => m.2.isPassable := by
  induction ms with
  | nil => rfl
  | cons m ms ih => rw [areMembersPassable, ih, List.all_cons]

mutual

theorem isPassable_of_isWhole : ∀ {x : Datum}, x.isWhole = true → x.isPassable = true
  | .null, _ | .bool _, _ | .int _, _ | .decimal _, _ | .text _, _ | .moment, _ => by
    simp [isPassable]
  | .list items, h => by
    rw [isWhole] at h
    rw [isPassable]
    exact arePassable_of_areWhole h
  | .record members, h | .table members, h => by
    rw [isWhole] at h
    rw [isPassable]
    exact areMembersPassable_of_areMembersWhole h

theorem arePassable_of_areWhole : ∀ {xs : List Datum}, areWhole xs = true → arePassable xs = true
  | [], _ => rfl
  | x :: xs, h => by
    rw [areWhole, Bool.and_eq_true] at h
    rw [arePassable, isPassable_of_isWhole h.1, arePassable_of_areWhole h.2]
    rfl

theorem areMembersPassable_of_areMembersWhole :
    ∀ {ms : List (String × Datum)}, areMembersWhole ms = true → areMembersPassable ms = true
  | [], _ => rfl
  | m :: ms, h => by
    rw [areMembersWhole, Bool.and_eq_true] at h
    rw [areMembersPassable, isPassable_of_isWhole h.1, areMembersPassable_of_areMembersWhole h.2]
    rfl

end

end VmAdmission.Datum
