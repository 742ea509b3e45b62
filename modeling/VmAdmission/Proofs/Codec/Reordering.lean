import VmAdmission.Proofs.Codec.Members
import Mathlib.Data.List.Forall2

/-!
# Data in another order

The members of a record may stand in any order, at any depth (`Datum.Reorders`). Whatever does not
see a permutation of members, nor an exchange of the values or items one by one, does not see any
such difference (`Datum.Reorders.congr`).
-/

namespace VmAdmission.Datum

variable {β : Type}

/-! ## Reordering -/

/-- The data differ in the order of members only, anywhere within them. -/
inductive Reorders : Datum → Datum → Prop
  | refl (x : Datum) : Reorders x x
  | trans {x y z : Datum} (h : Reorders x y) (h' : Reorders y z) : Reorders x z
  | members {ms ms' : List (String × Datum)} (h : ms.Perm ms') : Reorders (.record ms) (.record ms')
  | member {key : String} {x y : Datum} {before after : List (String × Datum)}
    (h : Reorders x y) :
    Reorders (.record (before ++ (key, x) :: after)) (.record (before ++ (key, y) :: after))
  | item {x y : Datum} {before after : List Datum} (h : Reorders x y) :
    Reorders (.list (before ++ x :: after)) (.list (before ++ y :: after))

/-- Items that differ in the order of members only, one by one. -/
abbrev ItemsReorder : List Datum → List Datum → Prop := List.Forall₂ Reorders

/-- Members with the same keys, one by one, whose values differ in the order of members only. -/
abbrev MembersReorder : List (String × Datum) → List (String × Datum) → Prop :=
  List.Forall₂ fun m m' => m.1 = m'.1 ∧ m.2.Reorders m'.2

theorem itemsReorder_middle {x y : Datum} (h : x.Reorders y) (before after : List Datum) :
    ItemsReorder (before ++ x :: after) (before ++ y :: after) :=
  List.rel_append (List.forall₂_same.2 fun z _ => .refl z)
    (.cons h (List.forall₂_same.2 fun z _ => .refl z))

theorem membersReorder_middle {key : String} {x y : Datum} (h : x.Reorders y)
    (before after : List (String × Datum)) :
    MembersReorder (before ++ (key, x) :: after) (before ++ (key, y) :: after) :=
  List.rel_append (List.forall₂_same.2 fun z _ => ⟨rfl, .refl z.2⟩)
    (.cons ⟨rfl, h⟩ (List.forall₂_same.2 fun z _ => ⟨rfl, .refl z.2⟩))

/-- Items may be exchanged one by one. -/
theorem Reorders.items {xs ys : List Datum} (h : ItemsReorder xs ys) :
    Reorders (.list xs) (.list ys) := by
  suffices ∀ before, Reorders (.list (before ++ xs)) (.list (before ++ ys)) from this []
  induction h with
  | nil => exact fun _ => .refl _
  | @cons x y xs ys hxy _ ih =>
    intro before
    have hrest := ih (before ++ [y])
    rw [List.append_assoc, List.append_assoc] at hrest
    exact (Reorders.item hxy).trans hrest

/-- Values of members may be exchanged one by one. -/
theorem Reorders.values {ms ms' : List (String × Datum)} (h : MembersReorder ms ms') :
    Reorders (.record ms) (.record ms') := by
  suffices ∀ before, Reorders (.record (before ++ ms)) (.record (before ++ ms')) from this []
  induction h with
  | nil => exact fun _ => .refl _
  | @cons m m' ms ms' hm _ ih =>
    obtain ⟨key, x⟩ := m
    obtain ⟨key', y⟩ := m'
    obtain ⟨rfl, hxy⟩ := hm
    intro before
    have hrest := ih (before ++ [(key, y)])
    rw [List.append_assoc, List.append_assoc] at hrest
    exact (Reorders.member hxy).trans hrest

/-- What does not see a permutation of members, nor an exchange of values or items, does not see any
reordering. -/
theorem Reorders.congr {f : Datum → β} {x y : Datum} (h : x.Reorders y)
    (hmembers : ∀ ms ms' : List (String × Datum), ms.Perm ms' → f (.record ms) = f (.record ms'))
    (hvalues : ∀ ms ms', MembersReorder ms ms' → f (.record ms) = f (.record ms'))
    (hitems : ∀ xs ys, ItemsReorder xs ys → f (.list xs) = f (.list ys)) : f x = f y := by
  induction h with
  | refl => rfl
  | trans _ _ ih ih' => exact ih.trans ih'
  | members h => exact hmembers _ _ h
  | member h => exact hvalues _ _ (membersReorder_middle h _ _)
  | item h => exact hitems _ _ (itemsReorder_middle h _ _)

/-! ## What does not depend on the order -/

theorem Reorders.isWhole_eq {x y : Datum} (h : x.Reorders y) : x.isWhole = y.isWhole := by
  induction h with
  | refl => rfl
  | trans _ _ ih ih' => exact ih.trans ih'
  | members h => rw [isWhole, isWhole, areMembersWhole_eq_all, areMembersWhole_eq_all, h.all_eq]
  | member _ ih => simp [isWhole, areMembersWhole_eq_all, ih]
  | item _ ih => simp [isWhole, areWhole_eq_all, ih]

theorem Reorders.isPassable_eq {x y : Datum} (h : x.Reorders y) : x.isPassable = y.isPassable := by
  induction h with
  | refl => rfl
  | trans _ _ ih ih' => exact ih.trans ih'
  | members h =>
    rw [isPassable, isPassable, areMembersPassable_eq_all, areMembersPassable_eq_all, h.all_eq]
  | member _ ih => simp [isPassable, areMembersPassable_eq_all, ih]
  | item _ ih => simp [isPassable, arePassable_eq_all, ih]

section Lists

variable {ms ms' : List (String × Datum)} {xs ys : List Datum} {key : String}

theorem membersAt_perm (h : ms.Perm ms') : (membersAt key ms).Perm (membersAt key ms') :=
  h.filter _

theorem membersBeside_perm (h : ms.Perm ms') :
    (membersBeside key ms).Perm (membersBeside key ms') :=
  h.filter _

theorem membersAt_reorder (h : MembersReorder ms ms') :
    MembersReorder (membersAt key ms) (membersAt key ms') :=
  List.rel_filter (fun m m' hm => by simp [hm.1]) h

theorem membersBeside_reorder (h : MembersReorder ms ms') :
    MembersReorder (membersBeside key ms) (membersBeside key ms') :=
  List.rel_filter (fun m m' hm => by simp [hm.1]) h

theorem forall_isWhole_reorder (h : MembersReorder ms ms') :
    (∀ m ∈ ms, m.2.isWhole = true) ↔ ∀ m ∈ ms', m.2.isWhole = true := by
  induction h with
  | nil => rfl
  | cons hm _ ih => rw [List.forall_mem_cons, List.forall_mem_cons, ih, hm.2.isWhole_eq]

theorem areWhole_reorder (h : ItemsReorder xs ys) : areWhole xs = areWhole ys := by
  induction h with
  | nil => rfl
  | cons hxy _ ih => rw [areWhole, areWhole, hxy.isWhole_eq, ih]

end Lists

end VmAdmission.Datum
