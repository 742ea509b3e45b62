import Mathlib.Data.List.Forall2
import Mathlib.Data.List.Perm.Basic

/-!
# Values that may be faults

How a value that is not a fault comes about: through a value of each part that it was made from.
`mapM_eq_ok_iff` says so of lists; `mem_of_mapM_eq_ok`, `find?_mapM_eq_some_iff` and
`exists_mapM_eq_ok_iff` say what is in such a list, what is found first, and when there is one. When
there is none, the fault is that of the first element which has one (`mapM_eq_error_iff`). The order
of the arguments only matters to the order of the results (`exists_mapM_of_perm`), and to which of
several faults is met. The first element of a list with a property is defined here (`IsFirst`).
-/

namespace VmAdmission

variable {α β ε : Type}

/-! ## The first of a list -/

/-- The element is the first of a list with a property. -/
def IsFirst (p : α → Prop) (xs : List α) (x : α) : Prop :=
  ∃ before after, xs = before ++ x :: after ∧ (∀ y ∈ before, ¬ p y) ∧ p x

section First

variable {p : α → Prop} {xs : List α} {x y : α}

theorem IsFirst.mem (h : IsFirst p xs x) : x ∈ xs := by
  obtain ⟨before, after, rfl, -, -⟩ := h
  exact List.mem_append_right _ List.mem_cons_self

theorem IsFirst.holds (h : IsFirst p xs x) : p x := by
  obtain ⟨-, -, -, -, hx⟩ := h
  exact hx

@[simp] theorem not_isFirst_nil : ¬ IsFirst p [] x :=
  fun h => List.not_mem_nil h.mem

theorem isFirst_cons_iff : IsFirst p (y :: xs) x ↔ p y ∧ x = y ∨ ¬ p y ∧ IsFirst p xs x := by
  constructor
  · rintro ⟨_ | ⟨z, before⟩, after, heq, hbefore, hx⟩
    · cases heq
      exact .inl ⟨hx, rfl⟩
    · cases heq
      rw [List.forall_mem_cons] at hbefore
      exact .inr ⟨hbefore.1, before, after, rfl, hbefore.2, hx⟩
  · rintro (⟨hy, rfl⟩ | ⟨hy, before, after, rfl, hbefore, hx⟩)
    · exact ⟨[], xs, rfl, by simp, hy⟩
    · exact ⟨y :: before, after, rfl, List.forall_mem_cons.2 ⟨hy, hbefore⟩, hx⟩

/-- There is a first element with a property as soon as there is one at all. -/
theorem exists_isFirst_iff : (∃ x, IsFirst p xs x) ↔ ∃ x ∈ xs, p x := by
  constructor
  · rintro ⟨x, h⟩
    exact ⟨x, h.mem, h.holds⟩
  · rintro ⟨x, hmem, hx⟩
    induction xs with
    | nil => cases hmem
    | cons y xs ih =>
      by_cases hy : p y
      · exact ⟨y, isFirst_cons_iff.2 (.inl ⟨hy, rfl⟩)⟩
      · rcases List.mem_cons.1 hmem with rfl | hmem
        · exact absurd hx hy
        · obtain ⟨z, hz⟩ := ih hmem
          exact ⟨z, isFirst_cons_iff.2 (.inr ⟨hy, hz⟩)⟩

theorem find?_eq_some_iff_isFirst {q : α → Bool} :
    xs.find? q = some x ↔ IsFirst (fun y => q y = true) xs x := by
  rw [List.find?_eq_some_iff_append]
  simp only [IsFirst, Bool.not_eq_eq_eq_not, Bool.not_true, Bool.not_eq_true]
  constructor
  · rintro ⟨hx, before, after, heq, hbefore⟩
    exact ⟨before, after, heq, hbefore, hx⟩
  · rintro ⟨before, after, heq, hbefore, hx⟩
    exact ⟨hx, before, after, heq, hbefore⟩

/-- The first of those that pass a filter is the first that passes it and has the property. -/
theorem isFirst_filter_iff {q : α → Bool} :
    IsFirst p (xs.filter q) x ↔ IsFirst (fun y => q y = true ∧ p y) xs x := by
  induction xs with
  | nil => simp
  | cons y xs ih =>
    rw [List.filter_cons, isFirst_cons_iff, ← ih]
    by_cases hq : q y = true
    · rw [if_pos hq, isFirst_cons_iff]
      simp [hq]
    · rw [if_neg hq]
      simp [hq]

end First

/-! ## Values that are no faults -/

@[simp] theorem ok_bind (a : α) (f : α → Except ε β) : (.ok a >>= f) = f a := rfl

@[simp] theorem error_bind (e : ε) (f : α → Except ε β) : (.error e >>= f) = .error e := rfl

theorem bind_eq_ok_iff {x : Except ε α} {f : α → Except ε β} {y : β} :
    x >>= f = .ok y ↔ ∃ a, x = .ok a ∧ f a = .ok y := by
  cases x with
  | error e => simp [bind, Except.bind]
  | ok a => simp [bind, Except.bind]

theorem map_eq_ok_iff {x : Except ε α} {f : α → β} {y : β} :
    x.map f = .ok y ↔ ∃ a, x = .ok a ∧ f a = y := by
  cases x with
  | error e => simp [Except.map]
  | ok a => simp [Except.map]

theorem map_eq_error_iff {x : Except ε α} {f : α → β} {fault : ε} :
    x.map f = .error fault ↔ x = .error fault := by
  cases x with
  | error fault' => simp [Except.map]
  | ok a => simp [Except.map]

theorem forall_ne_ok_iff {x : Except ε α} : (∀ y, x ≠ .ok y) ↔ ∃ fault, x = .error fault := by
  cases x <;> simp

theorem mapM_eq_ok_iff {f : α → Except ε β} {xs : List α} {ys : List β} :
    xs.mapM f = .ok ys ↔ List.Forall₂ (fun x y => f x = .ok y) xs ys := by
  induction xs generalizing ys with
  | nil => cases ys <;> simp [pure, Except.pure]
  | cons x xs ih =>
    rw [List.mapM_cons, bind_eq_ok_iff]
    constructor
    · rintro ⟨y, hy, h⟩
      obtain ⟨ys', hys, h'⟩ := bind_eq_ok_iff.1 h
      cases h'
      exact .cons hy (ih.1 hys)
    · intro h
      cases h with
      | cons hy hys => exact ⟨_, hy, bind_eq_ok_iff.2 ⟨_, ih.2 hys, rfl⟩⟩

theorem mapM_congr {f g : α → Except ε β} {xs : List α} (h : ∀ x ∈ xs, f x = g x) :
    xs.mapM f = xs.mapM g := by
  induction xs with
  | nil => rfl
  | cons x xs ih =>
    rw [List.forall_mem_cons] at h
    rw [List.mapM_cons, List.mapM_cons, h.1, ih h.2]

theorem mem_of_mapM_eq_ok {f : α → Except ε β} {xs : List α} {ys : List β}
    (h : xs.mapM f = .ok ys) {y : β} : y ∈ ys ↔ ∃ x ∈ xs, f x = .ok y := by
  rw [mapM_eq_ok_iff] at h
  induction h with
  | nil => simp
  | cons hy _ ih => simp [ih, hy, eq_comm]

theorem getElem?_of_mapM_eq_ok {f : α → Except ε β} {xs : List α} {ys : List β}
    (h : xs.mapM f = .ok ys) {k : Nat} {y : β} (hk : ys[k]? = some y) :
    ∃ x, xs[k]? = some x ∧ f x = .ok y := by
  rw [mapM_eq_ok_iff] at h
  induction h generalizing k with
  | nil => cases hk
  | @cons x _ _ _ hy _ ih =>
    cases k with
    | zero =>
      cases hk
      exact ⟨x, rfl, hy⟩
    | succ k => exact ih hk

theorem exists_mapM_eq_ok_iff {f : α → Except ε β} {xs : List α} :
    (∃ ys, xs.mapM f = .ok ys) ↔ ∀ x ∈ xs, ∃ y, f x = .ok y := by
  induction xs with
  | nil => exact ⟨fun _ => by simp, fun _ => ⟨[], rfl⟩⟩
  | cons x xs ih =>
    rw [List.forall_mem_cons, ← ih]
    constructor
    · rintro ⟨ys, h⟩
      cases mapM_eq_ok_iff.1 h with
      | cons hy hys => exact ⟨⟨_, hy⟩, _, mapM_eq_ok_iff.2 hys⟩
    · rintro ⟨⟨y, hy⟩, ys, hys⟩
      exact ⟨y :: ys, mapM_eq_ok_iff.2 (.cons hy (mapM_eq_ok_iff.1 hys))⟩

/-- The fault of several is that of the first argument that has one. -/
theorem mapM_eq_error_iff {f : α → Except ε β} {xs : List α} {fault : ε} :
    xs.mapM f = .error fault ↔
      ∃ x, IsFirst (fun x => ∀ y, f x ≠ .ok y) xs x ∧ f x = .error fault := by
  induction xs with
  | nil => simp [pure, Except.pure]
  | cons x xs ih =>
    simp only [List.mapM_cons, isFirst_cons_iff]
    cases hx : f x with
    | error fault' => simp [hx]
    | ok y =>
      have hrest : (xs.mapM f >>= fun ys => pure (y :: ys)) = Except.error fault ↔
          xs.mapM f = .error fault := by
        cases xs.mapM f <;> simp [pure, Except.pure]
      rw [ok_bind, hrest, ih]
      simp

theorem exists_mem_of_mapM_eq_error {f : α → Except ε β} {xs : List α} {fault : ε}
    (h : xs.mapM f = .error fault) : ∃ x ∈ xs, f x = .error fault := by
  obtain ⟨x, hfirst, hx⟩ := mapM_eq_error_iff.1 h
  exact ⟨x, hfirst.mem, hx⟩

/-- Arguments in another order have the same results, in another order. -/
theorem exists_mapM_of_perm {f : α → Except ε β} {xs xs' : List α} {ys : List β}
    (h : xs.Perm xs') (hys : xs.mapM f = .ok ys) : ∃ ys', xs'.mapM f = .ok ys' ∧ ys.Perm ys' := by
  obtain ⟨ys', hys', hperm⟩ := List.perm_comp_forall₂ h.symm (mapM_eq_ok_iff.1 hys)
  exact ⟨ys', mapM_eq_ok_iff.2 hys', hperm.symm⟩

/-- What is found first among the results belongs to what is found first among the arguments, if
the two conditions agree on each argument and its result. -/
theorem find?_mapM_eq_some_iff {f : α → Except ε β} {xs : List α} {ys : List β}
    (h : xs.mapM f = .ok ys) {p : α → Bool} {q : β → Bool} (hpq : ∀ x y, f x = .ok y → q y = p x)
    {z : β} : ys.find? q = some z ↔ ∃ x, xs.find? p = some x ∧ f x = .ok z := by
  rw [mapM_eq_ok_iff] at h
  induction h with
  | nil => simp
  | @cons x y xs ys hy _ ih =>
    rw [List.find?_cons, List.find?_cons, hpq x y hy]
    cases p x with
    | false => exact ih
    | true => simp [hy]

end VmAdmission
