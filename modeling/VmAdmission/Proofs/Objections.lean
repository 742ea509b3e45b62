import VmAdmission.Proofs.Judgement

/-!
# Objections

What may stand in the way of an operation, put down one after another, each with the answer that it
is given (`Objection`). The first objection that is raised settles the result; if none is raised,
the operation is accepted (`Objection.Settle`). A list settles one result only
(`Objection.Settle.unique`), so to say that it settles the result of some rules is to say which
reason they give when, in which order, and with which values. Rules taken in order are settled rule
by rule (`Step.settle_answer`).
-/

namespace VmAdmission

/-- Something that may stand in the way of an operation. It says what is answered if it is raised:
one rejection or fault. -/
@[ext] structure Objection where
  /-- The objection is raised, and this is the answer. -/
  Raises : Except Fault Verdict → Prop
  unique : ∀ {result result'}, Raises result → Raises result' → result = result'
  ne_accepted : ∀ {result}, Raises result → result ≠ .ok .accepted

namespace Objection

/-- Whether the objection is raised at all. -/
def IsRaised (o : Objection) : Prop := ∃ result, o.Raises result

/-- Every rejection that the objection may come to is as it should be. -/
def Gives (P : Rejection → Prop) (o : Objection) : Prop :=
  ∀ r, o.Raises (.ok (.rejected r)) → P r

/-- The result is the answer of the first objection that is raised, or an acceptance if none is. -/
inductive Settle : List Objection → Except Fault Verdict → Prop
  | unopposed : Settle [] (.ok .accepted)
  | raised {o : Objection} {os : List Objection} {result : Except Fault Verdict}
    (h : o.Raises result) : Settle (o :: os) result
  | passed {o : Objection} {os : List Objection} {result : Except Fault Verdict}
    (h : ¬ o.IsRaised) (hrest : Settle os result) : Settle (o :: os) result

variable {α : Type} {o : Objection} {os os' : List Objection}
  {result result' : Except Fault Verdict}

/-! ## Objections -/

/-- A rejection, raised under a condition. -/
def reject (condition : Prop) (rejection : Rejection) : Objection where
  Raises result := condition ∧ result = .ok (.rejected rejection)
  unique h h' := h.2.trans h'.2.symm
  ne_accepted h := by simp [h.2]

/-- A fault, met under a condition. -/
def fault (condition : Prop) (fault : Fault) : Objection where
  Raises result := condition ∧ result = .error fault
  unique h h' := h.2.trans h'.2.symm
  ne_accepted h := by simp [h.2]

/-- An objection about something, where that is there. -/
def about (x? : Option α) (o : α → Objection) : Objection where
  Raises result := ∃ x, x? = some x ∧ (o x).Raises result
  unique := by
    rintro _ _ ⟨x, hx, h⟩ ⟨x', hx', h'⟩
    cases hx.symm.trans hx'
    exact (o x).unique h h'
  ne_accepted := by
    rintro _ ⟨x, -, h⟩
    exact (o x).ne_accepted h

section Raised

variable {p : Prop} {r : Rejection} {f : Fault} {x? : Option α} {g : α → Objection}

@[simp] theorem raises_reject : (reject p r).Raises result ↔ p ∧ result = .ok (.rejected r) :=
  .rfl

@[simp] theorem raises_fault : (fault p f).Raises result ↔ p ∧ result = .error f := .rfl

@[simp] theorem raises_about :
    (about x? g).Raises result ↔ ∃ x, x? = some x ∧ (g x).Raises result := .rfl

@[simp] theorem about_some {x : α} : about (some x) g = g x := by
  ext result
  simp

@[simp] theorem isRaised_reject : (reject p r).IsRaised ↔ p := by
  simp [IsRaised]

@[simp] theorem isRaised_fault : (fault p f).IsRaised ↔ p := by
  simp [IsRaised]

@[simp] theorem isRaised_about : (about x? g).IsRaised ↔ ∃ x, x? = some x ∧ (g x).IsRaised := by
  cases x? with
  | none => simp [IsRaised]
  | some x => simp

variable {P : Rejection → Prop}

@[simp] theorem gives_reject : (reject p r).Gives P ↔ (p → P r) := by
  simp only [Gives, raises_reject, Except.ok.injEq, Verdict.rejected.injEq]
  exact ⟨fun h hp => h r ⟨hp, rfl⟩, fun h _ ⟨hp, hr⟩ => hr ▸ h hp⟩

@[simp] theorem gives_fault : (fault p f).Gives P := by
  simp [Gives]

@[simp] theorem gives_about : (about x? g).Gives P ↔ ∀ x, x? = some x → (g x).Gives P := by
  simp only [Gives, raises_about]
  exact ⟨fun h x hx r hr => h r ⟨x, hx, hr⟩, fun h r ⟨x, hx, hr⟩ => h x hx r hr⟩

end Raised

/-! ## What a list of objections comes to -/

@[simp] theorem settle_nil_iff : Settle [] result ↔ result = .ok .accepted := by
  constructor
  · intro h
    cases h
    rfl
  · rintro rfl
    exact .unopposed

theorem settle_cons_iff :
    Settle (o :: os) result ↔ o.Raises result ∨ ¬ o.IsRaised ∧ Settle os result := by
  constructor
  · intro h
    cases h with
    | raised h => exact .inl h
    | passed h hrest => exact .inr ⟨h, hrest⟩
  · rintro (h | ⟨h, hrest⟩)
    · exact .raised h
    · exact .passed h hrest

/-- There is one result at most. -/
theorem Settle.unique (h : Settle os result) (h' : Settle os result') : result = result' := by
  induction h with
  | unopposed => exact (settle_nil_iff.1 h').symm
  | raised h =>
    rcases settle_cons_iff.1 h' with h' | ⟨hnot, -⟩
    · exact Objection.unique _ h h'
    · exact absurd ⟨_, h⟩ hnot
  | passed hnot _ ih =>
    rcases settle_cons_iff.1 h' with h' | ⟨-, hrest⟩
    · exact absurd ⟨_, h'⟩ hnot
    · exact ih hrest

/-- What objections settle is the one result that they do. -/
theorem Settle.eq_iff (h : Settle os result) : result = result' ↔ Settle os result' := by
  constructor
  · rintro rfl
    exact h
  · exact h.unique

theorem Settle.append_of_accepted (h : Settle os (.ok .accepted)) (h' : Settle os' result) :
    Settle (os ++ os') result := by
  generalize haccepted : Except.ok Verdict.accepted = accepted at h
  induction h with
  | unopposed => exact h'
  | raised h => exact absurd haccepted.symm (Objection.ne_accepted _ h)
  | passed hnot _ ih => exact .passed hnot (ih haccepted)

theorem Settle.append_of_not_accepted (h : Settle os result) (hne : result ≠ .ok .accepted)
    (os' : List Objection) : Settle (os ++ os') result := by
  induction h with
  | unopposed => exact absurd rfl hne
  | raised h => exact .raised h
  | passed hnot _ ih => exact .passed hnot (ih hne)

/-- Objections none of which is raised change nothing. -/
theorem settle_of_forall_not (h : ∀ o ∈ os, ¬ o.IsRaised) : Settle os (.ok .accepted) := by
  induction os with
  | nil => exact .unopposed
  | cons o os ih =>
    rw [List.forall_mem_cons] at h
    exact .passed h.1 (ih h.2)

/-- A result other than an acceptance is the answer of an objection on the list. -/
theorem Settle.exists_raises (h : Settle os result) (hne : result ≠ .ok .accepted) :
    ∃ o ∈ os, o.Raises result := by
  induction h with
  | unopposed => exact absurd rfl hne
  | raised h => exact ⟨_, List.mem_cons_self, h⟩
  | passed _ _ ih =>
    obtain ⟨o, hmem, h⟩ := ih hne
    exact ⟨o, List.mem_cons_of_mem _ hmem, h⟩

/-- A rejection that is settled is as it should be, if all of the objections' are. -/
theorem Settle.gives {P : Rejection → Prop} {r : Rejection}
    (h : Settle os (.ok (.rejected r))) (hall : ∀ o ∈ os, o.Gives P) : P r := by
  obtain ⟨o, hmem, hraises⟩ := h.exists_raises (by simp)
  exact hall o hmem r hraises

/-- Of rejections for the elements of a list, the first that is called for is given. -/
theorem settle_map_of_isFirst {p : α → Prop} {rejection : α → Rejection} {xs : List α} {x : α}
    (h : IsFirst p xs x) :
    Settle (xs.map fun x => reject (p x) (rejection x)) (.ok (.rejected (rejection x))) := by
  induction xs with
  | nil => exact absurd h not_isFirst_nil
  | cons y xs ih =>
    rcases isFirst_cons_iff.1 h with ⟨hy, rfl⟩ | ⟨hy, h⟩
    · exact .raised ⟨hy, rfl⟩
    · exact .passed (by simpa using hy) (ih h)

/-- A single rejection, under the condition that the rule looks at. -/
theorem settle_rejectIf {p : Prop} {condition : Bool} {reason : Reason}
    (h : condition = true ↔ p) :
    Settle [reject p ⟨reason, []⟩] (.ok (.rejectIf condition reason)) := by
  rw [settle_cons_iff, settle_nil_iff, isRaised_reject, raises_reject, ← h]
  cases condition <;> simp [Verdict.rejectIf, Verdict.reject]

end Objection

/-! ## Rules taken in order -/

namespace Step

open Objection

variable {answers : Answers} {s : Step} {steps : List Step} {os : List Objection}
  {groups : List (List Objection)}

theorem answer_singleton_of_applies (ha : s.applies = true) :
    answer answers [s] = s.rule.eval answers := by
  by_cases hs : s.Passes answers
  · rw [answer_cons_of_passes hs, answer, hs ha]
  · rw [answer_cons_of_not_passes hs]

/-- A rule that applies raises its objections. -/
theorem settle_answer_singleton (ha : s.applies = true) (h : Settle os (s.rule.eval answers)) :
    Settle os (answer answers [s]) := by
  rwa [answer_singleton_of_applies ha]

/-- A rule that applies only under a condition raises its objections only then. -/
theorem settle_answer_singleton_ite {p : Prop} [Decidable p] (ha : s.applies = true ↔ p)
    (h : p → Settle os (s.rule.eval answers)) :
    Settle (if p then os else []) (answer answers [s]) := by
  split
  · rename_i hp
    exact settle_answer_singleton (ha.2 hp) (h hp)
  · rename_i hp
    have hpasses : s.Passes answers := fun ha' => absurd (ha.1 ha') hp
    rw [answer_cons_of_passes hpasses]
    exact .unopposed

/-- Rules taken in order are settled by the objections of one rule after another. -/
theorem settle_answer
    (h : List.Forall₂ (fun s os => Settle os (answer answers [s])) steps groups) :
    Settle groups.flatten (answer answers steps) := by
  induction h with
  | nil => exact .unopposed
  | @cons s os steps groups hs _ ih =>
    rw [List.flatten_cons]
    by_cases hpasses : s.Passes answers
    · have haccepted : answer answers [s] = .ok .accepted := by
        rw [answer_cons_of_passes hpasses]
        rfl
      rw [haccepted] at hs
      rw [answer_cons_of_passes hpasses]
      exact hs.append_of_accepted ih
    · have hobjects : answer answers [s] ≠ .ok .accepted := by
        rw [ne_eq, answer_eq_accepted_iff, List.forall_mem_singleton]
        exact hpasses
      have hfirst : answer answers (s :: steps) = answer answers [s] := by
        rw [answer_cons_of_not_passes hpasses, answer_cons_of_not_passes hpasses]
      rw [hfirst]
      exact hs.append_of_not_accepted hobjects _

end Step

end VmAdmission
