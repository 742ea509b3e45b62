import VmAdmission.Decision
import VmAdmission.Proofs.Fallible

/-!
# Judging under fixed answers

Where every query has one answer, a decision does not depend on what was asked before, and a plan is
judged by its rules alone. `Plan.run_fst` says so: the result of a plan is that of the first rule
that applies and does not accept (`Step.answer`). Two facts about such a first objection follow.

1. `Step.answer_eq_accepted_iff`: an operation is accepted exactly if every rule passes.
2. `Step.firstDecides_answer`: otherwise the first rule that does not pass gives the answer, be it
   a rejection or a fault.
-/

namespace VmAdmission

/-! ## Verdicts -/

namespace Verdict

@[simp] theorem reject_ne_accepted (reason : Reason) : reject reason ≠ accepted := nofun

@[simp] theorem filling_eq_accepted_iff {placeholder value : String} {v : Verdict} :
    v.filling placeholder value = accepted ↔ v = accepted := by
  cases v <;> simp [filling]

@[simp] theorem rejectIf_eq_accepted_iff {condition : Bool} {reason : Reason} :
    rejectIf condition reason = accepted ↔ condition = false := by
  cases condition <;> simp [rejectIf]

@[simp] theorem isAccepted_accepted : accepted.isAccepted = true := rfl

@[simp] theorem isAccepted_rejected (r : Rejection) : (rejected r).isAccepted = false := rfl

/-- The first of some verdicts that is no acceptance is missing exactly if all are acceptances. -/
theorem getD_find?_eq_accepted_iff {vs : List Verdict} :
    (vs.find? (!·.isAccepted)).getD .accepted = .accepted ↔ ∀ v ∈ vs, v = .accepted := by
  induction vs with
  | nil => simp
  | cons v vs ih => cases v <;> simp [ih]

end Verdict

/-! ## Rules that accept -/

namespace Consult

variable {α : Type} {answers : Answers}

/-- A rule accepts under fixed answers: it meets no fault and does not reject. -/
def Accepts (answers : Answers) (rule : Consult Verdict) : Prop :=
  rule.eval answers = .ok .accepted

@[simp] theorem accepts_done {v : Verdict} : Accepts answers (.done v) ↔ v = .accepted := by
  simp [Accepts]

@[simp] theorem accepts_bind {x : Consult α} {f : α → Consult Verdict} :
    Accepts answers (x >>= f) ↔ ∃ a, x.eval answers = .ok a ∧ Accepts answers (f a) := by
  unfold Accepts
  rw [eval_bind, bind_eq_ok_iff]

@[simp] theorem accepts_ite {p : Prop} [Decidable p] {x y : Consult Verdict} :
    Accepts answers (if p then x else y) ↔ if p then Accepts answers x else Accepts answers y := by
  split <;> rfl

end Consult

/-! ## The first objection -/

namespace Checklist.Progress

variable {σ : Type}

/-- A checklist that has stopped stays as it is. -/
theorem foldl_step_of_stopped {p : Progress σ} (hp : p.stopped.isSome) (checks : List (Check σ)) :
    checks.foldl step p = p := by
  induction checks with
  | nil => rfl
  | cons c checks ih =>
    have : p.step c = p := by simp [step, Option.isNone_eq_false_iff.2 hp]
    rw [List.foldl_cons, this, ih]

end Checklist.Progress

namespace Step

variable {answers : Answers}

/-- Whether a rule stands in nobody's way: it does not apply, or it accepts. -/
def Passes (answers : Answers) (s : Step) : Prop := s.applies = true → s.rule.Accepts answers

/-- The answer of rules taken in order: that of the first that applies and does not accept, or an
acceptance if there is none. -/
def answer (answers : Answers) : List Step → Except Fault Verdict
  | [] => .ok .accepted
  | s :: steps =>
    if s.applies then
      match s.rule.eval answers with
      | .ok .accepted => answer answers steps
      | objection => objection
    else answer answers steps

theorem answer_cons_of_passes {s : Step} {steps : List Step} (h : s.Passes answers) :
    answer answers (s :: steps) = answer answers steps := by
  rw [answer]
  split
  · rename_i ha
    rw [show s.rule.eval answers = .ok .accepted from h ha]
  · rfl

theorem answer_cons_of_not_passes {s : Step} {steps : List Step} (h : ¬ s.Passes answers) :
    answer answers (s :: steps) = s.rule.eval answers := by
  have ha : s.applies = true := by
    by_contra ha
    exact h fun ha' => absurd ha' ha
  rw [answer, if_pos ha]
  split
  · rename_i hr
    exact absurd (fun _ => hr) h
  · rfl

/-- The rules accept together exactly if each passes. -/
theorem answer_eq_accepted_iff {steps : List Step} :
    answer answers steps = .ok .accepted ↔ ∀ s ∈ steps, s.Passes answers := by
  induction steps with
  | nil => simp [answer]
  | cons s steps ih =>
    rw [List.forall_mem_cons]
    by_cases hs : s.Passes answers
    · rw [answer_cons_of_passes hs, ih]
      exact (and_iff_right hs).symm
    · rw [answer_cons_of_not_passes hs]
      exact ⟨fun h => absurd (fun _ => h) hs, fun h => absurd h.1 hs⟩

/-- A result is the answer of the first rule that does not pass, if there is one. -/
def FirstDecides (answers : Answers) (steps : List Step) (result : Except Fault Verdict) : Prop :=
  ∀ before s after, steps = before ++ s :: after → (∀ t ∈ before, t.Passes answers) →
    ¬ s.Passes answers → result = s.rule.eval answers

theorem answer_append {before after : List Step} (hb : ∀ t ∈ before, t.Passes answers) :
    answer answers (before ++ after) = answer answers after := by
  induction before with
  | nil => rfl
  | cons t before ih =>
    rw [List.forall_mem_cons] at hb
    rw [List.cons_append, answer_cons_of_passes hb.1, ih hb.2]

theorem answer_append_of_not_accepted {before : List Step} (after : List Step)
    (hb : answer answers before ≠ .ok .accepted) :
    answer answers (before ++ after) = answer answers before := by
  induction before with
  | nil => exact absurd rfl hb
  | cons t before ih =>
    by_cases ht : t.Passes answers
    · rw [answer_cons_of_passes ht] at hb
      rw [List.cons_append, answer_cons_of_passes ht, answer_cons_of_passes ht, ih hb]
    · rw [List.cons_append, answer_cons_of_not_passes ht, answer_cons_of_not_passes ht]

theorem firstDecides_answer (answers : Answers) (steps : List Step) :
    FirstDecides answers steps (answer answers steps) := by
  rintro before s after rfl hb hs
  rw [answer_append hb, answer_cons_of_not_passes hs]

section Next

variable {services : Services} {asked : List Query} {events : List Event} {s : Step}

theorem step_of_applies (h : s.applies = true) :
    Checklist.Progress.step ⟨none, asked, events⟩ (s.toCheck services) =
      Checklist.Progress.perform ⟨none, asked, events⟩ (s.toCheck services) := by
  simp [Checklist.Progress.step, toCheck, h]

theorem step_of_not_applies (h : s.applies ≠ true) :
    Checklist.Progress.step ⟨none, asked, events⟩ (s.toCheck services) =
      ⟨none, asked, events⟩ := by
  simp [Checklist.Progress.step, toCheck, h]

end Next

/-- A checklist of rules that has not stopped comes to the answer of the rules. -/
theorem result_foldl_step (steps : List Step) (asked : List Query) (events : List Event) :
    ((steps.map (toCheck answers.toServices)).foldl Checklist.Progress.step
      ⟨none, asked, events⟩).result = answer answers steps := by
  induction steps generalizing asked events with
  | nil => rfl
  | cons s steps ih =>
    rw [List.map_cons, List.foldl_cons, answer]
    by_cases ha : s.applies = true
    · -- the check runs: its body is the rule, and what it asks is the next state
      have hb : ((s.toCheck answers.toServices).body asked).1 = s.rule.eval answers :=
        Consult.run_eq_eval answers s.rule asked
      rw [step_of_applies ha, if_pos ha, ← hb]
      unfold Checklist.Progress.perform
      rcases h : (s.toCheck answers.toServices).body asked with ⟨fault | verdict, asked'⟩
      · rw [Checklist.Progress.foldl_step_of_stopped rfl]; rfl
      · cases verdict with
        | accepted => exact ih asked' _
        | rejected r => rw [Checklist.Progress.foldl_step_of_stopped rfl]; rfl
    · rw [step_of_not_applies ha, if_neg ha, ih]

end Step

namespace Plan

/-- The result of a plan under fixed answers. -/
def answer (answers : Answers) : Plan → Except Fault Verdict
  | .settled verdict => .ok verdict
  | .checks steps => Step.answer answers steps

theorem run_fst (answers : Answers) (asked : List Query) (plan : Plan) :
    (plan.run answers.toServices asked).1 = plan.answer answers := by
  cases plan with
  | settled verdict => rfl
  | checks steps => exact Step.result_foldl_step steps asked []

end Plan

namespace Operation

/-- Judging by tables is loading the plan, and then taking its answer. -/
theorem judge_eq (op : Operation) (inv : Inventory) (c : Capabilities) :
    op.judge inv c = op.plan.eval (.ofTables inv c) >>= Plan.answer (.ofTables inv c) := by
  unfold judge decision
  rw [← Consult.run_eq_eval _ _ []]
  rcases op.plan.run (Answers.ofTables inv c).toServices [] with ⟨fault | plan, asked⟩
  · rfl
  · exact Plan.run_fst _ asked plan

end Operation

end VmAdmission
