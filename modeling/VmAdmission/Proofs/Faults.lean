import VmAdmission.Proofs.Judgement

/-!
# Faults end everything

The services may answer differently each time, or not at all. A result is accounted for by the
calls that were made for it (`Services.Calls`): either all of them were answered, or the last one
alone met a fault, and then that fault is the result. What is true of one consultation is handed on
to checklists, plans and decisions; `fault_ends_decision` says what it comes to.
-/

namespace VmAdmission

variable {α : Type} {services : Services} {asked : List Query}

/-! ## Calls -/

/-- The queries `calls`, put one after another behind those asked before, were all answered, or the
last one met the fault and those before it were answered. -/
inductive Services.Calls (services : Services) :
    List Query → List Query → Option Fault → Prop where
  | nil {asked : List Query} : services.Calls asked [] none
  | failed {asked : List Query} {q : Query} {fault : Fault} (h : services asked q = .error fault) :
    services.Calls asked [q] (some fault)
  | answered {asked calls : List Query} {q : Query} {a : q.Answer} {fault? : Option Fault}
    (h : services asked q = .ok a) (hcalls : services.Calls (asked ++ [q]) calls fault?) :
    services.Calls asked (q :: calls) fault?

namespace Services.Calls

variable {calls more : List Query} {fault? : Option Fault}

/-- Calls that were answered may be followed by others. -/
theorem append (h : services.Calls asked calls none)
    (hmore : services.Calls (asked ++ calls) more fault?) :
    services.Calls asked (calls ++ more) fault? := by
  generalize hn : (none : Option Fault) = o at h
  induction h with
  | nil => simpa using hmore
  | failed _ => cases hn
  | answered ha _ ih =>
    rw [List.append_cons] at hmore
    exact .answered ha (ih hmore hn)

/-- A call that met a fault is the last one. -/
theorem last_of_failed {before after : List Query} {q : Query} {fault : Fault}
    (h : services.Calls asked (before ++ q :: after) fault?)
    (hq : services (asked ++ before) q = .error fault) : after = [] ∧ fault? = some fault := by
  induction before generalizing asked with
  | nil =>
    rw [List.append_nil] at hq
    cases h with
    | failed hf =>
      cases hf.symm.trans hq
      exact ⟨rfl, rfl⟩
    | answered ha _ => cases ha.symm.trans hq
  | cons p before ih =>
    rw [List.append_cons] at hq
    rw [List.cons_append] at h
    -- a call that failed has no call behind it
    generalize hc : p :: (before ++ q :: after) = calls at h
    cases h with
    | nil => cases hc
    | failed _ => simp at hc
    | answered _ hcalls =>
      cases hc
      exact ih hcalls hq

/-- A fault is that of the last call. -/
theorem exists_last {fault : Fault} (h : services.Calls asked calls (some fault)) :
    ∃ before q, calls = before ++ [q] ∧ services (asked ++ before) q = .error fault := by
  generalize ho : some fault = o at h
  induction h with
  | nil => cases ho
  | failed hf =>
    cases ho
    exact ⟨[], _, rfl, by rwa [List.append_nil]⟩
  | answered _ _ ih =>
    obtain ⟨before, q, rfl, hf⟩ := ih ho
    exact ⟨_ :: before, q, rfl, by rwa [List.append_cons]⟩

end Services.Calls

/-! ## Accounts -/

/-- The fault that a result is, if it is one. -/
def fault? : Except Fault α → Option Fault
  | .ok _ => none
  | .error fault => some fault

theorem fault?_eq_some_iff {result : Except Fault α} {fault : Fault} :
    fault? result = some fault ↔ result = .error fault := by
  cases result <;> simp [fault?]

/-- A result, with all the queries asked by then, is accounted for by the calls made behind the
queries asked before. -/
def Services.AccountFor (services : Services) (asked : List Query) (result : Except Fault α)
    (askedAfter : List Query) : Prop :=
  ∃ calls, askedAfter = asked ++ calls ∧ services.Calls asked calls (fault? result)

namespace Services.AccountFor

variable {calls askedAfter : List Query} {result : Except Fault α}

/-- What is asked behind answered calls is accounted for together with them. -/
theorem of_answered (hcalls : services.Calls asked calls none)
    (h : services.AccountFor (asked ++ calls) result askedAfter) :
    services.AccountFor asked result askedAfter := by
  obtain ⟨more, rfl, hmore⟩ := h
  exact ⟨calls ++ more, by rw [List.append_assoc], hcalls.append hmore⟩

end Services.AccountFor

/-- Where nothing is asked, a verdict or any other value is accounted for. -/
theorem Services.accountFor_ok (x : α) : services.AccountFor asked (.ok x) asked :=
  ⟨[], by rw [List.append_nil], .nil⟩

/-- The result of a consultation is accounted for. -/
theorem Consult.accountFor_run (c : Consult α) :
    services.AccountFor asked (c.run services asked).1 (c.run services asked).2 := by
  induction c generalizing asked with
  | done x => exact Services.accountFor_ok x
  | ask q next ih =>
    rw [run]
    cases hq : services asked q with
    | error fault => exact ⟨[q], rfl, .failed hq⟩
    | ok a => exact .of_answered (.answered hq .nil) (ih a)

/-- The result of a checklist of rules that has not stopped is accounted for, by what it asks from
there on. -/
theorem Step.accountFor_foldl (steps : List Step) (events : List Event) :
    let progress := (steps.map (toCheck services)).foldl Checklist.Progress.step
      ⟨none, asked, events⟩
    services.AccountFor asked progress.result progress.state := by
  induction steps generalizing asked events with
  | nil => exact Services.accountFor_ok _
  | cons s steps ih =>
    rw [List.map_cons, List.foldl_cons]
    by_cases ha : s.applies = true
    · have hrule : services.AccountFor asked (s.rule.run services asked).1
          (s.rule.run services asked).2 := s.rule.accountFor_run
      rw [step_of_applies ha]
      simp only [Checklist.Progress.perform, toCheck]
      generalize s.rule.run services asked = outcome at hrule ⊢
      obtain ⟨fault | verdict, askedAfter⟩ := outcome
      · rw [Checklist.Progress.foldl_step_of_stopped rfl]
        exact hrule
      · cases verdict with
        | accepted =>
          obtain ⟨calls, rfl, hcalls⟩ := hrule
          exact .of_answered hcalls (ih _)
        | rejected r =>
          rw [Checklist.Progress.foldl_step_of_stopped rfl]
          exact hrule
    · rw [step_of_not_applies ha]
      exact ih events

/-- The result of a plan is accounted for. -/
theorem Plan.accountFor_run (plan : Plan) :
    services.AccountFor asked (plan.run services asked).1 (plan.run services asked).2.1 := by
  cases plan with
  | settled verdict => exact Services.accountFor_ok verdict
  | checks steps => exact Step.accountFor_foldl steps []

/-- The result of a decision is accounted for. -/
theorem Operation.accountFor_decision (op : Operation) :
    services.AccountFor asked (op.decision services asked).result
      (op.decision services asked).asked := by
  have hload : services.AccountFor asked (op.plan.run services asked).1
      (op.plan.run services asked).2 := op.plan.accountFor_run
  unfold decision
  generalize op.plan.run services asked = outcome at hload ⊢
  obtain ⟨fault | plan, askedAfter⟩ := outcome
  · exact hload
  · obtain ⟨calls, rfl, hcalls⟩ := hload
    exact .of_answered hcalls plan.accountFor_run

/-- **Faults are never masked.** Whatever the services answer, and however they change their minds,
the calls made for a decision account for its result:

1. a call that meets a fault is the last one, and its fault is the result;
2. a result that is a fault is the one that the last call met;
3. where every call is answered, the result is a verdict. -/
theorem fault_ends_decision (op : Operation) (services : Services) (asked : List Query) :
    ∃ calls, (op.decision services asked).asked = asked ++ calls ∧
      (∀ before q after fault, calls = before ++ q :: after →
        services (asked ++ before) q = .error fault →
        after = [] ∧ (op.decision services asked).result = .error fault) ∧
      (∀ fault, (op.decision services asked).result = .error fault →
        ∃ before q, calls = before ++ [q] ∧ services (asked ++ before) q = .error fault) ∧
      ((∀ before q after, calls = before ++ q :: after →
          ∃ a, services (asked ++ before) q = .ok a) →
        ∃ verdict, (op.decision services asked).result = .ok verdict) := by
  have hdecision : services.AccountFor asked (op.decision services asked).result
      (op.decision services asked).asked := op.accountFor_decision
  obtain ⟨calls, hasked, hcalls⟩ := hdecision
  have hlast : ∀ fault, (op.decision services asked).result = .error fault →
      ∃ before q, calls = before ++ [q] ∧ services (asked ++ before) q = .error fault := by
    intro fault hresult
    rw [hresult] at hcalls
    exact hcalls.exists_last
  refine ⟨calls, hasked, ?_, hlast, ?_⟩
  · rintro before q after fault rfl hfault
    obtain ⟨hafter, hresult⟩ := hcalls.last_of_failed hfault
    exact ⟨hafter, fault?_eq_some_iff.1 hresult⟩
  · intro hanswered
    cases hr : (op.decision services asked).result with
    | ok verdict => exact ⟨verdict, rfl⟩
    | error fault =>
      obtain ⟨before, q, hsplit, hfault⟩ := hlast fault hr
      obtain ⟨a, ha⟩ := hanswered before q [] hsplit
      cases ha.symm.trans hfault

end VmAdmission
