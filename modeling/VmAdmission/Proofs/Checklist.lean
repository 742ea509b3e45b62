import VmAdmission.Proofs.Judgement

/-!
# Checklists stop at the first objection

`Checklist.Ends` says how checks end that are run one after another, each in the state that the one
before it leaves: all of them accept, or the first that does not decides. A checklist ends as those
of its checks do that apply, whatever they do to the state. It runs no others, and its log holds one
event for each check that is run and one for the check that stopped it (`ends_run`).

`run_append_of_accepted` and `run_append_of_not_accepted` are the laws of checklists behind one
another. That a check may be left out follows from them, if it does not apply, or if it accepts and
nothing behind it looks at what it changes.
-/

namespace VmAdmission

variable {σ : Type}

/-! ## What is seen of checks -/

/-- The line of an event by itself: its level, its wording, and its values by name. -/
def Event.line (e : Event) : String × String × List (String × String) :=
  (e.level, e.message, e.fields)

/-- What is logged, behind its start, of a check that comes to an outcome. -/
def Event.stopping (check : String) : Except Fault Verdict → List Event
  | .ok .accepted => []
  | .ok (.rejected r) => [.objected check r.reason]
  | .error fault => [.incomplete check fault]

namespace Check

/-- The check, which notes in the state that it was run. -/
def noting (c : Check σ) : Check (σ × List (Check σ)) where
  name := c.name
  applies := c.applies
  body s := ((c.body s.1).1, (c.body s.1).2, s.2 ++ [c])

/-- The check comes to the same outcome in every state. -/
def IsSteady (c : Check σ) : Prop := ∀ s t, (c.body s).1 = (c.body t).1

/-- The line of a check that is run. -/
def opening (c : Check σ) : String × String × List (String × String) :=
  ("DEBUG", "running check", [("check", c.name)])

/-- The line of the check that stopped the others, with its outcome. -/
def closing : Option (Check σ) → Except Fault Verdict →
    List (String × String × List (String × String))
  | some c, .ok (.rejected r) => [("INFO", "check rejected operation",
      [("check", c.name), ("reason", "Some(" ++ r.reason.label ++ ")")])]
  | some c, .error fault => [("WARNING", "check could not complete",
      [("check", c.name), ("error", fault.message)])]
  | _, _ => []

end Check

namespace Checklist

/-- The checks that a checklist runs, in their order. -/
def ran (checks : List (Check σ)) (s : σ) : List (Check σ) :=
  (run (checks.map Check.noting) (s, [])).state.2

/-- Checks that are run one after another all accept, and leave a state. -/
inductive Passed : σ → List (Check σ) → σ → Prop
  | nil {s : σ} : Passed s [] s
  | cons {s t u : σ} {c : Check σ} {checks : List (Check σ)} (hc : c.body s = (.ok .accepted, t))
    (h : Passed t checks u) : Passed s (c :: checks) u

/-- How checks end that are run one after another: those that are run, the one that stops the
others, if one does, what it comes to, and the state that is left. -/
inductive Ends (s : σ) (checks : List (Check σ)) :
    List (Check σ) → Option (Check σ) → Except Fault Verdict → σ → Prop
  | finished {t : σ} (h : Passed s checks t) : Ends s checks checks none (.ok .accepted) t
  | stopped {before after : List (Check σ)} {c : Check σ} {outcome : Except Fault Verdict} {t u : σ}
    (hsplit : checks = before ++ c :: after) (hbefore : Passed s before t)
    (hc : c.body t = (outcome, u)) (hne : outcome ≠ .ok .accepted) :
    Ends s checks (before ++ [c]) (some c) outcome u

/-! ## One more check -/

namespace Progress

/-- The progress, with events in front. -/
def behind (p : Progress σ) (events : List Event) : Progress σ :=
  { p with events := events ++ p.events }

@[simp] theorem result_behind (p : Progress σ) (events : List Event) :
    (p.behind events).result = p.result := rfl

theorem perform_behind (p : Progress σ) (events : List Event) (c : Check σ) :
    (p.behind events).perform c = (p.perform c).behind events := by
  rcases h : c.body p.state with ⟨fault | (_ | r), s⟩ <;> simp [perform, behind, h]

theorem step_behind (p : Progress σ) (events : List Event) (c : Check σ) :
    (p.behind events).step c = (p.step c).behind events := by
  have hstopped : (p.behind events).stopped = p.stopped := rfl
  unfold step
  rw [hstopped, perform_behind]
  split <;> rfl

theorem foldl_step_behind (p : Progress σ) (events : List Event) (checks : List (Check σ)) :
    checks.foldl step (p.behind events) = (checks.foldl step p).behind events := by
  induction checks generalizing p with
  | nil => rfl
  | cons c checks ih => rw [List.foldl_cons, List.foldl_cons, step_behind, ih]

/-- An acceptance never stops a checklist. -/
theorem foldl_step_ne_accepted {p : Progress σ} (h : p.stopped ≠ some (.ok .accepted))
    (checks : List (Check σ)) : (checks.foldl step p).stopped ≠ some (.ok .accepted) := by
  induction checks generalizing p with
  | nil => exact h
  | cons c checks ih =>
    refine ih ?_
    unfold step
    split
    · rcases hc : c.body p.state with ⟨fault | (_ | r), s⟩ <;> simp [perform, hc]
    · exact h

end Progress

variable {s t : σ} {c : Check σ} {checks before after : List (Check σ)}

theorem stopped_eq_none_iff :
    (run checks s).stopped = none ↔ (run checks s).result = .ok .accepted := by
  have hne : (run checks s).stopped ≠ some (.ok .accepted) :=
    Progress.foldl_step_ne_accepted (by simp [Progress.start]) checks
  unfold Progress.result
  cases hstopped : (run checks s).stopped with
  | none => simp
  | some outcome =>
    rw [hstopped] at hne
    simpa using hne

theorem Progress.step_of_not_applies {p : Progress σ} (h : c.applies = false) : p.step c = p := by
  simp [step, h]

theorem run_cons_of_not_applies (h : c.applies = false) : run (c :: checks) s = run checks s := by
  rw [run, List.foldl_cons, Progress.step_of_not_applies h, run]

theorem run_cons_of_accepted (h : c.applies = true) (hc : c.body s = (.ok .accepted, t)) :
    run (c :: checks) s = (run checks t).behind [.running c.name] := by
  have hstep : (Progress.start s).step c = (Progress.start t).behind [.running c.name] := by
    simp [Progress.step, Progress.start, Progress.perform, Progress.behind, h, hc]
  rw [run, List.foldl_cons, hstep, Progress.foldl_step_behind]
  rfl

theorem run_cons_of_not_accepted {outcome : Except Fault Verdict} (h : c.applies = true)
    (hc : c.body s = (outcome, t)) (hne : outcome ≠ .ok .accepted) :
    run (c :: checks) s = ⟨some outcome, t, .running c.name :: Event.stopping c.name outcome⟩ := by
  have hstep : (Progress.start s).step c =
      ⟨some outcome, t, .running c.name :: Event.stopping c.name outcome⟩ := by
    rcases outcome with fault | (_ | r)
    · simp [Progress.step, Progress.start, Progress.perform, Event.stopping, h, hc]
    · exact absurd rfl hne
    · simp [Progress.step, Progress.start, Progress.perform, Event.stopping, h, hc]
  rw [run, List.foldl_cons, hstep]
  exact Progress.foldl_step_of_stopped rfl checks

/-! ## How a checklist ends -/

theorem Ends.cons_of_accepted {ran : List (Check σ)} {stop? : Option (Check σ)}
    {outcome : Except Fault Verdict} {u : σ} (hc : c.body s = (.ok .accepted, t))
    (h : Ends t checks ran stop? outcome u) :
    Ends s (c :: checks) (c :: ran) stop? outcome u := by
  cases h with
  | finished h => exact .finished (.cons hc h)
  | @stopped before after d _ _ _ hsplit hbefore hd hne =>
    subst hsplit
    have hends : Ends s (c :: (before ++ d :: after)) (c :: before ++ [d]) (some d) outcome u :=
      .stopped rfl (.cons hc hbefore) hd hne
    exact hends

theorem Ends.cons_of_not_accepted {outcome : Except Fault Verdict} (hc : c.body s = (outcome, t))
    (hne : outcome ≠ .ok .accepted) : Ends s (c :: checks) [c] (some c) outcome t := by
  have hends : Ends s ([] ++ c :: checks) ([] ++ [c]) (some c) outcome t :=
    .stopped rfl .nil hc hne
  exact hends

/-- A checklist ends as its checks that apply do. Noting which checks are run changes nothing
else. -/
theorem exists_ends (checks : List (Check σ)) (s : σ) :
    ∃ ran stop?,
      Ends s (checks.filter Check.applies) ran stop? (run checks s).result (run checks s).state ∧
      (∀ noted, run (checks.map Check.noting) (s, noted) =
        ⟨(run checks s).stopped, ((run checks s).state, noted ++ ran), (run checks s).events⟩) ∧
      (run checks s).events.map Event.line =
        ran.map Check.opening ++ Check.closing stop? (run checks s).result := by
  induction checks generalizing s with
  | nil =>
    exact ⟨[], none, .finished .nil, fun noted => by simp [run, Progress.start],
      by simp [run, Progress.start, Check.closing]⟩
  | cons c checks ih =>
    rcases Bool.eq_false_or_eq_true c.applies with ha | ha
    · rcases hc : c.body s with ⟨outcome, t⟩
      have hnoting (noted : List (Check σ)) :
          c.noting.body (s, noted) = (outcome, (t, noted ++ [c])) := by
        simp [Check.noting, hc]
      rw [List.filter_cons_of_pos ha]
      by_cases hne : outcome = .ok .accepted
      · subst hne
        obtain ⟨ran, stop?, hends, hnoted, hlines⟩ := ih t
        rw [run_cons_of_accepted ha hc]
        refine ⟨c :: ran, stop?, hends.cons_of_accepted hc, fun noted => ?_, ?_⟩
        · rw [List.map_cons, run_cons_of_accepted (c := c.noting) ha (hnoting noted), hnoted]
          simp [Progress.behind, Check.noting]
        · have hopening : Event.line (.running c.name) = c.opening := rfl
          rw [Progress.result_behind, Progress.behind, List.map_append, hlines]
          simp [hopening]
      · rw [run_cons_of_not_accepted ha hc hne]
        refine ⟨[c], some c, .cons_of_not_accepted hc hne, fun noted => ?_, ?_⟩
        · rw [List.map_cons, run_cons_of_not_accepted (c := c.noting) ha (hnoting noted) hne]
          simp [Check.noting]
        · rcases outcome with fault | (_ | r)
          · rfl
          · exact absurd rfl hne
          · rfl
    · obtain ⟨ran, stop?, hends, hnoted, hlines⟩ := ih s
      rw [List.filter_cons_of_neg (by simp [ha]), run_cons_of_not_applies ha]
      refine ⟨ran, stop?, hends, fun noted => ?_, hlines⟩
      rw [List.map_cons, run_cons_of_not_applies (c := c.noting) ha, hnoted]

/-- A checklist ends as its checks that apply do, the checks that it runs are those of that ending,
and its log has one line for each of them and one for what stopped it. -/
theorem ends_run (checks : List (Check σ)) (s : σ) :
    ∃ stop?, Ends s (checks.filter Check.applies) (ran checks s) stop? (run checks s).result
        (run checks s).state ∧
      run (checks.map Check.noting) (s, []) =
        ⟨(run checks s).stopped, ((run checks s).state, ran checks s), (run checks s).events⟩ ∧
      (run checks s).events.map Event.line =
        (ran checks s).map Check.opening ++ Check.closing stop? (run checks s).result := by
  obtain ⟨ran', stop?, hends, hnoted, hlines⟩ := exists_ends checks s
  have hran : ran checks s = ran' := by rw [ran, hnoted, List.nil_append]
  rw [hran]
  exact ⟨stop?, hends, hnoted [], hlines⟩

/-! ## Checklists behind one another -/

theorem run_append_of_not_accepted (h : (run before s).result ≠ .ok .accepted) :
    run (before ++ after) s = run before s := by
  rw [run, List.foldl_append]
  refine Progress.foldl_step_of_stopped ?_ after
  exact Option.isSome_iff_ne_none.2 (mt stopped_eq_none_iff.1 h)

theorem run_append_of_accepted (h : (run before s).result = .ok .accepted) :
    run (before ++ after) s = (run after (run before s).state).behind (run before s).events := by
  have hstart : run before s = (Progress.start (run before s).state).behind (run before s).events := by
    simp [Progress.behind, Progress.start, ← stopped_eq_none_iff.2 h]
  rw [run, List.foldl_append]
  show after.foldl Progress.step (run before s) = _
  conv_lhs => rw [hstart]
  rw [Progress.foldl_step_behind]
  rfl

/-- Steady checks come to the same result from every state. -/
theorem result_run_of_steady (h : ∀ c ∈ checks, c.IsSteady) (s t : σ) :
    (run checks s).result = (run checks t).result := by
  induction checks generalizing s t with
  | nil => rfl
  | cons c checks ih =>
    rw [List.forall_mem_cons] at h
    rcases Bool.eq_false_or_eq_true c.applies with ha | ha
    · rcases hs : c.body s with ⟨outcome, s'⟩
      rcases ht : c.body t with ⟨outcome', t'⟩
      have houtcome : outcome' = outcome := by simpa [hs, ht] using h.1 t s
      subst houtcome
      by_cases hne : outcome' = .ok .accepted
      · subst hne
        rw [run_cons_of_accepted ha hs, run_cons_of_accepted ha ht]
        exact ih h.2 s' t'
      · rw [run_cons_of_not_accepted ha hs hne, run_cons_of_not_accepted ha ht hne]
        rfl
    · rw [run_cons_of_not_applies ha, run_cons_of_not_applies ha]
      exact ih h.2 s t

/-- The result of a checklist depends on the results of its second part alone, from any state. -/
theorem result_run_append_congr {after' : List (Check σ)}
    (h : ∀ t, (run after t).result = (run after' t).result) :
    (run (before ++ after) s).result = (run (before ++ after') s).result := by
  by_cases hb : (run before s).result = .ok .accepted
  · rw [run_append_of_accepted hb, run_append_of_accepted hb, Progress.result_behind,
      Progress.result_behind, h]
  · rw [run_append_of_not_accepted hb, run_append_of_not_accepted hb]

/-- A check that accepts in every state is not missed, if it leaves the state alone or nothing
behind it depends on the state. -/
theorem result_run_cons_of_accepting (hc : ∀ t, (c.body t).1 = .ok .accepted)
    (hafter : (∀ t, (c.body t).2 = t) ∨ ∀ d ∈ after, d.IsSteady) (s : σ) :
    (run (c :: after) s).result = (run after s).result := by
  rcases Bool.eq_false_or_eq_true c.applies with ha | ha
  · have hbody : c.body s = (.ok .accepted, (c.body s).2) := Prod.ext (hc s) rfl
    rw [run_cons_of_accepted ha hbody, Progress.result_behind]
    rcases hafter with hstate | hsteady
    · rw [hstate]
    · exact result_run_of_steady hsteady _ _
  · rw [run_cons_of_not_applies ha]

/-- **Checklists stop at the first objection.** Whatever the checks do to the state:

1. A checklist ends as its checks that apply do, run one after another up to the first that does
   not accept, and hands on what that one came to. It runs these checks and no others, as notes in
   the state show that change nothing else; it logs a line for each and one for what stopped it.
2. Behind a checklist that does not accept, nothing is looked at; behind one that accepts, the
   second one decides, from the state that the first one left.
3. A check that does not apply may stand anywhere.
4. So may one that accepts, as far as the result goes, if nothing behind it depends on the state or
   it leaves the state alone. -/
theorem stops_at_first_objection :
    (∀ (checks : List (Check σ)) (s : σ), ∃ stop?,
      Ends s (checks.filter Check.applies) (ran checks s) stop? (run checks s).result
        (run checks s).state ∧
      run (checks.map Check.noting) (s, []) =
        ⟨(run checks s).stopped, ((run checks s).state, ran checks s), (run checks s).events⟩ ∧
      (run checks s).events.map Event.line =
        (ran checks s).map Check.opening ++ Check.closing stop? (run checks s).result) ∧
    (∀ (before after : List (Check σ)) (s : σ),
      ((run before s).result ≠ .ok .accepted → run (before ++ after) s = run before s) ∧
      ((run before s).result = .ok .accepted →
        (run (before ++ after) s).result = (run after (run before s).state).result ∧
        ((∀ c ∈ after, c.IsSteady) →
          (run (before ++ after) s).result = (run after s).result))) ∧
    (∀ (before after : List (Check σ)) (c : Check σ) (s : σ), c.applies = false →
      run (before ++ c :: after) s = run (before ++ after) s) ∧
    (∀ (before after : List (Check σ)) (c : Check σ) (s : σ),
      (∀ t, (c.body t).1 = .ok .accepted) →
      ((∀ t, (c.body t).2 = t) ∨ ∀ d ∈ after, d.IsSteady) →
      (run (before ++ c :: after) s).result = (run (before ++ after) s).result) := by
  refine ⟨ends_run, fun before after s => ⟨run_append_of_not_accepted, fun hb => ?_⟩, ?_, ?_⟩
  · rw [run_append_of_accepted hb, Progress.result_behind]
    exact ⟨rfl, fun hsteady => result_run_of_steady hsteady _ s⟩
  · intro before after c s hc
    rw [run, run, List.foldl_append, List.foldl_append, List.foldl_cons,
      Progress.step_of_not_applies hc]
  · intro before after c s hc hafter
    exact result_run_append_congr (result_run_cons_of_accepting hc hafter)

/-- A check that does not apply is passed over, and none is run behind one that rejects. -/
example :
    (ran [⟨"first", true, fun n => (.ok .accepted, n + 1)⟩,
      ⟨"skipped", false, fun n => (.ok (.reject .vmNotFound), n + 1)⟩,
      ⟨"rejecting", true, fun n => (.ok (.reject .vmNotFound), n + 1)⟩,
      ⟨"last", true, fun n => (.error (.unknownOs 0), n + 1)⟩] 0).map Check.name =
    ["first", "rejecting"] := rfl

end Checklist

end VmAdmission
