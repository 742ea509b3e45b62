import VmAdmission.Proofs.CommandLine.Report

/-!
# What the exit status says

A command line is refused, or asks for information, or requests a verdict; and a verdict that is
requested is reached (`Judges`) unless something stands in its way (`Undecided`). Each way to end
has its exit status (`Ending`). It is 1 exactly if a verdict that is requested is not reached. It is
2 if the verdict is a rejection, and also if the command line is refused
(`exit_status_classifies`); only a rejection is shown on the standard output. So a caller who forgets
the scenario sees the status of a rejection, though no verdict was reached
(`refused_as_if_rejected`).
-/

namespace VmAdmission.CommandLine

variable {read : String → Option String} {args : List String} {path : String}
  {config : Option String} {v : Verdict}

/-! ## What is asked for -/

/-- The command line is refused, as it cannot be understood and asks nothing about the command. -/
def Refuses (args : List String) : Prop :=
  ∃ e, Arguments.parse args = .error e ∧ ∀ about, e ≠ .inquiry about

/-- The command line asks about the command, or for the schema. -/
def Informs (args : List String) : Prop :=
  (∃ about, Arguments.parse args = .error (.inquiry about)) ∨
    ∃ a, Arguments.parse args = .ok a ∧ .schema ∈ a.switches

/-- The command line requests a verdict on the scenario in a file, by the tables in another or by
the built-in ones. -/
def Requests (args : List String) (path : String) (config : Option String) : Prop :=
  ∃ a, Arguments.parse args = .ok a ∧ .schema ∉ a.switches ∧ a.scenario = some path ∧
    a.config = config

/-- A verdict is requested on a scenario that is loaded, by tables that are loaded, and reached. -/
def Judges (read : String → Option String) (args : List String) (v : Verdict) : Prop :=
  ∃ path config s c, Requests args path config ∧ scenarioIn read path = some s ∧
    tablesIn read config = some c ∧ s.operation.judge s.inventory c = .ok v

/-! ## What a command comes to -/

theorem status_run_of_informs (h : Informs args) : (run read args).status = 0 := by
  rcases h with ⟨about, hparse⟩ | ⟨a, hparse, hschema⟩
  · simp only [run, hparse, Report.status]
  · simp only [run, hparse, if_pos hschema, Report.status]

/-- A refusal is told apart from a rejection by the standard output alone. -/
theorem status_run_of_refuses (read : String → Option String) (h : Refuses args) :
    (run read args).status = 2 ∧ (run read args).output = "" := by
  obtain ⟨e, hparse, hne⟩ := h
  have hrun : run read args = .misused e := by simp only [run, hparse]
  rw [hrun]
  cases e with
  | inquiry about => exact absurd rfl (hne about)
  | _ => exact ⟨rfl, rfl⟩

theorem exists_run_of_judges (h : Judges read args v) :
    ∃ asJson, run read args = .decided v asJson := by
  obtain ⟨path, config, s, c, ⟨a, hparse, hschema, hpath, rfl⟩, hs, hc, hv⟩ := h
  exact ⟨_, run_of_judge_ok hparse hschema hpath (judge_eq_ok_iff.2 ⟨s, c, hs, hc, hv⟩)⟩

theorem status_run_of_judges (h : Judges read args v) :
    (run read args).status = if v = .accepted then 0 else 2 := by
  obtain ⟨asJson, hrun⟩ := exists_run_of_judges h
  rw [hrun]
  exact (Report.shows_decided v asJson).status

theorem output_run_ne_of_judges (h : Judges read args v) : (run read args).output ≠ "" := by
  obtain ⟨asJson, hrun⟩ := exists_run_of_judges h
  rw [hrun]
  exact Report.output_decided_ne v asJson

theorem status_run_of_undecided (hrequest : Requests args path config)
    (h : Undecided read path config) : (run read args).status = 1 := by
  obtain ⟨a, hparse, hschema, hpath, rfl⟩ := hrequest
  obtain ⟨failure, hjudge⟩ := exists_judge_eq_error_iff.2 h
  rw [run_of_judge_error hparse hschema hpath hjudge]
  rfl

/-! ## How a command ends -/

/-- A request is met with a verdict, unless something stands in the way. -/
theorem Requests.undecided_or_judges (read : String → Option String)
    (h : Requests args path config) :
    Undecided read path config ∨ ∃ v, Judges read args v := by
  cases hjudge : judge read path config with
  | error failure => exact .inl (exists_judge_eq_error_iff.1 ⟨failure, hjudge⟩)
  | ok v =>
    obtain ⟨s, c, hs, hc, hv⟩ := judge_eq_ok_iff.1 hjudge
    exact .inr ⟨v, path, config, s, c, h, hs, hc, hv⟩

/-- A command line that is not refused informs or requests a verdict. -/
theorem refuses_or_informs_or_requests (args : List String) :
    Refuses args ∨ Informs args ∨ ∃ path config, Requests args path config := by
  cases hparse : Arguments.parse args with
  | error e =>
    by_cases hinquiry : ∃ about, e = .inquiry about
    · obtain ⟨about, rfl⟩ := hinquiry
      exact .inr (.inl (.inl ⟨about, hparse⟩))
    · exact .inl ⟨e, hparse, fun about he => hinquiry ⟨about, he⟩⟩
  | ok a =>
    by_cases hschema : .schema ∈ a.switches
    · exact .inr (.inl (.inr ⟨a, hparse, hschema⟩))
    cases hpath : a.scenario with
    | none => exact absurd ((Arguments.isWellFormed_of_parse hparse).scenario_given hpath) hschema
    | some path => exact .inr (.inr ⟨path, a.config, a, hparse, hschema, hpath, rfl⟩)

/-- How a command may end, and the exit status that it ends with. -/
inductive Ending (read : String → Option String) (args : List String) : UInt32 → Prop
  | informed (h : Informs args) : Ending read args 0
  | accepted (h : Judges read args .accepted) : Ending read args 0
  | undecided {path : String} {config : Option String} (hrequest : Requests args path config)
    (h : Undecided read path config) : Ending read args 1
  | rejected {r : Rejection} (h : Judges read args (.rejected r)) : Ending read args 2
  | refused (h : Refuses args) : Ending read args 2

theorem ending_run (read : String → Option String) (args : List String) :
    Ending read args (run read args).status := by
  rcases refuses_or_informs_or_requests args with hrefuses | hinforms | ⟨path, config, hrequest⟩
  · rw [(status_run_of_refuses read hrefuses).1]
    exact .refused hrefuses
  · rw [status_run_of_informs hinforms]
    exact .informed hinforms
  rcases hrequest.undecided_or_judges read with hundecided | ⟨v, hjudges⟩
  · rw [status_run_of_undecided hrequest hundecided]
    exact .undecided hrequest hundecided
  · rw [status_run_of_judges hjudges]
    cases v with
    | accepted => exact .accepted hjudges
    | rejected r => exact .rejected hjudges

namespace Ending

variable {status : UInt32}

theorem of_status_two (h : Ending read args status) (hstatus : status = 2) :
    (∃ r, Judges read args (.rejected r)) ∨ Refuses args := by
  cases h with
  | informed => exact absurd hstatus (by decide)
  | accepted => exact absurd hstatus (by decide)
  | undecided => exact absurd hstatus (by decide)
  | @rejected r h => exact .inl ⟨r, h⟩
  | refused h => exact .inr h

theorem of_status_one (h : Ending read args status) (hstatus : status = 1) :
    ∃ path config, Requests args path config ∧ Undecided read path config := by
  cases h with
  | informed => exact absurd hstatus (by decide)
  | accepted => exact absurd hstatus (by decide)
  | @undecided path config hrequest h => exact ⟨path, config, hrequest, h⟩
  | rejected => exact absurd hstatus (by decide)
  | refused => exact absurd hstatus (by decide)

theorem of_status_zero (h : Ending read args status) (hstatus : status = 0) :
    Judges read args .accepted ∨ Informs args := by
  cases h with
  | informed h => exact .inr h
  | accepted h => exact .inl h
  | undecided => exact absurd hstatus (by decide)
  | rejected => exact absurd hstatus (by decide)
  | refused => exact absurd hstatus (by decide)

end Ending

/-- **The exit status.** It is 2 exactly if the verdict that is requested is a rejection or the
command line is refused; 1 exactly if a verdict is requested and something stands in its way; and 0
exactly if the verdict is an acceptance or no more than information is asked for. Of the two ways to
end with 2, a rejection alone prints something, and where the command line is refused no verdict is
reached. -/
theorem exit_status_classifies (read : String → Option String) (args : List String) :
    ((run read args).status = 2 ↔ (∃ r, Judges read args (.rejected r)) ∨ Refuses args) ∧
    ((run read args).status = 1 ↔
      ∃ path config, Requests args path config ∧ Undecided read path config) ∧
    ((run read args).status = 0 ↔ Judges read args .accepted ∨ Informs args) ∧
    ((∃ v, Judges read args v) → (run read args).output ≠ "") ∧
    (Refuses args → (run read args).output = "" ∧ ¬ ∃ v, Judges read args v) := by
  have hending := ending_run read args
  refine ⟨⟨hending.of_status_two, ?_⟩, ⟨hending.of_status_one, ?_⟩, ⟨hending.of_status_zero, ?_⟩,
    fun ⟨_, hjudges⟩ => output_run_ne_of_judges hjudges, fun hrefuses => ?_⟩
  · rintro (⟨r, hjudges⟩ | hrefuses)
    · exact status_run_of_judges hjudges
    · exact (status_run_of_refuses read hrefuses).1
  · rintro ⟨path, config, hrequest, hundecided⟩
    exact status_run_of_undecided hrequest hundecided
  · rintro (hjudges | hinforms)
    · exact status_run_of_judges hjudges
    · exact status_run_of_informs hinforms
  · have hnothing := (status_run_of_refuses read hrefuses).2
    refine ⟨hnothing, ?_⟩
    rintro ⟨v, hjudges⟩
    exact output_run_ne_of_judges hjudges hnothing

/-- Without a scenario the command line is refused, and ends as if there had been a rejection. -/
theorem refused_as_if_rejected :
    (run (fun _ => none) []).status = 2 ∧ ¬ ∃ v, Judges (fun _ => none) [] v := by
  refine ⟨rfl, ?_⟩
  rintro ⟨v, path, config, s, c, ⟨a, hparse, -⟩, -⟩
  have hrefused : Arguments.parse [] = .error .missingScenario := rfl
  rw [hrefused] at hparse
  cases hparse

end VmAdmission.CommandLine
