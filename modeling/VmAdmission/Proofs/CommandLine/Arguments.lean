import VmAdmission.CommandLine.Arguments
import VmAdmission.Proofs.Fallible
import Mathlib.Data.List.Nodup

/-!
# Command lines

What a command line can give (`Arguments.IsWellFormed`): no switch twice, no file without a name,
and a scenario unless the schema is asked for. Whatever is read from a command line is of this form,
by an invariant of reading one argument after another, and whatever is of this form is read from the
command line that spells it out (`Arguments.parse_write`).
-/

namespace VmAdmission.CommandLine

/-! ## What a command line can give -/

namespace Arguments

/-- What the arguments so far can give. -/
structure IsPartial (a : Arguments) : Prop where
  switches_nodup : a.switches.Nodup
  config_ne : a.config ≠ some ""
  scenario_ne : a.scenario ≠ some ""

/-- What a whole command line can give. -/
structure IsWellFormed (a : Arguments) : Prop extends a.IsPartial where
  scenario_given : a.scenario = Option.none → .schema ∈ a.switches

variable {a a' : Arguments} {s : Switch} {path : String}

theorem isPartial_none : none.IsPartial := ⟨List.nodup_nil, nofun, nofun⟩

/-! ### One thing more -/

theorem addSwitch_eq_ok_iff :
    a.addSwitch s = .ok a' ↔ s ∉ a.switches ∧ a' = { a with switches := a.switches ++ [s] } := by
  unfold addSwitch
  by_cases h : s ∈ a.switches <;> simp [h, eq_comm]

theorem addConfig_eq_ok_iff :
    a.addConfig path = .ok a' ↔
      path ≠ "" ∧ a.config = Option.none ∧ a' = { a with config := some path } := by
  unfold addConfig
  cases hconfig : a.config <;> by_cases hpath : path = "" <;> simp [hpath, @eq_comm _ a']

theorem addScenario_eq_ok_iff :
    a.addScenario path = .ok a' ↔
      path ≠ "" ∧ a.scenario = Option.none ∧ a' = { a with scenario := some path } := by
  unfold addScenario
  cases hscenario : a.scenario <;> by_cases hpath : path = "" <;> simp [hpath, @eq_comm _ a']

namespace IsPartial

theorem addSwitch (h : a.IsPartial) (hadd : a.addSwitch s = .ok a') : a'.IsPartial := by
  obtain ⟨hs, rfl⟩ := addSwitch_eq_ok_iff.1 hadd
  have hnodup : (a.switches ++ [s]).Nodup := by
    rw [← List.concat_eq_append]
    exact List.Nodup.concat hs h.switches_nodup
  exact { h with switches_nodup := hnodup }

theorem addConfig (h : a.IsPartial) (hadd : a.addConfig path = .ok a') : a'.IsPartial := by
  obtain ⟨hpath, -, rfl⟩ := addConfig_eq_ok_iff.1 hadd
  exact { h with config_ne := fun hempty => hpath (Option.some.inj hempty) }

theorem addScenario (h : a.IsPartial) (hadd : a.addScenario path = .ok a') : a'.IsPartial := by
  obtain ⟨hpath, -, rfl⟩ := addScenario_eq_ok_iff.1 hadd
  exact { h with scenario_ne := fun hempty => hpath (Option.some.inj hempty) }

end IsPartial

end Arguments

/-! ## What is read can be given -/

namespace Reading

open Arguments

variable {a : Arguments} {r r' : Reading} {arg : String} {cs : List Char}

/-- One thing more is taken up, whatever may be next. -/
theorem isPartial_of_map {added : Except UsageError Arguments} {next : Expectation}
    (h : ∀ a, added = .ok a → a.IsPartial) (hread : added.map (⟨·, next⟩) = .ok r) :
    r.arguments.IsPartial := by
  obtain ⟨a, hadded, rfl⟩ := map_eq_ok_iff.1 hread
  exact h a hadded

theorem isPartial_readLetters (h : a.IsPartial) (hread : readLetters a cs = .ok r) :
    r.arguments.IsPartial := by
  fun_induction readLetters a cs with
  | case1 a =>
    cases hread
    exact h
  | case2 a letters e hadd => cases hread
  | case3 a letters a' hadd ih => exact ih (h.addSwitch hadd) hread
  | case4 a =>
    cases hread
    exact h
  | case5 a value => exact isPartial_of_map (fun _ => h.addConfig) hread
  | case6 a value => exact isPartial_of_map (fun _ => h.addConfig) hread
  | case7 => cases hread
  | case8 => cases hread

theorem isPartial_readName (h : a.IsPartial) (hread : readName a cs = .ok r) :
    r.arguments.IsPartial := by
  unfold readName at hread
  dsimp only at hread
  split at hread
  · -- the option, whose value may be missing
    split at hread
    · cases hread
      exact h
    · exact isPartial_of_map (fun _ => h.addConfig) hread
  · split at hread
    · -- an inquiry, which ends the reading
      cases hread
    · -- a switch, which may be unknown or have a value
      split at hread
      · cases hread
      · split at hread
        · exact isPartial_of_map (fun _ => h.addSwitch) hread
        · cases hread

theorem isPartial_read (h : r.arguments.IsPartial) (hread : r.read arg = .ok r') :
    r'.arguments.IsPartial := by
  unfold read at hread
  split at hread
  · exact isPartial_of_map (fun _ => h.addScenario) hread
  · split at hread
    · cases hread
    · exact isPartial_of_map (fun _ => h.addConfig) hread
  · split at hread
    · cases hread
      exact h
    · exact isPartial_readName h hread
    · exact isPartial_readLetters h hread
    · exact isPartial_of_map (fun _ => h.addScenario) hread

theorem isPartial_foldlM_read {args : List String} (h : r.arguments.IsPartial)
    (hread : args.foldlM read r = .ok r') : r'.arguments.IsPartial := by
  induction args generalizing r with
  | nil =>
    cases hread
    exact h
  | cons arg args ih =>
    rw [List.foldlM_cons] at hread
    obtain ⟨next, hnext, hread⟩ := bind_eq_ok_iff.1 hread
    exact ih (isPartial_read h hnext) hread

theorem finish_eq_ok_iff :
    r.finish = .ok a ↔ r.next ≠ .configValue ∧
      (r.arguments.scenario = Option.none → .schema ∈ r.arguments.switches) ∧
      r.arguments = a := by
  unfold finish
  by_cases hnext : r.next = .configValue
  · simp [hnext]
  · cases hscenario : r.arguments.scenario <;>
      by_cases hschema : .schema ∈ r.arguments.switches <;> simp [hnext, hscenario, hschema]

end Reading

namespace Arguments

variable {a : Arguments} {args : List String}

theorem parse_eq_ok_iff :
    parse args = .ok a ↔ ∃ r, args.foldlM Reading.read ⟨.none, .anything⟩ = .ok r ∧
      r.finish = .ok a :=
  bind_eq_ok_iff

theorem isWellFormed_of_parse (h : parse args = .ok a) : a.IsWellFormed := by
  obtain ⟨r, hread, hfinish⟩ := parse_eq_ok_iff.1 h
  obtain ⟨-, hgiven, rfl⟩ := Reading.finish_eq_ok_iff.1 hfinish
  exact ⟨Reading.isPartial_foldlM_read isPartial_none hread, hgiven⟩

end Arguments

/-! ## What can be given is read -/

namespace Arguments

/-- The argument that gives a switch. -/
def switchArgument (s : Switch) : String := "--" ++ s.name

/-- The argument that gives the file of capability tables. -/
def configArgument (path : String) : String := "--config=" ++ path

/-- The arguments that give the scenario's file, whatever it looks like. -/
def scenarioArguments (path : String) : List String := ["--", path]

/-- The command line that spells out the arguments. -/
def write (a : Arguments) : List String :=
  a.switches.map switchArgument ++ a.config.toList.map configArgument ++
    a.scenario.toList.flatMap scenarioArguments

variable {a : Arguments} {path : String} {s : Switch}

theorem read_switchArgument (h : s ∉ a.switches) :
    Reading.read ⟨a, .anything⟩ (switchArgument s) =
      .ok ⟨{ a with switches := a.switches ++ [s] }, .anything⟩ := by
  have hadd := addSwitch_eq_ok_iff.2 ⟨h, rfl⟩
  have hread : Reading.read ⟨a, .anything⟩ (switchArgument s) =
      (a.addSwitch s).map (⟨·, .anything⟩) := by
    cases s <;> rfl
  rw [hread, hadd]
  rfl

theorem read_configArgument (hpath : path ≠ "") (h : a.config = Option.none) :
    Reading.read ⟨a, .anything⟩ (configArgument path) =
      .ok ⟨{ a with config := some path }, .anything⟩ := by
  have hadd := addConfig_eq_ok_iff.2 ⟨hpath, h, rfl⟩
  have hread : Reading.read ⟨a, .anything⟩ (configArgument path) =
      (a.addConfig path).map (⟨·, .anything⟩) := by
    simp [Reading.read, configArgument, Reading.readName, configName]
  rw [hread, hadd]
  rfl

/-- Switches are taken up in their order. -/
theorem foldlM_read_switchArguments {ss : List Switch} (h : (a.switches ++ ss).Nodup) :
    (ss.map switchArgument).foldlM Reading.read ⟨a, .anything⟩ =
      .ok ⟨{ a with switches := a.switches ++ ss }, .anything⟩ := by
  induction ss generalizing a with
  | nil => simp [pure, Except.pure]
  | cons s ss ih =>
    have hs : s ∉ a.switches := fun hmem =>
      (List.nodup_append.1 h).2.2 s hmem s List.mem_cons_self rfl
    rw [List.append_cons] at h ⊢
    rw [List.map_cons, List.foldlM_cons, read_switchArgument hs, ok_bind, ih h]

theorem foldlM_read_configArgument {config : Option String} (hne : config ≠ some "")
    (h : a.config = Option.none) :
    (config.toList.map configArgument).foldlM Reading.read ⟨a, .anything⟩ =
      .ok ⟨{ a with config := config }, .anything⟩ := by
  cases config with
  | none =>
    cases a
    cases h
    rfl
  | some path =>
    have hpath : path ≠ "" := fun hempty => hne (congrArg some hempty)
    rw [Option.toList_some, List.map_singleton, List.foldlM_cons, read_configArgument hpath h]
    rfl

/-- Behind two hyphens alone, a file is taken up whatever it looks like. -/
theorem foldlM_read_scenarioArguments (hpath : path ≠ "") (h : a.scenario = Option.none) :
    (scenarioArguments path).foldlM Reading.read ⟨a, .anything⟩ =
      .ok ⟨{ a with scenario := some path }, .file⟩ := by
  have hread : (scenarioArguments path).foldlM Reading.read ⟨a, .anything⟩ =
      (a.addScenario path).map (⟨·, .file⟩) >>= pure := rfl
  rw [hread, addScenario_eq_ok_iff.2 ⟨hpath, h, rfl⟩]
  rfl

/-- The command line that spells out what can be given is read as that. -/
theorem parse_write (h : a.IsWellFormed) : parse a.write = .ok a := by
  obtain ⟨scenario, config, switches⟩ := a
  rw [parse_eq_ok_iff, write, List.foldlM_append, List.foldlM_append]
  rw [foldlM_read_switchArguments (a := none) h.switches_nodup, ok_bind,
    foldlM_read_configArgument h.config_ne rfl, ok_bind]
  cases scenario with
  | none => exact ⟨_, rfl, Reading.finish_eq_ok_iff.2 ⟨nofun, h.scenario_given, rfl⟩⟩
  | some path =>
    have hpath : path ≠ "" := fun hempty => h.scenario_ne (congrArg some hempty)
    rw [Option.toList_some, List.flatMap_singleton, foldlM_read_scenarioArguments hpath rfl]
    exact ⟨_, rfl, Reading.finish_eq_ok_iff.2 ⟨nofun, nofun, rfl⟩⟩

/-- Exactly what is of this form can be given. -/
theorem exists_parse_eq_ok_iff : (∃ args, parse args = .ok a) ↔ a.IsWellFormed :=
  ⟨fun ⟨_, h⟩ => isWellFormed_of_parse h, fun h => ⟨a.write, parse_write h⟩⟩

end Arguments

end VmAdmission.CommandLine
