import VmAdmission.CommandLine.Report
import VmAdmission.Proofs.Codec.Entities
import VmAdmission.Proofs.CommandLine.Arguments
import VmAdmission.Proofs.ConsistentTables
import VmAdmission.Proofs.HostedEngine

/-!
# The command answers what the engine answers

What stands in the way of a verdict is that the file holds no scenario, that the tables are refused,
or that judging meets a fault (`Undecided`). Then, and only then, the command exits with 1 and prints
nothing. Otherwise it shows the verdict on the scenario's operation (`Report.Shows`), in the exit
status and on the standard output. `command_answers_engine` says so of everything that a command
line can give, the schema apart, and that what is logged makes no difference.
-/

namespace VmAdmission

/-- The lines that show a verdict. -/
def Verdict.lines : Verdict → List String
  | .accepted => ["accepted"]
  | .rejected r =>
    ("rejected: " ++ r.reason.code) ::
      r.params.map fun s => "  $" ++ s.placeholder ++ " " ++ s.value

namespace CommandLine

variable {read : String → Option String} {path : String} {config : Option String} {v : Verdict}

/-! ## What the files hold -/

section Files

/-- The scenario that a file holds. -/
def scenarioIn (read : String → Option String) (path : String) : Option Scenario :=
  (read path).bind fun text => (Json.parse Scenario.codec text).toOption

/-- The tables that a file holds, or the built-in ones where none is named, if they are taken
in. -/
def tablesIn (read : String → Option String) : Option String → Option Capabilities
  | none => (Capabilities.parse Capabilities.builtInText).toOption
  | some path => (read path).bind fun text => (Capabilities.parse text).toOption

/-- The file holds no scenario, the tables are refused, or judging the operation meets a fault. -/
def Undecided (read : String → Option String) (path : String) (config : Option String) : Prop :=
  scenarioIn read path = none ∨ tablesIn read config = none ∨
    ∃ s c fault, scenarioIn read path = some s ∧ tablesIn read config = some c ∧
      s.operation.judge s.inventory c = .error fault

theorem toOption_loadScenario : (loadScenario read path).toOption = scenarioIn read path := by
  unfold loadScenario scenarioIn
  cases read path <;> simp

theorem toOption_loadCapabilities :
    (loadCapabilities read config).toOption = tablesIn read config := by
  cases config with
  | none =>
    rw [tablesIn, Capabilities.parse_builtInText]
    rfl
  | some path =>
    rw [loadCapabilities, tablesIn]
    cases read path <;> simp

theorem toOption_judge :
    (judge read path config).toOption = (scenarioIn read path).bind fun s =>
      (tablesIn read config).bind fun c => (s.operation.judge s.inventory c).toOption := by
  simp only [judge, toOption_bind, toOption_loadScenario, toOption_loadCapabilities,
    toOption_mapError]

theorem judge_eq_ok_iff :
    judge read path config = .ok v ↔
      ∃ s c, scenarioIn read path = some s ∧ tablesIn read config = some c ∧
        s.operation.judge s.inventory c = .ok v := by
  rw [← toOption_eq_some_iff, toOption_judge]
  simp only [Option.bind_eq_some_iff, toOption_eq_some_iff]
  constructor
  · rintro ⟨s, hs, c, hc, hv⟩
    exact ⟨s, c, hs, hc, hv⟩
  · rintro ⟨s, c, hs, hc, hv⟩
    exact ⟨s, hs, c, hc, hv⟩

/-- No verdict is reached exactly if something stands in its way. -/
theorem exists_judge_eq_error_iff :
    (∃ failure, judge read path config = .error failure) ↔ Undecided read path config := by
  have hundecided : (judge read path config).toOption = none ↔ Undecided read path config := by
    rw [toOption_judge, Undecided]
    cases scenarioIn read path with
    | none => simp
    | some s =>
      cases tablesIn read config with
      | none => simp
      | some c => cases hv : s.operation.judge s.inventory c <;> simp [hv]
  rw [← hundecided]
  cases judge read path config <;> simp

end Files

/-! ## What is shown -/

namespace Report

/-- The report shows a verdict: in the exit status, and on the standard output as lines or, if so
asked, as a JSON document. -/
structure Shows (r : Report) (v : Verdict) (asJson : Bool) : Prop where
  status : r.status = if v = .accepted then 0 else 2
  lines : asJson = false → r.output = String.join (v.lines.map (· ++ "\n"))
  json : asJson = true → Json.parse Verdict.codec r.output = .ok v

theorem showVerdict_eq (v : Verdict) : showVerdict v = String.join (v.lines.map (· ++ "\n")) := by
  cases v with
  | accepted => rfl
  | rejected r =>
    have hline : ((· ++ "\n") ∘ fun s : Substitution => "  $" ++ s.placeholder ++ " " ++ s.value) =
        fun s => "  " ++ s.render ++ "\n" := by
      funext s
      simp only [Function.comp, Substitution.render, ← String.append_assoc]
      rfl
    rw [showVerdict, Verdict.lines, List.map_cons, List.map_map, hline, String.join_cons]

theorem shows_decided (v : Verdict) (asJson : Bool) : (decided v asJson).Shows v asJson where
  status := by cases v <;> rfl
  lines := by
    rintro rfl
    exact showVerdict_eq v
  json := by
    rintro rfl
    exact Verdict.codec_roundTrips.parse_line (by decide) v

/-- A verdict is never shown by nothing. -/
theorem output_decided_ne (v : Verdict) (asJson : Bool) : (decided v asJson).output ≠ "" := by
  cases asJson with
  | true => simp [output]
  | false => cases v <;> simp [output, showVerdict]

end Report

/-! ## The command -/

namespace Arguments

/-- Two command lines give the same, but perhaps for whether every check is logged. -/
structure AgreesButDebug (a a' : Arguments) : Prop where
  scenario : a.scenario = a'.scenario
  config : a.config = a'.config
  switches : ∀ s, s ≠ .debug → (s ∈ a.switches ↔ s ∈ a'.switches)

end Arguments

section Command

variable {a a' : Arguments} {args args' : List String}

theorem run_of_judge_ok (h : Arguments.parse args = .ok a) (hschema : .schema ∉ a.switches)
    (hpath : a.scenario = some path) (hjudge : judge read path a.config = .ok v) :
    run read args = .decided v (.json ∈ a.switches) := by
  simp [run, h, hschema, hpath, hjudge]

theorem run_of_judge_error {failure : Failure} (h : Arguments.parse args = .ok a)
    (hschema : .schema ∉ a.switches) (hpath : a.scenario = some path)
    (hjudge : judge read path a.config = .error failure) :
    run read args = .undecided failure := by
  simp [run, h, hschema, hpath, hjudge]

theorem run_eq_of_agreesButDebug (h : Arguments.parse args = .ok a)
    (h' : Arguments.parse args' = .ok a') (hagrees : a.AgreesButDebug a') :
    run read args = run read args' := by
  have hschema := hagrees.switches .schema nofun
  have hjson := hagrees.switches .json nofun
  simp only [run, h, h', hagrees.scenario, hagrees.config, hschema, hjson]

theorem judge_congr {read' : String → Option String} (hscenario : read path = read' path)
    (hconfig : ∀ p ∈ config, read p = read' p) :
    judge read path config = judge read' path config := by
  have hs : loadScenario read path = loadScenario read' path := by
    rw [loadScenario, loadScenario, hscenario]
  have hc : loadCapabilities read config = loadCapabilities read' config := by
    cases config with
    | none => rfl
    | some p => rw [loadCapabilities, loadCapabilities, hconfig p rfl]
  rw [judge, judge, hs, hc]

/-- No file matters but those that the command names. -/
theorem run_congr {read' : String → Option String} (h : ∀ p ∈ paths args, read p = read' p) :
    run read args = run read' args := by
  unfold paths at h
  unfold run
  cases hparse : Arguments.parse args with
  | error e => rfl
  | ok a =>
    rw [hparse] at h
    cases hpath : a.scenario with
    | none => simp only [hpath]
    | some path =>
      have hjudge : judge read path a.config = judge read' path a.config :=
        judge_congr (h path (by simp [hpath])) fun p hp => h p (by simp [Option.mem_def.1 hp])
      simp only [hpath, hjudge]

/-- It is enough to read the files that the command names before it is run. -/
theorem run_lookup_paths : run (fun path =>
    (((paths args).map fun path => (path, read path)).lookup path).join) args = run read args :=
  run_congr fun _ hpath => by rw [List.lookup_graph read hpath, Option.join_some]

/-- **The command answers what the engine answers.** All that is well-formed can be given. If it is,
without asking for the schema, the command exits with 1, and prints nothing, exactly if something
stands in the way of a verdict. Otherwise it shows the verdict on the scenario's operation. That
every check is logged changes neither the exit status nor what is printed. -/
theorem command_answers_engine (read : String → Option String) {a : Arguments}
    (ha : a.IsWellFormed) (hschema : .schema ∉ a.switches) :
    (∃ args, Arguments.parse args = .ok a) ∧
    ∃ path, a.scenario = some path ∧ ∀ args, Arguments.parse args = .ok a →
      ((run read args).status = 1 ↔ Undecided read path a.config) ∧
      ((run read args).output = "" ↔ Undecided read path a.config) ∧
      (∀ s c v, scenarioIn read path = some s → tablesIn read a.config = some c →
        s.operation.judge s.inventory c = .ok v →
        (run read args).Shows v (.json ∈ a.switches)) ∧
      ∀ a' args', Arguments.parse args' = .ok a' → a.AgreesButDebug a' →
        (run read args').status = (run read args).status ∧
        (run read args').output = (run read args).output := by
  refine ⟨Arguments.exists_parse_eq_ok_iff.2 ha, ?_⟩
  cases hpath : a.scenario with
  | none => exact absurd (ha.scenario_given hpath) hschema
  | some path =>
    refine ⟨path, rfl, fun args h => ⟨?_, ?_, ?_, ?_⟩⟩
    · rw [← exists_judge_eq_error_iff]
      cases hjudge : judge read path a.config with
      | error failure => simp [run_of_judge_error h hschema hpath hjudge, Report.status]
      | ok v =>
        rw [run_of_judge_ok h hschema hpath hjudge]
        cases v <;> simp [Report.status]
    · rw [← exists_judge_eq_error_iff]
      cases hjudge : judge read path a.config with
      | error failure => simp [run_of_judge_error h hschema hpath hjudge, Report.output]
      | ok v => simp [run_of_judge_ok h hschema hpath hjudge, Report.output_decided_ne]
    · intro s c v hs hc hv
      rw [run_of_judge_ok h hschema hpath (judge_eq_ok_iff.2 ⟨s, c, hs, hc, hv⟩)]
      exact Report.shows_decided v _
    · intro a' args' h' hagrees
      rw [run_eq_of_agreesButDebug h h' hagrees]
      exact ⟨rfl, rfl⟩

section ReadOnly

/-- A disk on an interface that cannot be read-only. -/
def ideDisk (readOnly : Bool) : Disk :=
  { HostedEngine.data with interface := .ide, readOnly := readOnly, backing := .image 8 }

/-- A scenario that makes the disk read-only, written without keys. -/
def readOnlyText : String :=
  "[[[],[],[],[[\"44444444444444444444444444444444\",\"data\",\"ide\"," ++
  "false,null,false,false,[\"image\",8]]]]," ++
  "[\"update_disk\",[\"44444444444444444444444444444444\",\"data\",\"ide\"," ++
  "true,null,false,false,[\"image\",8]]]]"

/-- One file, with that scenario. -/
def readOnlyFiles (path : String) : Option String :=
  if path = "disk.json" then some readOnlyText else none

theorem scenarioIn_readOnlyFiles : scenarioIn readOnlyFiles "disk.json" =
    some ⟨{ Inventory.empty with disks := [ideDisk false] }, .updateDisk (ideDisk true) none⟩ := by
  decide +kernel

theorem command_answers_engine_read_only :
    (run readOnlyFiles ["-d", "disk.json"]).status = 2 ∧
    (run readOnlyFiles ["-d", "disk.json"]).output =
      "rejected: ACTION_TYPE_FAILED_INTERFACE_DOES_NOT_SUPPORT_READ_ONLY_ATTR\n" ++
      "  $interface IDE\n" ∧
    Json.parse Verdict.codec (run readOnlyFiles ["disk.json", "--json"]).output =
      .ok (.rejected ⟨.interfaceIsNotReadOnlyCapable, [⟨"interface", "IDE"⟩]⟩) := by
  have hshows (switch : Switch) (hne : switch ≠ .schema) (args : List String)
      (hargs : Arguments.parse args = .ok ⟨some "disk.json", none, [switch]⟩) :
      (run readOnlyFiles args).Shows
        (.rejected ⟨.interfaceIsNotReadOnlyCapable, [⟨"interface", "IDE"⟩]⟩)
        (.json ∈ [switch]) := by
    have hwell : Arguments.IsWellFormed ⟨some "disk.json", none, [switch]⟩ :=
      ⟨⟨List.nodup_singleton _, nofun, by simp⟩, nofun⟩
    obtain ⟨-, path, hpath, h⟩ := command_answers_engine readOnlyFiles hwell (by simp [hne.symm])
    cases hpath
    obtain ⟨-, -, hshows, -⟩ := h args hargs
    have htables : tablesIn readOnlyFiles none = some .builtIn := by
      rw [tablesIn, Capabilities.parse_builtInText]
      rfl
    exact hshows _ _ _ scenarioIn_readOnlyFiles htables (by decide +kernel)
  have hlines := hshows .debug nofun ["-d", "disk.json"] rfl
  have hjson := hshows .json nofun ["disk.json", "--json"] rfl
  exact ⟨hlines.status, hlines.lines rfl, hjson.json rfl⟩

end ReadOnly

end Command

end CommandLine

end VmAdmission
