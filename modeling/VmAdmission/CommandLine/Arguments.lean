/-!
# Arguments of the command line

Switches, an option that takes a value, and the scenario's file stand in any order. Switches of one
letter may be joined, and the option's value may follow its letter directly. Behind `--` everything
is a file. Nothing may be given twice, and no name is abbreviated. A command line may also ask about
the command itself; it is then answered at once, and nothing behind the question is looked at.
-/

namespace VmAdmission.CommandLine

/-! ## What may be given -/

/-- A switch, which takes no value. -/
inductive Switch where
  /-- Print the verdict as JSON. -/
  | json
  /-- Log every check. -/
  | debug
  /-- Print the schema of scenarios, and do nothing else. -/
  | schema
deriving DecidableEq

namespace Switch

/-- All switches. -/
def all : List Switch := [.json, .debug, .schema]

/-- The name of a switch. -/
def name : Switch → String
  | .json => "json"
  | .debug => "debug"
  | .schema => "schema"

/-- The switch with a name. -/
def ofName? (s : String) : Option Switch := all.find? (·.name = s)

end Switch

/-- The name of the option that takes the capability tables' file. -/
def configName : String := "config"

/-- What a command line may ask about the command itself. -/
inductive Inquiry where
  /-- How the command is used, in brief. -/
  | summary
  /-- How the command is used. -/
  | help
  /-- Which version of the command this is. -/
  | version
deriving DecidableEq

namespace Inquiry

/-- The inquiry with a letter. -/
def ofLetter? : Char → Option Inquiry
  | 'h' => some .summary
  | 'V' => some .version
  | _ => none

/-- The inquiry with a name. -/
def ofName? : String → Option Inquiry
  | "help" => some .help
  | "version" => some .version
  | _ => none

/-- The answer to an inquiry, line by line. -/
def lines : Inquiry → List String
  | .summary =>
    ["Decide whether a VM or disk operation would be allowed",
     "",
     "Usage: vmconf-check [OPTIONS] [SCENARIO]",
     "",
     "Arguments:",
     "  [SCENARIO]  JSON file holding the inventory snapshot and the operation to check",
     "",
     "Options:",
     "  -c, --config <CONFIG>  TOML file with the OS and compatibility-version capability tables",
     "      --json             Print the outcome as JSON",
     "  -d, --debug            Enable debug logging of each check",
     "      --schema           Print the JSON schema of scenario files and exit",
     "  -h, --help             Print help (see more with '--help')",
     "  -V, --version          Print version"]
  | .help =>
    ["Decide whether a VM or disk operation would be allowed.",
     "",
     "Exits 0 when the operation is accepted, 2 when it is rejected and 1 when no decision " ++
       "could be reached.",
     "",
     "Usage: vmconf-check [OPTIONS] [SCENARIO]",
     "",
     "Arguments:",
     "  [SCENARIO]",
     "          JSON file holding the inventory snapshot and the operation to check",
     "",
     "Options:",
     "  -c, --config <CONFIG>",
     "          TOML file with the OS and compatibility-version capability tables",
     "",
     "      --json",
     "          Print the outcome as JSON",
     "",
     "  -d, --debug",
     "          Enable debug logging of each check",
     "",
     "      --schema",
     "          Print the JSON schema of scenario files and exit",
     "",
     "  -h, --help",
     "          Print help (see a summary with '-h')",
     "",
     "  -V, --version",
     "          Print version"]
  | .version => ["vmconf-check 0.1.0"]

/-- The answer to an inquiry. -/
def answer (about : Inquiry) : String :=
  "\n".intercalate about.lines ++ "\n"

end Inquiry

/-- What is given on a command line. -/
structure Arguments where
  scenario : Option String
  config : Option String
  switches : List Switch
deriving DecidableEq

/-- Why a command line is not carried out: it asks about the command instead, or it is refused. -/
inductive UsageError where
  | inquiry (about : Inquiry)
  | unknownOption (text : String)
  | repeatedOption (name : String)
  | missingValue (name : String)
  | unexpectedValue (name : String)
  | emptyValue
  | surplusFile (path : String)
  | missingScenario
deriving DecidableEq

/-- The wording of a refusal, and the answer to an inquiry. -/
def UsageError.message : UsageError → String
  | .inquiry about => about.answer
  | .unknownOption text => "unexpected argument '" ++ text ++ "' found"
  | .repeatedOption name => "the argument '--" ++ name ++ "' cannot be used multiple times"
  | .missingValue name => "a value is required for '--" ++ name ++ "' but none was supplied"
  | .unexpectedValue name => "unexpected value for '--" ++ name ++ "'; no more were expected"
  | .emptyValue => "a value is required but none was supplied"
  | .surplusFile path => "unexpected argument '" ++ path ++ "' found"
  | .missingScenario => "the following required arguments were not provided: <SCENARIO>"

namespace Arguments

/-- Nothing. -/
def none : Arguments := ⟨.none, .none, []⟩

/-- The arguments with a switch. -/
def addSwitch (a : Arguments) (s : Switch) : Except UsageError Arguments :=
  if s ∈ a.switches then .error (.repeatedOption s.name)
  else .ok { a with switches := a.switches ++ [s] }

/-- The arguments with a file of capability tables. -/
def addConfig (a : Arguments) (path : String) : Except UsageError Arguments :=
  if path.isEmpty then .error .emptyValue
  else if a.config.isSome then .error (.repeatedOption configName)
  else .ok { a with config := some path }

/-- The arguments with a scenario's file. -/
def addScenario (a : Arguments) (path : String) : Except UsageError Arguments :=
  if path.isEmpty then .error .emptyValue
  else if a.scenario.isSome then .error (.surplusFile path)
  else .ok { a with scenario := some path }

end Arguments

/-! ## Reading -/

/-- What the next argument may be. -/
inductive Expectation where
  | anything
  /-- The value of the option before it. -/
  | configValue
  /-- A file, whatever it looks like. -/
  | file
deriving DecidableEq

/-- The arguments so far, and what the next one may be. -/
structure Reading where
  arguments : Arguments
  next : Expectation

namespace Reading

/-- Reads letters joined behind one hyphen. All that follows the option's letter is its value, less
an equals sign in front; what follows the letter of an inquiry is not looked at. -/
def readLetters (a : Arguments) : List Char → Except UsageError Reading
  | [] => .ok ⟨a, .anything⟩
  | 'd' :: letters =>
    match a.addSwitch .debug with
    | .error e => .error e
    | .ok a => readLetters a letters
  | ['c'] => .ok ⟨a, .configValue⟩
  | 'c' :: '=' :: value => (a.addConfig (.ofList value)).map (⟨·, .anything⟩)
  | 'c' :: value => (a.addConfig (.ofList value)).map (⟨·, .anything⟩)
  | letter :: _ =>
    match Inquiry.ofLetter? letter with
    | some about => .error (.inquiry about)
    | none => .error (.unknownOption (.ofList ['-', letter]))

/-- Reads a name behind two hyphens, and its value if an equals sign separates one. -/
def readName (a : Arguments) (cs : List Char) : Except UsageError Reading :=
  let name := String.ofList (cs.takeWhile (· ≠ '='))
  let value? :=
    match cs.dropWhile (· ≠ '=') with
    | [] => none
    | _ :: value => some (String.ofList value)
  if name = configName then
    match value? with
    | none => .ok ⟨a, .configValue⟩
    | some value => (a.addConfig value).map (⟨·, .anything⟩)
  else
    match Inquiry.ofName? name with
    | some about => .error (if value?.isSome then .unexpectedValue name else .inquiry about)
    | none =>
      match Switch.ofName? name with
      | none => .error (.unknownOption ("--" ++ name))
      | some s =>
        if value?.isSome then .error (.unexpectedValue name)
        else (a.addSwitch s).map (⟨·, .anything⟩)

/-- Whether an argument looks like an option; a hyphen alone does not. -/
def looksLikeOption (arg : String) : Bool :=
  match arg.toList with
  | '-' :: _ :: _ => true
  | _ => false

/-- Reads one more argument. -/
def read (r : Reading) (arg : String) : Except UsageError Reading :=
  match r.next with
  | .file => (r.arguments.addScenario arg).map (⟨·, .file⟩)
  | .configValue =>
    if looksLikeOption arg then .error (.missingValue configName)
    else (r.arguments.addConfig arg).map (⟨·, .anything⟩)
  | .anything =>
    match arg.toList with
    | ['-', '-'] => .ok ⟨r.arguments, .file⟩
    | '-' :: '-' :: cs => readName r.arguments cs
    | '-' :: c :: cs => readLetters r.arguments (c :: cs)
    | _ => (r.arguments.addScenario arg).map (⟨·, .anything⟩)

/-- The arguments, when no more follow. A scenario is needed, unless only the schema is asked
for. -/
def finish (r : Reading) : Except UsageError Arguments :=
  let a := r.arguments
  if r.next = .configValue then .error (.missingValue configName)
  else if a.scenario.isNone && .schema ∉ a.switches then .error .missingScenario
  else .ok a

end Reading

/-- Reads a command line. -/
def Arguments.parse (args : List String) : Except UsageError Arguments :=
  args.foldlM Reading.read ⟨.none, .anything⟩ >>= Reading.finish

end VmAdmission.CommandLine
