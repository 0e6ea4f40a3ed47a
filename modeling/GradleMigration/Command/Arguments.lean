import GradleMigration.File.Path
import GradleMigration.Rule.Severity
import GradleMigration.Text.Integer

/-
  The arguments of the command line.

  Key definitions include:
    * `Arguments`
    * `Arguments.read`
    * `Command`
    * `Command.parse`

  Options and arguments come in any order; two dashes end the
  options.  A value follows its option, or an equals sign.
-/

------------------------------------------------------------
-- Options
------------------------------------------------------------

namespace GradleMigration

/- The options that a command knows. -/
structure OptionNames where
  flags : List String
  valued : List String

/- Options with their values, and what else was given. -/
structure Arguments where
  options : List (String × String)
  rest : List String
deriving DecidableEq, Repr

namespace Arguments

/- Whether a text is meant as an option. -/
def isOption : List Char → Bool
| '-' :: _ :: _ => true
| _ => false

/- The name of an option and the value given with it. -/
def splitOption
    (text : List Char) : String × Option String :=
  let name := text.takeWhile (· != '=')
  let value :=
    match text.drop name.length with
    | [] => none
    | _ :: value => some (String.ofList value)
  (String.ofList name, value)

/- Put an option in front. -/
def withOption
    (arguments : Arguments)
    (name value : String) : Arguments :=
  { arguments with
    options := (name, value) :: arguments.options }

/- Put another argument in front. -/
def withRest
    (arguments : Arguments)
    (text : String) : Arguments :=
  { arguments with rest := text :: arguments.rest }

/- Read arguments; unknown options are refused. -/
def read
    (names : OptionNames) : List String → Option Arguments
| [] => some ⟨[], []⟩
| "--" :: texts => some ⟨[], texts⟩
| text :: texts =>
    if !isOption text.toList then
      (read names texts).map (·.withRest text)
    else
      match splitOption text.toList with
      | (name, some value) =>
          if names.valued.contains name then
            (read names texts).map (·.withOption name value)
          else
            none
      | (name, none) =>
          if names.flags.contains name then
            (read names texts).map (·.withOption name "")
          else if names.valued.contains name then
            match texts with
            | [] => none
            | value :: texts =>
                (read names texts).map
                  (·.withOption name value)
          else
            none

/- All values of an option. -/
def values
    (arguments : Arguments)
    (name : String) : List String :=
  (arguments.options.filter (·.1 == name)).map (·.2)

/- The last value of an option. -/
def value?
    (arguments : Arguments)
    (name : String) : Option String :=
  (arguments.values name).getLast?

/- The last value of an option as a path. -/
def path?
    (arguments : Arguments)
    (name : String) : Option Path :=
  (arguments.value? name).map Path.parse

/- Whether a flag is given. -/
def has
    (arguments : Arguments)
    (name : String) : Bool :=
  !(arguments.values name).isEmpty

/- The last value of an option, which has to pass a check. -/
def checked?
    {α : Type}
    (arguments : Arguments)
    (name : String)
    (check : String → Option α) : Option (Option α) :=
  match arguments.value? name with
  | none => some none
  | some value => (check value).map some

end Arguments

end GradleMigration

------------------------------------------------------------
-- Commands
------------------------------------------------------------

namespace GradleMigration

/- What `analyze` is asked to do. -/
structure AnalyzeOptions where
  project : Path
  severity : Severity
  json : Bool
  output : Option Path
  config : Option Path
  workers : Option Int
deriving DecidableEq, Repr

/- What `fix` is asked to do. -/
structure FixOptions where
  project : Option Path
  rules : List String
  report : Option Path
  ids : List String
  json : Bool
  config : Option Path
  workers : Option Int
deriving DecidableEq, Repr

/- A command of the program. -/
inductive Command where
| analyze (options : AnalyzeOptions)
| fix (options : FixOptions)
| restore (path : Path) (target : Option Path)
| rules (config : Option Path)
deriving DecidableEq, Repr

namespace Command

/- A number of workers. -/
def workersOf
    (text : String) : Option Int :=
  Text.looseInteger text.toList

/- The arguments of `analyze`. -/
def parseAnalyze
    (texts : List String) : Option Command := do
  let arguments ← Arguments.read
    { flags := ["--json"]
      valued :=
        ["--severity", "--output", "--config", "--workers"] }
    texts
  let severity ←
    arguments.checked? "--severity" Severity.ofAnyCase?
  let workers ← arguments.checked? "--workers" workersOf
  match arguments.rest with
  | [project] =>
      return .analyze
        { project := Path.parse project
          severity := severity.getD .low
          json := arguments.has "--json"
          output := arguments.path? "--output"
          config := arguments.path? "--config"
          workers := workers }
  | _ => none

/- The arguments of `fix`. -/
def parseFix
    (texts : List String) : Option Command := do
  let arguments ← Arguments.read
    { flags := ["--json"]
      valued :=
        ["--rule", "--report", "--id", "--config",
          "--workers"] }
    texts
  let workers ← arguments.checked? "--workers" workersOf
  let project ←
    match arguments.rest with
    | [] => some none
    | [project] => some (some (Path.parse project))
    | _ => none
  return .fix
    { project := project
      rules := arguments.values "--rule"
      report := arguments.path? "--report"
      ids := arguments.values "--id"
      json := arguments.has "--json"
      config := arguments.path? "--config"
      workers := workers }

/- The arguments of `restore`. -/
def parseRestore
    (texts : List String) : Option Command := do
  let arguments ← Arguments.read
    { flags := [], valued := ["--original"] } texts
  match arguments.rest with
  | [path] =>
      return .restore (Path.parse path)
        (arguments.path? "--original")
  | _ => none

/- The arguments of `rules`. -/
def parseRules
    (texts : List String) : Option Command := do
  let arguments ← Arguments.read
    { flags := [], valued := ["--config"] } texts
  if arguments.rest.isEmpty then
    return .rules (arguments.path? "--config")
  else
    none

/- Whether a text asks for more messages. -/
def isVerbose
    (text : String) : Bool :=
  text == "--verbose" ||
    match text.toList with
    | '-' :: 'v' :: more => more.all (· == 'v')
    | _ => false

/- What follows the options in front of a command. -/
def skipVerbose : List String → List String
| [] => []
| "--" :: texts => texts
| text :: texts =>
    if isVerbose text then skipVerbose texts
    else text :: texts

/- The command that a command line gives. -/
def parse
    (texts : List String) : Option Command :=
  match skipVerbose texts with
  | "analyze" :: texts => parseAnalyze texts
  | "fix" :: texts => parseFix texts
  | "restore" :: texts => parseRestore texts
  | "rules" :: texts => parseRules texts
  | _ => none

end Command

end GradleMigration
