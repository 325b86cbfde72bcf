import Annals.Options.Basic
import Annals.Report.Basic

/-!
# Arguments

The command line takes globs and options in any order. After two dashes everything
is a glob. A long option gets its value after an equals sign or in the next
argument, a short one in the same argument or in the next; short options without
values can stand together. Of two settings of one option the later counts, but
patterns to leave out add up.

## Main definitions

* `Setting`: What an option sets.
* `Arguments.read`: The settings and the other words of a command line.
* `Command.ofArguments`: What a command line asks for.
-/

namespace Annals

/-- What an option sets. -/
inductive Setting where
  | root
  | ignore
  | ignorePath
  | schema
  | breakingChanges
  | repository
  | format
  | placement (on : Bool)
  | strings (on : Bool)
  | descriptions
  | pullRequests
  | verbose
  | version
  | help
  deriving DecidableEq, Repr

/-- Why a command line cannot be understood. -/
inductive UsageFault where
  | unknownOption (name : String)
  | missingValue (s : Setting)
  | unwantedValue (s : Setting)
  | noGlobs
  | unknownFormat (name : String)
  deriving DecidableEq, Repr

/-- The wording of a fault. -/
def UsageFault.message : UsageFault → String
  | unknownOption name => "No such option: " ++ name
  | missingValue _ => "An option requires an argument"
  | unwantedValue _ => "An option does not take a value"
  | noGlobs => "Missing argument 'GLOBS...'"
  | unknownFormat name => Text.quoted name ++ " is not one of 'rich', 'json'"

namespace Setting

/-- Whether an option has a value. -/
def takesValue : Setting → Bool
  | root | ignore | ignorePath | schema | breakingChanges | repository | format => true
  | _ => false

/-- The option with a long name. -/
def ofLong? : String → Option Setting
  | "--root" => some root
  | "--ignore" => some ignore
  | "--ignore-path" => some ignorePath
  | "--schema" => some schema
  | "--breaking-changes-file" => some breakingChanges
  | "--pull-request-repo" => some repository
  | "--format" => some format
  | "--check-placement" => some (placement true)
  | "--no-check-placement" => some (placement false)
  | "--check-strings" => some (strings true)
  | "--no-check-strings" => some (strings false)
  | "--check-descriptions" => some descriptions
  | "--check-pull-request-links" => some pullRequests
  | "--verbose" => some verbose
  | "--version" => some version
  | "--help" => some help
  | _ => none

/-- The option with a short name. -/
def ofShort? : Char → Option Setting
  | 'f' => some format
  | 'v' => some verbose
  | _ => none

end Setting

/-- The settings of a command line, with their values, and its other words. -/
structure Arguments where
  settings : List (Setting × String)
  words : List String
  deriving DecidableEq, Repr

namespace Arguments

/-- What one argument sets, and the option whose value the next argument is, if any. -/
structure Step where
  settings : List (Setting × String)
  pending : Option Setting

/-- A long option, with its value if one is attached. -/
def longStep (s : Setting) (value : Option String) : Except UsageFault Step :=
  if s.takesValue then
    match value with
    | some v => .ok ⟨[(s, v)], none⟩
    | none => .ok ⟨[], some s⟩
  else
    match value with
    | some _ => .error (.unwantedValue s)
    | none => .ok ⟨[(s, "")], none⟩

/-- Short options that stand together. What follows one that has a value is its value. -/
def shortStep : List Char → Except UsageFault Step
  | [] => .ok ⟨[], none⟩
  | c :: rest =>
    match Setting.ofShort? c with
    | none => .error (.unknownOption (String.ofList ['-', c]))
    | some s =>
      if s.takesValue then
        if rest.isEmpty then .ok ⟨[], some s⟩ else .ok ⟨[(s, String.ofList rest)], none⟩
      else (shortStep rest).map fun step => { step with settings := (s, "") :: step.settings }

/-- An argument that begins with a dash. -/
def optionStep (argument : String) : Except UsageFault Step :=
  let (name, value) := match Text.splitAt? ['='] argument.toList with
    | some (name, value) => (String.ofList name, some (String.ofList value))
    | none => (argument, none)
  match Setting.ofLong? name, argument.toList with
  | some s, _ => longStep s value
  | none, '-' :: c :: rest =>
    if c == '-' then .error (.unknownOption name) else shortStep (c :: rest)
  | none, _ => .error (.unknownOption name)

/-- Whether an argument is read as an option. -/
def isOption (argument : String) : Bool :=
  match argument.toList with
  | '-' :: _ :: _ => true
  | _ => false

/-- Arguments after an option whose value comes next, if there is one. -/
def readFrom : (pending : Option Setting) → List String → Except UsageFault Arguments
  | some s, [] => .error (.missingValue s)
  | none, [] => .ok ⟨[], []⟩
  | some s, value :: rest => do
    let others ← readFrom none rest
    return { others with settings := (s, value) :: others.settings }
  | none, argument :: rest => do
    -- From here on everything is a word, whatever it looks like.
    if argument == "--" then return ⟨[], rest⟩
    if isOption argument then
      let step ← optionStep argument
      let others ← readFrom step.pending rest
      return { others with settings := step.settings ++ others.settings }
    else
      let others ← readFrom none rest
      return { others with words := argument :: others.words }

/-- The settings and the other words of a command line. -/
def read (arguments : List String) : Except UsageFault Arguments := readFrom none arguments

/-- Options with one more setting. -/
def applySetting (o : Options) : Setting × String → Options
  | (.root, v) => { o with root := Path.parse v }
  | (.ignore, v) => { o with ignoreGlobs := o.ignoreGlobs ++ [v] }
  | (.ignorePath, v) => { o with ignorePath := some (Path.parse v) }
  | (.schema, v) => { o with schemaPath := some (Path.parse v) }
  | (.breakingChanges, v) => { o with breakingChangesPath := some (Path.parse v) }
  | (.repository, v) => { o with repository := v }
  | (.placement on, _) => { o with checksPlacement := on }
  | (.strings on, _) => { o with checksStrings := on }
  | (.descriptions, _) => { o with checksDescriptions := true }
  | (.pullRequests, _) => { o with checksPullRequests := true }
  | _ => o

/-- The options of a run. -/
def options (a : Arguments) : Options :=
  a.settings.foldl applySetting { Options.default with globs := a.words }

/-- Whether more is to be said than usual. -/
def isVerbose (a : Arguments) : Bool := a.settings.any (·.1 == .verbose)

/-- The name of the format of the report. -/
def formatName (a : Arguments) : String := (a.settings.reverse.lookup .format).getD "rich"

/-- The format of the report. -/
def format (a : Arguments) : Except UsageFault ReportFormat :=
  match a.formatName with
  | "rich" => .ok (.readers a.isVerbose)
  | "json" => .ok .json
  | name => .error (.unknownFormat name)

end Arguments

/-- What a command line asks for: the version, help, or a run. -/
inductive Command where
  | version
  | help
  | lint (o : Options) (f : ReportFormat) (verbose : Bool)

namespace Command

/-- The question that a command line asks first, if it asks one. Questions go before a
    run, whatever else is missing for it. -/
def question? (a : Arguments) : Option Command :=
  (a.settings.map (·.1)).findSome? fun
    | .version => some version
    | .help => some help
    | _ => none

/-- What a command line asks for. -/
def ofArguments (arguments : List String) : Except UsageFault Command := do
  let a ← Arguments.read arguments
  match question? a with
  | some q => return q
  | none =>
    if a.words.isEmpty then throw .noGlobs
    return lint a.options (← a.format) a.isVerbose

end Command

end Annals
