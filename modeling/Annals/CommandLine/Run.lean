import Annals.CommandLine.Arguments
import Annals.Options.Context
import Annals.Report.Markup

/-!
# The Command

What the command does with its arguments: it prepares a run, lints the documents,
reports what is found and ends with a code. The code is 1 if there are errors or the
run cannot be made, and 2 if the arguments cannot be understood.

## Main definitions

* `Ending`: How the command ends.
* `Command.run`, `Command.execute`: The command, and the same from its arguments.
-/

namespace Annals

/-- How the command ends: its code, what it has written, and why it did not come to its
    end, if so. -/
structure Ending where
  code : Nat
  written : Written
  halt : Option Halt

namespace Command

/-- The name and the version of the program. -/
def versionText : String := "api-history-lint v0.3.0"

/-- The columns of a screen. -/
def screenColumns : Nat := 80

/-- A line that is broken where it would be too long for the screen. -/
def wrappedLine (s : String) : String := Screen.wrapped screenColumns s ++ "\n"

/-- The line for options that cannot be used. -/
def faultLine (f : OptionFault) : String :=
  Report.line (Markup.shown (Markup.within "red" "Error:" ++ " " ++ Markup.literal f.message))

/-- A line about the run. -/
def dimLine (label text : String) : String :=
  wrappedLine (Markup.shown (Markup.within "dim" (label ++ Markup.literal text)))

/-- What is said before a verbose run: where the documents are, and what is left out. -/
def preamble (fs : FileSystem) (c : Context) : String :=
  dimLine "Root: " (fs.resolve c.options.root).text ++
    if c.ignoreGlobs.isEmpty then "" else dimLine "Ignoring: " (", ".intercalate c.ignoreGlobs)

/-- A run with what was prepared for it. -/
def lintWith (fs : FileSystem) (c : Context) (f : ReportFormat) (verbose : Bool) : Ending :=
  let before : Report :=
    { Report.empty with written := ⟨"", if verbose then preamble fs c else ""⟩ }
  match Workspace.open? fs c.options.root c.options.globs c.ignoreGlobs with
  | .error fault => ⟨1, before.written, some (.workspace fault)⟩
  | .ok w =>
    match Run.lintWorkspace f.listener c.checks fs w (Run.start Memo.start before) with
    | (r, some h) => ⟨1, r.told.written, some h⟩
    | (r, none) => ⟨r.results.exitCode, (f.finish r.results r.told).written, none⟩

/-- The command. -/
def run (fs : FileSystem) (e : Environment) (remote : Remote) : Command → Ending
  | version => ⟨0, ⟨versionText ++ "\n", ""⟩, none⟩
  | help => ⟨0, .nothing, none⟩
  | lint o f verbose =>
    match o.prepare fs e remote none with
    | .error (.options fault) => ⟨1, ⟨"", faultLine fault⟩, none⟩
    | .error (.halt h) => ⟨1, .nothing, some h⟩
    | .ok c => lintWith fs c f verbose

/-- What the command ends with if its arguments cannot be understood. -/
def usageCode : Nat := 2

/-- The command from the words of a command line. -/
def execute (fs : FileSystem) (e : Environment) (remote : Remote) (arguments : List String) : Ending :=
  match ofArguments arguments with
  | .ok command => command.run fs e remote
  | .error f => ⟨usageCode, ⟨"", "Error: " ++ f.message ++ "\n"⟩, none⟩

end Command

end Annals
