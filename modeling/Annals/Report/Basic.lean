import Annals.Json.Writer
import Annals.Lint.Run
import Annals.Report.Screen

/-!
# Reports

A run is reported for readers or for programs. For readers every issue is written
when it is found, apart from the counts at the end, which are written elsewhere. For
programs there is one JSON document at the end.

## Main definitions

* `Written`: What is written on the two channels.
* `ReportFormat`: The formats.
* `Report`: What was written so far, and the issues so far.
* `ReportFormat.listener`, `ReportFormat.finish`: Reporting during a run and at its end.
-/

namespace Annals

/-- What is written: the result, and what is said beside it. -/
structure Written where
  out : String
  err : String
  deriving DecidableEq, Repr

namespace Written

/-- Nothing written. -/
def nothing : Written := ⟨"", ""⟩

/-- One text after another, on both channels. -/
def append (a b : Written) : Written := ⟨a.out ++ b.out, a.err ++ b.err⟩

end Written

/-- The formats of a report. For readers it says whether progress is shown too. -/
inductive ReportFormat where
  | readers (verbose : Bool)
  | json
  deriving DecidableEq, Repr

/-- What was written so far, and the issues that were told. -/
structure Report where
  written : Written
  issues : List Issue

namespace Report

/-- The report before anything is told. -/
def empty : Report := ⟨.nothing, []⟩

/-- A line as it is shown. -/
def line (s : String) : String := Screen.plain s ++ "\n"

/-- The mark before an issue. -/
def markOf : Severity → String
  | .error => "✖"
  | .warning => "⚠"
  | .other _ => "•"

/-- Where an issue is. -/
def placeOf (i : Issue) : String := if i.line == 0 then i.file else i.file ++ ":" ++ toString i.line

/-- A part of an issue that is left out if it is empty. -/
def optional (part : Option String) (lead : String) : String :=
  match part with
  | none | some "" => ""
  | some text => line (lead ++ text)

/-- An issue for readers. -/
def issueText (i : Issue) : String :=
  line (markOf i.severity ++ " " ++ i.severity.name ++ " [" ++ i.code.name ++ "] " ++ placeOf i) ++
    line ("  " ++ i.message) ++ optional i.details "" ++ optional i.suggestion "  → " ++ "\n"

/-- Issues and results as one value. -/
def document (issues : List Issue) (r : Results) : Value :=
  .object [("issues", .seq 0 (issues.map Issue.toValue)),
    ("summary", .object [("documents", .int r.documents),
      ("blocks", .int r.blocks),
      ("errors", .int r.errors),
      ("warnings", .int r.warnings),
      ("passed", .bool r.passed),
      ("message", .text r.summary)])]

/-- Issues and results as a JSON text. -/
def documentText (issues : List Issue) (r : Results) : String :=
  match Json.write .report (document issues r) with
  | .ok text => text
  | .error _ => ""

end Report

namespace ReportFormat

/-- A report with more written beside the result. -/
def aside (text : String) (r : Report) : Report :=
  { r with written := r.written.append ⟨"", text⟩ }

/-- Reporting during a run. -/
def listener (f : ReportFormat) : Listener Report :=
  match f with
  | readers verbose =>
    { issue := fun i r => aside (Report.issueText i) r
      progress := fun message r => if verbose then aside (Report.line message) r else r }
  | json => { issue := fun i r => { r with issues := r.issues ++ [i] }, progress := fun _ r => r }

/-- Reporting at the end of a run. -/
def finish (f : ReportFormat) (results : Results) (r : Report) : Report :=
  let text := match f with
    | readers _ => Report.line results.summary
    | json => Report.documentText r.issues results ++ "\n"
  { r with written := r.written.append ⟨text, ""⟩ }

end ReportFormat

end Annals
