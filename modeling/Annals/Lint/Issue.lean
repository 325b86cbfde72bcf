import Annals.Value.Basic

/-!
# Issues

An issue is something that is wrong in a document. It has a code, a place and a
message, and it is an error or a warning. Results count what was looked at and what
was found.

## Main definitions

* `Severity`, `IssueCode`, `Issue`: Issues.
* `Results`: Counts and issues of a run.
* `Results.add`: The results with one more issue.
-/

namespace Annals

/-- How bad an issue is. -/
inductive Severity where
  | error
  | warning
  | other (name : String)
  deriving DecidableEq, Repr

/-- The name of a severity. -/
def Severity.name : Severity → String
  | error => "error"
  | warning => "warning"
  | other name => name

/-- What an issue is about. -/
inductive IssueCode where
  | formatError
  | parseError
  | schemaViolation
  | missingHeading
  | unknownBreakingChange
  | unknownPullRequest
  | unsafeString
  | unquotedDescription
  | documentFailure
  deriving DecidableEq, Repr

namespace IssueCode

/-- All codes. -/
def all : List IssueCode :=
  [formatError, parseError, schemaViolation, missingHeading, unknownBreakingChange,
   unknownPullRequest, unsafeString, unquotedDescription, documentFailure]

/-- The name of a code. -/
def name : IssueCode → String
  | formatError => "FORMAT_ERROR"
  | parseError => "PARSE_ERROR"
  | schemaViolation => "SCHEMA_VIOLATION"
  | missingHeading => "MISSING_HEADING"
  | unknownBreakingChange => "UNKNOWN_BREAKING_CHANGE"
  | unknownPullRequest => "UNKNOWN_PULL_REQUEST"
  | unsafeString => "UNSAFE_STRING"
  | unquotedDescription => "UNQUOTED_DESCRIPTION"
  | documentFailure => "DOCUMENT_FAILURE"

/-- The code with a name. -/
def ofName? (s : String) : Option IssueCode := all.find? (·.name == s)

end IssueCode

/-- Something that is wrong in a document, on a line counted from one. Line 0 stands
    for the document as a whole. -/
structure Issue where
  severity : Severity
  code : IssueCode
  message : String
  file : String
  line : Int
  details : Option String
  suggestion : Option String
  deriving DecidableEq, Repr

namespace Issue

/-- The issue of a document that cannot be gone through to its end. -/
def documentFailure (file message : String) : Issue :=
  ⟨.error, .documentFailure, message, file, 0, none, none⟩

/-- An issue as a value. -/
def toValue (i : Issue) : Value :=
  .object [("severity", .text i.severity.name),
    ("code", .text i.code.name),
    ("message", .text i.message),
    ("file_path", .text i.file),
    ("line_number", .int i.line),
    ("details", i.details.elim .null .text),
    ("suggestion", i.suggestion.elim .null .text)]

end Issue

/-- The counts of a run, and its issues in the order in which they were found. -/
structure Results where
  documents : Nat
  blocks : Nat
  errors : Nat
  warnings : Nat
  issues : List Issue
  deriving DecidableEq, Repr

namespace Results

/-- Nothing looked at and nothing found. -/
def empty : Results := ⟨0, 0, 0, 0, []⟩

/-- The results with one more issue. What is no error counts as a warning. -/
def add (r : Results) (i : Issue) : Results :=
  match i.severity with
  | .error => { r with errors := r.errors + 1, issues := r.issues ++ [i] }
  | _ => { r with warnings := r.warnings + 1, issues := r.issues ++ [i] }

/-- Whether there are no errors. -/
def passed (r : Results) : Bool := r.errors == 0

/-- What a run ends with: 1 if there are errors. -/
def exitCode (r : Results) : Nat := if r.passed then 0 else 1

/-- The counts in a sentence. -/
def summary (r : Results) : String :=
  "Processed " ++ toString r.blocks ++ " block(s) in " ++ toString r.documents ++
    " document(s) with " ++ toString r.errors ++ " error(s) and " ++ toString r.warnings ++
    " warning(s)."

end Results

end Annals
