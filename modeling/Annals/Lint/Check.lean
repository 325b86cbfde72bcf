import Annals.Files.Workspace
import Annals.History.Block
import Annals.Lint.Issue
import Annals.Release.Memo
import Annals.Schema.File

/-!
# Checks

A check looks at one history and says what is wrong with it. It can work on a state
that it shares with the other checks. A check can fail: for want of the data that it
looks something up in, which ends the work on the document, or in a way that nothing
is prepared for, which ends the run.

## Main definitions

* `Entry`: A history with the block in which it stands.
* `Halt`, `CheckFault`: How a check fails.
* `Check`: A check.
-/

namespace Annals

/-- A decoded history, the block in which it stands, and the name of the document. -/
structure Entry where
  file : String
  block : History.Block
  history : Value

/-- Why a run ends before its end. -/
inductive Halt where
  | html (f : Html.Fault)
  | decoding (d : Yaml.Defect)
  | schema (f : Schema.Fault)
  | record (f : RecordFault)
  | unwritable (u : Json.Unwritable)
  | workspace (f : Workspace.Fault)
  deriving Repr

/-- The wording for a run that ends before its end. -/
def Halt.message : Halt → String
  | html f => f.message
  | decoding d => d.message
  | schema f => f.message
  | record f => f.message
  | unwritable u => u.message
  | workspace f => f.message

/-- Why a check does not come to an answer. -/
inductive CheckFault where
  | reference (message : String)
  | halt (h : Halt)
  deriving Repr

/-- A check with its name, on a state of type `σ`. -/
structure Check (σ : Type) where
  name : String
  run : Entry → σ → Except CheckFault (List Issue) × σ

namespace Check

/-- A check that has no use for the state. -/
def pure {σ : Type} (name : String) (find : Entry → Except CheckFault (List Issue)) : Check σ :=
  ⟨name, fun e s => (find e, s)⟩

end Check

namespace Entry

/-- An issue of the block, with its text as the details. -/
def issue (e : Entry) (severity : Severity) (code : IssueCode) (message : String)
    (suggestion : Option String) : Issue :=
  ⟨severity, code, message, e.file, e.block.candidate.line, some e.block.candidate.raw, suggestion⟩

/-- The records of a history under some of its keys, each with its key. What is no
    list, and what in a list is no mapping, holds no records. -/
def records (history : Value) (sections : List String) : List (String × Value) :=
  sections.flatMap fun name =>
    match history.field? name with
    | some (.seq id items) =>
      ((Value.seq id items).parts.filter fun v => v matches .map ..).map fun r => (name, r)
    | _ => []

end Entry

end Annals
