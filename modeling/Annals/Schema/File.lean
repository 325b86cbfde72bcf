import Annals.Files.Tree
import Annals.Json.Reader
import Annals.Json.Writer
import Annals.Schema.Check
import Annals.Yaml.Construct

/-!
# Schema Files

A schema is read from a file: as YAML if the name of the file ends so, and as JSON
otherwise. What is in the file has to be a mapping that its dialect accepts.

## Main definitions

* `Schema.FileFault`: Why a file holds no schema.
* `Schema.fromFile`: The schema in a file.
-/

namespace Annals

namespace Schema

/-- Why a file holds no schema: it cannot be read; its text is not in its format;
    it holds a value that cannot be made; it holds a number that is too long; it is
    nested too deep; what it holds is no mapping; the mapping is not accepted. -/
inductive FileFault where
  | unreadable (f : ReadFault)
  | format (message : String)
  | defect (d : Yaml.Defect)
  | longNumber (digits : Nat)
  | nested
  | noMapping
  | refused (r : Refusal)

/-- Whether a file holds YAML, by its name. -/
def holdsYaml (p : Path) : Bool :=
  let ending := Text.lowered p.suffix
  ending == ".yaml" || ending == ".yml"

/-- A YAML text as a value. -/
def valueOfYaml (text : String) : Except FileFault Value :=
  match Yaml.decode false text with
  | .ok v => .ok v
  | .error (.defect d) => .error (.defect d)
  | .error f => .error (.format ((f.message? text.toList.toArray).elim "" (·.1)))

/-- A JSON text as a value. -/
def valueOfJson (text : String) : Except FileFault Value :=
  match Json.parse text with
  | .ok v => .ok v
  | .error (.fault f) => .error (.format f.message)
  | .error (.longNumber digits) => .error (.longNumber digits)
  | .error .nested => .error .nested

/-- The schema that a value is. -/
def ofValue : Value → Except FileFault Schema
  | .map id entries => (accept (.map id entries)).mapError .refused
  | _ => .error .noMapping

/-- The schema in a file. -/
def fromFile (fs : FileSystem) (p : Path) : Except FileFault Schema := do
  let text ← (fs.read p).mapError .unreadable
  let value ← if holdsYaml p then valueOfYaml text else valueOfJson text
  ofValue value

/-- What a violation is checked against, as it is reported: as a value if that can be
    written, and as the text of the value otherwise. -/
def Violation.reportedSetting (v : Violation) : Value :=
  match Json.write .compact v.setting with
  | .ok _ => v.setting
  | .error _ => .text v.setting.display

/-- A violation as a value. -/
def Violation.report (v : Violation) : Value :=
  .object [("instancePath", .text v.place),
    ("keyword", v.keyword.elim .null .text),
    ("message", .text v.message),
    ("params", v.reportedSetting)]

end Schema

end Annals
