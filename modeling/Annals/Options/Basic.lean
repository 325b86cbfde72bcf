import Annals.Files.Path
import Annals.Files.Tree
import Annals.Release.Memo
import Annals.Text.Quoted

/-!
# Options

What can be chosen for a run, as it is given. Faults of the options are found
before any document is read.

## Main definitions

* `Options`: The options of a run.
* `OptionFault`: What can be wrong with them.
-/

namespace Annals

/-- The options of a run. -/
structure Options where
  /-- The directory in which the documents are. -/
  root : Path
  /-- Globs for the documents. -/
  globs : List String
  /-- Patterns of what is left out. -/
  ignoreGlobs : List String
  /-- A file with more such patterns. -/
  ignorePath : Option Path
  checksPlacement : Bool
  checksStrings : Bool
  checksDescriptions : Bool
  /-- A schema for histories. -/
  schemaPath : Option Path
  /-- A document whose headings are the breaking changes. -/
  breakingChangesPath : Option Path
  checksPullRequests : Bool
  /-- The repository whose releases are looked up. -/
  repository : String

namespace Options

/-- The options if nothing is chosen. -/
def default : Options :=
  { root := ⟨"", []⟩
    globs := []
    ignoreGlobs := []
    ignorePath := none
    checksPlacement := true
    checksStrings := true
    checksDescriptions := false
    schemaPath := none
    breakingChangesPath := none
    checksPullRequests := false
    repository := Loader.defaultRepository }

end Options

/-- The files that options name. -/
inductive OptionFile where
  | ignorePatterns
  | schema
  | breakingChanges
  deriving DecidableEq, Repr

/-- What a file is called in messages. -/
def OptionFile.name : OptionFile → String
  | ignorePatterns => "ignore file"
  | schema => "schema file"
  | breakingChanges => "breaking changes file"

/-- What is wrong with options: the root is no directory; a glob stands for an empty
    pattern; a pattern does not start from the root of the documents; a file cannot
    be read; a schema file is not in its format, holds no mapping, or holds a mapping
    that is no schema; there is no token. -/
inductive OptionFault where
  | noDirectory (root : Path)
  | emptyGlob (glob : String)
  | absoluteGlob (pattern : String)
  | unreadable (file : OptionFile) (path : Path) (f : ReadFault)
  | unparsed (path : Path) (message : String)
  | noMapping (path : Path)
  | invalidSchema (source message : String)
  | noToken
  deriving Repr

/-- The wording of a fault. -/
def OptionFault.message : OptionFault → String
  | noDirectory root => "root is not a directory: " ++ root.text
  | emptyGlob glob => "empty glob pattern in " ++ Text.quoted glob
  | absoluteGlob pattern => "glob " ++ Text.quoted pattern ++ " must be relative to the root"
  | unreadable file path f =>
    "cannot read " ++ file.name ++ " " ++ path.text ++ ": " ++ f.message (Text.quoted path.text)
  | unparsed path message =>
    "cannot parse " ++ OptionFile.schema.name ++ " " ++ path.text ++ ": " ++ message
  | noMapping path => OptionFile.schema.name ++ " " ++ path.text ++ " must contain an object"
  | invalidSchema source message => "invalid schema " ++ source ++ ": " ++ message
  | noToken => "--check-pull-request-links requires a GitHub token in $" ++ Environment.tokenName

end Annals
