import Annals.Files.Brace
import Annals.Files.Glob
import Annals.Files.Ignore

/-!
# Workspaces

A workspace is a directory with globs that say which of its files are documents and
patterns that say which of them are left out. A glob may hold groups of
alternatives. The files that a pattern of a glob selects come in the order of their
paths, the patterns in the order in which they are written, and a file that was
selected before does not come again.

If a glob cannot be read, the files that are selected before it still count.

## Main definitions

* `Document`: A document.
* `Workspace`, `Workspace.open?`: A workspace.
* `Workspace.selection`: The paths of its documents.
* `Workspace.load`: The document at a path.
-/

namespace Annals

/-- A document: its address, its name in messages, and its text. -/
structure Document where
  uri : String
  name : String
  text : String
  deriving DecidableEq, Repr

namespace Document

/-- The name of a document that no other name is given to. -/
def defaultName : String := "document.md"

/-- A document without a file. -/
def ofText (text name : String) : Document := ⟨"memory:///" ++ name, name, text⟩

end Document

/-- A directory, globs for its documents, and what is left out. -/
structure Workspace where
  root : Path
  globs : List String
  ignoreGlobs : List String
  rules : List Ignore.Rule

/-- Paths, and why there are no more, if a glob could not be read. -/
structure Selection where
  paths : List Path
  fault : Option Glob.Fault

namespace Workspace

/-- What is wrong with a workspace: a path, a pattern of what is left out, or a glob. -/
inductive Fault where
  | path (f : PathFault)
  | ignore (f : Ignore.Fault)
  | glob (f : Glob.Fault)
  deriving Repr

/-- The wording of a fault. -/
def Fault.message : Fault → String
  | path f => f.message
  | ignore f => f.message
  | glob f => f.message

/-- A workspace at a directory. Blank patterns say nothing. -/
def open? (fs : FileSystem) (root : Path) (globs ignoreGlobs : List String) :
    Except Fault Workspace := do
  if root.hasNull then throw (.path .nullCharacter)
  let ignoreGlobs := ignoreGlobs.filter fun g => !(Text.trim g.toList).isEmpty
  let rules ← (Ignore.readRules ignoreGlobs).mapError .ignore
  return ⟨fs.resolve root, globs, ignoreGlobs, rules⟩

/-- The name of a path in messages: where it leads from the root, if it stays below
    it. -/
def nameOf (w : Workspace) (fs : FileSystem) (p : Path) : String :=
  (((fs.resolve p).relativeTo? w.root).getD p).text

/-- Whether a path is left out. -/
def isIgnored (w : Workspace) (fs : FileSystem) (p : Path) : Bool :=
  Ignore.isIgnored w.rules (w.nameOf fs p)

/-- Whether any path, one that cannot be there too, is left out. -/
def ignores? (w : Workspace) (fs : FileSystem) (p : Path) : Except Fault Bool :=
  if p.hasNull then .error (.path .nullCharacter) else .ok (w.isIgnored fs p)

/-- The patterns without groups that the globs stand for. -/
def patterns (w : Workspace) : List String := w.globs.flatMap Brace.expand

/-- The files that a pattern selects, in the order of their paths. -/
def hits (w : Workspace) (fs : FileSystem) (pattern : String) : Except Glob.Fault (List Path) := do
  return ((← Glob.select fs w.root pattern).mergeSort Path.le).filter fs.isFile

/-- The files that patterns select, up to a pattern that cannot be read. -/
def allHits (w : Workspace) (fs : FileSystem) : List String → Selection
  | [] => ⟨[], none⟩
  | pattern :: rest =>
    match w.hits fs pattern with
    | .error f => ⟨[], some f⟩
    | .ok found =>
      let others := w.allHits fs rest
      ⟨found ++ others.paths, others.fault⟩

/-- The paths of the documents. -/
def selection (w : Workspace) (fs : FileSystem) : Selection :=
  let found := w.allHits fs w.patterns
  ⟨found.paths.eraseDups.filter fun p => !w.isIgnored fs p, found.fault⟩

/-- The document at a path. -/
def load (w : Workspace) (fs : FileSystem) (p : Path) : Except ReadFault Document := do
  let text ← fs.read p
  return ⟨(fs.resolve p).uri, w.nameOf fs p, text⟩

end Workspace

end Annals
