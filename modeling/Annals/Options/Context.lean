import Annals.Lint.References
import Annals.Lint.Structure
import Annals.Lint.Wording
import Annals.Options.Basic

/-!
# From Options to a Run

All data that the options name is loaded before the run, the index of releases
apart. What is loaded decides which checks are made.

## Main definitions

* `Context`: What a run needs.
* `Options.prepare`: The context that options ask for.
* `Context.checks`: The checks of a run, in their order.
-/

namespace Annals

/-- What a run needs besides the documents. -/
structure Context where
  options : Options
  ignoreGlobs : List String
  schema : Option Schema
  breakingChanges : Option BreakingChanges
  loader : Option Loader

/-- Why a run cannot begin: something is wrong with the options, or something that no
    message is prepared for. -/
inductive PrepareFault where
  | options (f : OptionFault)
  | halt (h : Halt)

namespace Options

/-- The patterns in a file: a pattern a line, without the blanks around it. Blank lines
    and comments are passed over. -/
def ignoreLines (content : String) : List String :=
  ((Text.lines content.toList).map Text.trim).filterMap fun line =>
    match line with
    | [] | '#' :: _ => none
    | _ => some (String.ofList line)

/-- Nothing, if a path can be looked up at all. -/
def checkPath (p : Path) : Except PrepareFault Unit :=
  if p.hasNull then .error (.halt (.workspace (.path .nullCharacter))) else .ok ()

/-- The text of a file that options name. -/
def readText (fs : FileSystem) (file : OptionFile) (p : Path) : Except PrepareFault String := do
  checkPath p
  (fs.read p).mapError fun f => .options (.unreadable file p f)

/-- The patterns in an ignore file. -/
def ignoreFile (fs : FileSystem) (p : Path) : Except PrepareFault (List String) :=
  (readText fs .ignorePatterns p).map ignoreLines

/-- The breaking changes in a document. -/
def breakingChangesFile (fs : FileSystem) (p : Path) : Except PrepareFault BreakingChanges :=
  (readText fs .breakingChanges p).map BreakingChanges.ofText

/-- What a fault of a schema with a name means for a run. -/
def schemaFault (source : String) : Schema.Refusal → PrepareFault
  | .invalid message => .options (.invalidSchema source message)
  | .fault f => .halt (.schema f)

/-- What a fault of a schema file means for a run. -/
def schemaFileFault (p : Path) : Schema.FileFault → PrepareFault
  | .unreadable f => .options (.unreadable .schema p f)
  | .format message => .options (.unparsed p message)
  | .defect d => .halt (.decoding d)
  | .longNumber digits => .halt (.record (.longNumber ⟨digits⟩))
  | .nested => .halt (.decoding .nested)
  | .noMapping => .options (.noMapping p)
  | .refused r => schemaFault p.text r

/-- The schema in a file. -/
def schemaFile (fs : FileSystem) (p : Path) : Except PrepareFault Schema := do
  checkPath p
  (Schema.fromFile fs p).mapError (schemaFileFault p)

/-- Nothing, if the root is a directory. -/
def checkRoot (fs : FileSystem) (root : Path) : Except PrepareFault Unit := do
  let found ← (fs.isDirectory root).mapError fun f => .halt (.workspace (.path f))
  unless found do throw (.options (.noDirectory root))

/-- Whether a pattern of a glob can be used. -/
def checkPattern (glob pattern : String) : Except OptionFault Unit :=
  if (Text.trim pattern.toList).isEmpty then .error (.emptyGlob glob)
  else if (Path.parse pattern).isAbsolute then .error (.absoluteGlob pattern)
  else .ok ()

/-- Whether globs can be used. -/
def checkGlobs (globs : List String) : Except OptionFault Unit :=
  globs.forM fun glob => (Brace.expand glob).forM (checkPattern glob)

/-- Something loaded if it is named. -/
def loaded {ε α β : Type} (load : α → Except ε β) : Option α → Except ε (Option β)
  | none => .ok none
  | some a => (load a).map some

/-- The loader of the index, if pull requests are checked: the one that is given, or one
    that the environment asks for. -/
def chooseLoader (o : Options) (e : Environment) (remote : Remote) (given : Option Loader) :
    Except OptionFault (Option Loader) :=
  if o.checksPullRequests then
    match given.or (Loader.ofEnvironment o.repository e remote) with
    | some loader => .ok (some loader)
    | none => .error .noToken
  else .ok none

/-- The context that options ask for. Of several faults the first one counts: of the
    root, the globs, the ignore file, the schema, the breaking changes, the token. -/
def prepare (o : Options) (fs : FileSystem) (e : Environment) (remote : Remote)
    (given : Option Loader) : Except PrepareFault Context := do
  checkRoot fs o.root
  (checkGlobs o.globs).mapError .options
  let more ← loaded (ignoreFile fs) o.ignorePath
  let schema ← loaded (schemaFile fs) o.schemaPath
  let changes ← loaded (breakingChangesFile fs) o.breakingChangesPath
  let loader ← (o.chooseLoader e remote given).mapError .options
  return ⟨o, o.ignoreGlobs ++ more.getD [], schema, changes, loader⟩

end Options

namespace Context

/-- The checks of a run, in their order. -/
def checks (c : Context) : List (Check Memo) :=
  (if c.options.checksStrings then [Check.strings] else []) ++
  (if c.options.checksDescriptions then [Check.descriptions] else []) ++
  c.schema.toList.map Check.schema ++
  (if c.options.checksPlacement then [Check.placement] else []) ++
  c.breakingChanges.toList.map Check.breakingChanges ++
  c.loader.toList.map Check.pullRequests

end Context

end Annals
