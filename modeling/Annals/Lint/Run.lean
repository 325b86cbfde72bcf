import Annals.Lint.Check

/-!
# Runs

A run goes through documents, and in each document through its blocks. A block that
is no history or cannot be decoded is an issue; for any other block all checks are
made one after another. What is found is told at once to whoever listens, so it
stays even if a later check fails.

## Main definitions

* `Listener`: Who is told of issues.
* `Run`: Results, what the checks share, and what was told.
* `Run.lintBlock`: The issues of one block.
* `Run.lintDocument`, `Run.lintDocuments`, `Run.lintWorkspace`: A document, several
  documents, and the documents of a workspace.
-/

namespace Annals

/-- Who is told of issues and of progress. -/
structure Listener (ρ : Type) where
  issue : Issue → ρ → ρ
  progress : String → ρ → ρ

/-- A listener that takes no notice. -/
def Listener.silent {ρ : Type} : Listener ρ := ⟨fun _ told => told, fun _ told => told⟩

/-- A run at some point: its results, the state that the checks share, and what was
    told. -/
structure Run (σ ρ : Type) where
  results : Results
  shared : σ
  told : ρ

/-- The issues of a block, and why there may be more, if a check failed. -/
structure BlockOutcome where
  issues : List Issue
  fault : Option CheckFault

namespace Run

variable {σ ρ : Type}

/-- The issue of a candidate that is no history block. -/
def formatError (file : String) (c : History.Candidate) (f : History.FormatFault) : Issue :=
  ⟨.error, .formatError,
    "Couldn't extract history block (" ++ f.message ++ "), did you use the correct format?",
    file, c.line, some c.raw,
    some (String.ofList ("Wrap a ".toList ++ List.replicate 3 (Char.ofNat 96) ++
      "YAML history fenced block in a single <!-- --> comment".toList))⟩

/-- The issue of a history that cannot be decoded. It is placed on the line of the fault
    if the fault has one. -/
def parseError (file : String) (b : History.Block) (message : String) (line : Option Nat) : Issue :=
  ⟨.error, .parseError, "Invalid YAML in history block: " ++ message, file,
    line.elim (b.candidate.line : Int) fun n => (b.yamlLine : Int) + n - 1,
    some b.candidate.raw, none⟩

/-- All checks made one after another, up to one that fails. -/
def runChecks (e : Entry) : List (Check σ) → σ → BlockOutcome × σ
  | [], s => (⟨[], none⟩, s)
  | check :: rest, s =>
    match check.run e s with
    | (.error f, s) => (⟨[], some f⟩, s)
    | (.ok found, s) =>
      let (others, s) := runChecks e rest s
      (⟨found ++ others.issues, others.fault⟩, s)

/-- The issues of a history block. -/
def lintHistory (checks : List (Check σ)) (file : String) (b : History.Block) (s : σ) :
    BlockOutcome × σ :=
  match Yaml.decode true b.yaml with
  | .ok history => runChecks ⟨file, b, history⟩ checks s
  | .error (.defect d) => (⟨[], some (.halt (.decoding d))⟩, s)
  | .error f =>
    match f.named? b.yaml.toList.toArray with
    | some (message, line) => (⟨[parseError file b message line], none⟩, s)
    | none => (⟨[], none⟩, s)

/-- The issues of a candidate. -/
def lintBlock (checks : List (Check σ)) (file : String) (c : History.Candidate) (s : σ) :
    BlockOutcome × σ :=
  match History.block c with
  | .error (.format f) => (⟨[formatError file c f], none⟩, s)
  | .error (.html f) => (⟨[], some (.halt (.html f))⟩, s)
  | .ok b => lintHistory checks file b s

/-- One more document. -/
def countDocument (r : Run σ ρ) : Run σ ρ :=
  { r with results := { r.results with documents := r.results.documents + 1 } }

/-- One more block. -/
def countBlock (r : Run σ ρ) : Run σ ρ :=
  { r with results := { r.results with blocks := r.results.blocks + 1 } }

/-- One more issue, which is recorded and told. -/
def emit (l : Listener ρ) (i : Issue) (r : Run σ ρ) : Run σ ρ :=
  { r with results := r.results.add i, told := l.issue i r.told }

/-- More issues, one after another. -/
def emitAll (l : Listener ρ) (issues : List Issue) (r : Run σ ρ) : Run σ ρ :=
  issues.foldl (fun r i => r.emit l i) r

/-- The candidates of a document, up to one at which a check fails. -/
def lintBlocks (l : Listener ρ) (checks : List (Check σ)) (file : String) :
    List History.Candidate → Run σ ρ → Run σ ρ × Option CheckFault
  | [], r => (r, none)
  | c :: rest, r =>
    let r := r.countBlock
    let (outcome, shared) := lintBlock checks file c r.shared
    -- What was found before the failure is told even if the document is left.
    let r := emitAll l outcome.issues { r with shared := shared }
    match outcome.fault with
    | some f => (r, some f)
    | none => lintBlocks l checks file rest r

/-- One document. Data that is not at hand is an issue of the document; any other
    failure ends the run. -/
def lintDocument (l : Listener ρ) (checks : List (Check σ)) (d : Document) (r : Run σ ρ) :
    Run σ ρ × Option Halt :=
  match lintBlocks l checks d.name (History.candidates d.text) r.countDocument with
  | (r, none) => (r, none)
  | (r, some (.reference message)) => (r.emit l (.documentFailure d.name message), none)
  | (r, some (.halt h)) => (r, some h)

/-- Several documents, up to one that ends the run. -/
def lintDocuments (l : Listener ρ) (checks : List (Check σ)) :
    List Document → Run σ ρ → Run σ ρ × Option Halt
  | [], r => (r, none)
  | d :: rest, r =>
    match lintDocument l checks d r with
    | (r, some h) => (r, some h)
    | (r, none) => lintDocuments l checks rest r

/-- The document at a path of a workspace. One that cannot be read is an issue. -/
def lintPath (l : Listener ρ) (checks : List (Check σ)) (fs : FileSystem) (w : Workspace)
    (p : Path) (r : Run σ ρ) : Run σ ρ × Option Halt :=
  match w.load fs p with
  | .error f =>
    let message := "cannot read document: " ++ f.message (Text.quoted p.text)
    (r.countDocument.emit l (.documentFailure (w.nameOf fs p) message), none)
  | .ok d => lintDocument l checks d { r with told := l.progress ("Linting " ++ d.name) r.told }

/-- The documents at paths of a workspace, up to one that ends the run. -/
def lintPaths (l : Listener ρ) (checks : List (Check σ)) (fs : FileSystem) (w : Workspace) :
    List Path → Run σ ρ → Run σ ρ × Option Halt
  | [], r => (r, none)
  | p :: rest, r =>
    match lintPath l checks fs w p r with
    | (r, some h) => (r, some h)
    | (r, none) => lintPaths l checks fs w rest r

/-- The documents of a workspace. A glob that cannot be read ends the run when its turn
    comes. -/
def lintWorkspace (l : Listener ρ) (checks : List (Check σ)) (fs : FileSystem) (w : Workspace)
    (r : Run σ ρ) : Run σ ρ × Option Halt :=
  let selection := w.selection fs
  match lintPaths l checks fs w selection.paths r with
  | (r, some h) => (r, some h)
  | (r, none) => (r, selection.fault.map fun f => .workspace (.glob f))

/-- A run that begins. -/
def start (shared : σ) (told : ρ) : Run σ ρ := ⟨.empty, shared, told⟩

end Run

end Annals
