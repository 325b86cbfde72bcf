import Annals.Files.Wildcard
import Annals.Text.Blank
import Annals.Text.Quoted

/-!
# Ignore Patterns

A list of patterns says which paths are left out. A pattern names a path from the
root, or one at any depth if it is a single name; what is below a path that is left
out is left out too. An exclamation mark takes back what patterns before it have
left out, so the last pattern that matches decides.

## Main definitions

* `Ignore.Rule`: A pattern that has been read.
* `Ignore.readRule`: Reads a pattern.
* `Ignore.isIgnored`: Whether a path is left out.
-/

namespace Annals

namespace Ignore

open Pattern (Expr)
open Wildcard (Piece slash notSlash inSet pieces?)

/-- A pattern that has been read: what it matches, and whether it leaves out or takes
    back. -/
structure Rule where
  expr : Expr
  ignores : Bool

/-- Why a pattern cannot be read: it says nothing, or a range in one of its sets goes
    backwards, in the expression that is made of it, at a position there. -/
inductive Fault where
  | invalid (pattern : String)
  | backwardRange (expression : List Char) (position : Nat) (low high : Char)
  deriving DecidableEq, Repr

/-- The wording of a fault. -/
def Fault.message : Fault → String
  | invalid pattern => "Invalid git pattern: " ++ Text.quoted pattern
  | backwardRange text position low high =>
    (Pattern.Fault.malformed (Pattern.badRange (inSet low) (inSet high)) position).message text

/-- At least one of some character. -/
def some1 (one : Expr) : Expr := .repeat one 1 none .most

/-- A part that can be missing. -/
def maybe (e : Expr) : Expr := .repeat e 0 (some 1) .most

/-- Segments with runs of double stars made one. -/
def collapseStars : List String → List String
  | "**" :: "**" :: rest => collapseStars ("**" :: rest)
  | s :: rest => s :: collapseStars rest
  | [] => []

/-- Segments from the root: a leading slash is dropped, and a single name gets double
    stars before it. Nothing is left of a pattern that is not valid. -/
def fromRoot (segments : List String) : List String :=
  match segments with
  | "" :: rest => rest
  | [s] => if s == "**" then [s] else ["**", s]
  | [s, ""] => if s == "**" then [s, ""] else ["**", s, ""]
  | segments => segments

/-- Segments with double stars for the end of a pattern for directories. -/
def withoutSlash (segments : List String) : List String :=
  if segments.getLast? == some "" then segments.dropLast ++ ["**"] else segments

/-- The end of a name: of the path, or of a directory on the way to it. -/
def nameEnd : Piece := .of "(?:/|$)" (.alt (.char '/'.toNat) (.place (.stop true)))

/-- Directories and the slash after them, which can be missing. -/
def leading : Piece := .of "(?:.+/)?" (maybe (.seq (some1 (.any false)) (.char '/'.toNat)))

/-- A slash and directories, which can be missing. -/
def inner : Piece := .of "(?:/.+)?" (maybe (.seq (.char '/'.toNat) (some1 (.any false))))

/-- The parts of segments. `isFirst` says whether nothing was matched yet, and
    `needsSlash` whether a slash has to come first. -/
def ofSegments : (isFirst needsSlash : Bool) → List String → Option (List Piece)
  | _, _, [] => some []
  | false, _, ["**"] => some [slash]
  | true, _, "**" :: rest => do return leading :: (← ofSegments false false rest)
  | false, _, "**" :: rest => do return inner :: (← ofSegments false true rest)
  | _, needsSlash, s :: rest => do
    let name ← if s == "*" then some [Piece.of "[^/]+" (some1 notSlash)] else pieces? s
    let name := if needsSlash then slash :: name else name
    if rest.isEmpty then return name ++ [nameEnd]
    return name ++ (← ofSegments false true rest)

/-- What parts mean one after another; `before` is what is written before them, and
    `text` all that is written. -/
def meaning (text before : List Char) : List Piece → Except Fault Expr
  | [] => .ok .empty
  | p :: rest =>
    match p.meaning with
    | .error r => .error (.backwardRange text (before.length + r.before) r.low r.high)
    | .ok e => do return .seq e (← meaning text (before ++ p.text) rest)

/-- The pattern of segments that begin at the root. Some of them ask for nothing but
    a name or a slash at any place. -/
def ofRoot (line : String) (forDirectories : Bool) (segments : List String) : Except Fault Expr :=
  match segments with
  | ["**"] => .ok (if forDirectories then .char '/'.toNat else .any false)
  | ["**", "*"] => .ok (.any false)
  | ["**", "*", "**"] => .ok (.char '/'.toNat)
  | segments =>
    match ofSegments true false segments with
    | none => .error (.invalid line)
    | some pieces =>
      let pieces := Piece.of "^" (.place .start) :: pieces
      meaning (pieces.flatMap Piece.text) [] pieces

/-- Reads a pattern. A comment, a single slash and an empty line say nothing. -/
def readRule (line : String) : Except Fault (Option Rule) := do
  -- An escaped blank at the end is part of the name, so nothing is taken off then.
  let text := if line.endsWith "\\ " then line.toList else Text.trimEnd line.toList
  if text.head? == some '#' || text == ['/'] || text.isEmpty then return none
  let (ignores, text) := match text with
    | '!' :: rest => (false, rest)
    | _ => (true, text)
  let segments := (Text.splitOn '/' text).map String.ofList
  let forDirectories := segments.getLast? == some ""
  let segments := fromRoot segments
  if segments.isEmpty then throw (.invalid line)
  let e ← ofRoot line forDirectories (collapseStars (withoutSlash segments))
  return some ⟨e, ignores⟩

/-- Reads patterns. -/
def readRules (lines : List String) : Except Fault (List Rule) := do
  return (← lines.mapM readRule).filterMap id

/-- Whether a pattern matches a path. -/
def Rule.hits (r : Rule) (path : String) : Bool := Pattern.occursIn r.expr path

/-- A path as patterns see it: without a slash or a dot and a slash at its start. -/
def seen (path : String) : String :=
  match path.toList with
  | '/' :: rest => String.ofList rest
  | '.' :: '/' :: rest => String.ofList rest
  | _ => path

/-- Whether a path is left out: as the last pattern that matches says. -/
def isIgnored (rules : List Rule) (path : String) : Bool :=
  match rules.reverse.find? (·.hits (seen path)) with
  | some r => r.ignores
  | none => false

end Ignore

end Annals
