import Annals.Pattern.Search
import Annals.Text.Line

/-!
# Wildcards in Names

A name with wildcards is read as a pattern: a star for any characters, a question
mark for one character, brackets for a set of characters. Names in globs and names
in ignore patterns differ in what a backslash means, in what a star may match, and
in how a set is written.

## Main definitions

* `Wildcard.name`: The pattern of a name in a glob.
* `Wildcard.Piece`, `Wildcard.pieces?`: The parts of a name in an ignore pattern.
-/

namespace Annals

namespace Wildcard

open Pattern (Expr)

/-- Any characters for which `one` stands. -/
def many (one : Expr) : Expr := .repeat one 0 none .most

/-- The set in brackets, after the opening bracket: what is in it, and what
    follows. A bracket that comes first does not close the set. -/
def bracket? (isNegation : Char → Bool) (cs : List Char) : Option (List Char × List Char) :=
  let (first, rest) := match cs with
    | c :: rest => if isNegation c then ([c], rest) else ([], cs)
    | [] => ([], [])
  let (second, rest) := match rest with
    | ']' :: rest => ([']'], rest)
    | rest => ([], rest)
  match rest.dropWhile (· != ']') with
  | [] => none
  | _ :: after => some (first ++ second ++ rest.takeWhile (· != ']'), after)

/-- The pieces of a set between the hyphens that make ranges. A hyphen makes none
    if it comes first, or before a character of the range before it has passed. -/
def rangePieces (piece : List Char) (skip : Nat) : List Char → List (List Char)
  | [] => [piece.reverse]
  | c :: rest =>
    if c == '-' && skip == 0 then piece.reverse :: rangePieces [] 2 rest
    else rangePieces (c :: piece) (skip - 1) rest

/-- Pieces with ranges that go backwards taken away: the last piece with the one
    before it, up to the first. -/
def withoutEmptyRanges : List (List Char) → List (List Char)
  | [] => []
  | piece :: rest =>
    match withoutEmptyRanges rest with
    | [] => [piece]
    | next :: others =>
      match piece.getLast?, next with
      | some a, b :: tail =>
        if b < a then (piece.dropLast ++ tail) :: others else piece :: next :: others
      | _, _ => piece :: next :: others

/-- A text with each character of a kind after a backslash. -/
def escaped (isSpecial : Char → Bool) (cs : List Char) : List Char :=
  cs.flatMap fun c => if isSpecial c then ['\\', c] else [c]

/-- The written form of a set in a glob, without its brackets. -/
def setText (cs : List Char) : List Char :=
  let stuff := if cs.contains '-' then
      let pieces := rangePieces [] (if cs.head? == some '!' then 2 else 1) cs
      -- A hyphen at the end makes no range; it goes back to the piece before it.
      let pieces := match pieces.getLast? with
        | some [] => match pieces.dropLast with
          | [] => pieces
          | init => init.dropLast ++ [(init.getLast?.getD []) ++ ['-']]
        | _ => pieces
      Text.joinWith ['-']
        ((withoutEmptyRanges pieces).map (escaped fun c => c == '\\' || c == '-'))
    else escaped (· == '\\') cs
  escaped (fun c => c == '&' || c == '~' || c == '|') stuff

/-- The set that a written form means, without its brackets. -/
def readSet (negated : Bool) (cs : List Char) : Option Expr :=
  match Pattern.setMembers (.start 0) 0 (cs.length + 2) [] (cs ++ [']']) with
  | .ok (members, []) => some (.set negated members .exact)
  | _ => none

/-- The set in a glob. -/
def globSet (cs : List Char) : Option Expr :=
  match setText cs with
  | [] => some .fail
  | ['!'] => some (.any true)
  | '!' :: rest => readSet true rest
  | c :: rest => readSet false (if c == '^' || c == '[' then '\\' :: c :: rest else c :: rest)

/-- The parts of a name in a glob. -/
def nameFrom : (fuel : Nat) → List Char → Option Expr
  | 0, _ => none
  | _, [] => some .empty
  | fuel + 1, c :: rest =>
    match c with
    | '*' => (nameFrom fuel rest).map (.seq (many (.any true)))
    | '?' => (nameFrom fuel rest).map (.seq (.any true))
    | '[' =>
      match bracket? (· == '!') rest with
      | none => (nameFrom fuel rest).map (.seq (.char '['.toNat))
      | some (inside, after) => do return .seq (← globSet inside) (← nameFrom fuel after)
    | c => (nameFrom fuel rest).map (.seq (.char c.toNat))

/-- The pattern of a name in a glob; it matches the whole name. -/
def name (s : String) : Option Expr :=
  (nameFrom (s.length + 1) s.toList).map fun e => .seq e (.place (.stop false))

/-- Whether a text has wildcards. -/
def isWild (s : String) : Bool := s.toList.any fun c => c == '*' || c == '?' || c == '['

/-- Any character but a slash. -/
def notSlash : Expr := .set true [.char '/'.toNat] .exact

/-- A range in a set whose first character comes after its last one, and the number of
    characters before it in the written form of the set. -/
structure BackwardRange where
  low : Char
  high : Char
  before : Nat
  deriving DecidableEq, Repr

/-- A character of a set in an ignore pattern, as it is written where a backslash makes
    an escape. -/
def inSet (c : Char) : List Char := if c == '\\' then ['\\', '\\'] else [c]

/-- The members of a set in an ignore pattern: ranges with a hyphen between two
    characters, and single characters. `before` is the length of what was written. -/
def members (before : Nat) : List Char → Except BackwardRange (List Pattern.Member)
  | low :: '-' :: high :: rest =>
    if high < low then .error ⟨low, high, before⟩
    else do
      let next := before + (inSet low).length + 1 + (inSet high).length
      return .range low.toNat high.toNat :: (← members next rest)
  | c :: rest => do return .char c.toNat :: (← members (before + (inSet c).length) rest)
  | [] => .ok []

/-- A part of an ignore pattern: the expression that it is written as, and what this
    means. -/
structure Piece where
  text : List Char
  meaning : Except BackwardRange Expr

/-- A part with a meaning. -/
def Piece.of (text : String) (e : Expr) : Piece := ⟨text.toList, .ok e⟩

/-- A slash. -/
def slash : Piece := .of "/" (.char '/'.toNat)

/-- Whether a character has a meaning of its own in an expression. -/
def isSpecial (c : Char) : Bool := "()[]\x7b\x7d?*+-|^$\\.&~# \t\n\r\x0b\x0c".toList.contains c

/-- A character that stands for itself. -/
def literal (c : Char) : Piece := ⟨escaped isSpecial [c], .ok (.char c.toNat)⟩

/-- The set in an ignore pattern with what is inside its brackets. -/
def ignoreSet (inside : List Char) : Piece :=
  let (negated, inside) := match inside with
    | '!' :: inside => (true, inside)
    | '^' :: inside => (true, inside)
    | _ => (false, inside)
  let start := if negated then ['[', '^'] else ['[']
  ⟨start ++ inside.flatMap inSet ++ [']'],
    (members start.length inside).map fun found => .set negated found .exact⟩

/-- The parts of a name in an ignore pattern, unless it ends with a backslash that
    nothing comes after. -/
def piecesFrom : (fuel : Nat) → List Char → Option (List Piece)
  | 0, _ => some []
  | _, [] => some []
  | fuel + 1, c :: rest =>
    match c, rest with
    | '\\', [] => none
    | '\\', c :: rest => (piecesFrom fuel rest).map (literal c :: ·)
    | '*', _ => (piecesFrom fuel rest).map (.of "[^/]*" (many notSlash) :: ·)
    | '?', _ => (piecesFrom fuel rest).map (.of "[^/]" notSlash :: ·)
    | '[', _ =>
      match bracket? (fun c => c == '!' || c == '^') rest with
      | none => (piecesFrom fuel rest).map (literal '[' :: ·)
      | some (inside, after) => (piecesFrom fuel after).map (ignoreSet inside :: ·)
    | c, _ => (piecesFrom fuel rest).map (literal c :: ·)

/-- The parts of a name in an ignore pattern. -/
def pieces? (s : String) : Option (List Piece) := piecesFrom (s.length + 1) s.toList

end Wildcard

end Annals
