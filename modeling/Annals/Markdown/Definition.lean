import Annals.Markdown.BlockStart
import Annals.Markdown.LinkParts

/-!
# Link Definitions

A block can give a label a destination and a title, so that links elsewhere in
the document can name the label only. The parts may stand on several lines. A
title that is followed by other text is no title; the definition then ends
after the destination, if nothing else stands on that line.

## Main definitions

* `Markdown.Place.definitionText`: The lines that a definition may take.
* `Markdown.definition?`: The label that is defined, and where the definition
  ends.
-/

namespace Annals

namespace Markdown

/-- The text from line `n` on that may belong to a block without marks of its
    own: up to an empty line, or one that begins another block. -/
def Place.continuation (p : Place) : (fuel : Nat) → (n : Nat) → List Char
  | 0, _ => []
  | fuel + 1, n =>
    let l := p.line n
    if p.limit ≤ n || l.isEmpty then []
    else if p.isCode l || l.indent < 0 || !p.interrupts false l then
      l.contentWithEnd ++ p.continuation fuel (n + 1)
    else []

/-- The text that a definition which begins on line `n` may take. -/
def Place.definitionText (p : Place) (n : Nat) : List Char :=
  (p.line n).contentWithEnd ++ p.continuation (p.lines.size - n) (n + 1)

/-- A label in brackets, after the opening one: its text, and what follows the
    colon after it. -/
def definitionLabel? : (taken : List Char) → List Char → Option (List Char × List Char)
  | taken, ']' :: ':' :: rest => some (taken.reverse, rest)
  | taken, '\\' :: c :: rest => definitionLabel? (c :: '\\' :: taken) rest
  | taken, c :: rest =>
    if c == '[' || c == ']' then none else definitionLabel? (c :: taken) rest
  | _, [] => none

/-- Whether `c` may stand between the parts of a definition. -/
def isGap (c : Char) : Bool := isSpace c || c == '\n'

/-- Whether nothing but blanks is left on a line. -/
def lineEnds (cs : List Char) : Bool :=
  match cs.dropWhile isSpace with
  | [] => true
  | c :: _ => c == '\n'

/-- What follows the title of a definition, if it has one that is not followed
    by other text: `rest` follows the destination. A title must stand apart
    from the destination, unless it goes on over several lines. -/
def definitionTitle? (rest : List Char) : Option (Bool × List Char) :=
  let start := rest.dropWhile isGap
  match LinkParts.title? start with
  | some (filled, after) =>
    let taken := start.take (start.length - after.length)
    if start.length < rest.length || taken.contains '\n' then some (filled, after) else none
  | none => none

/-- The label that is defined at the start of a text, as it is compared, and how
    many line ends the definition takes before its last line. -/
def definition? (text : List Char) : Option (List Char × Nat) :=
  match text with
  | '[' :: body => do
    let (label, rest) ← definitionLabel? [] body
    let (target, rest) ← LinkParts.destination? (rest.dropWhile isGap)
    let label := LinkParts.normalized label
    -- A title that something follows on its line is none; then the definition may end before it.
    let after ← match definitionTitle? rest with
      | some (filled, after) =>
        if lineEnds after then some after
        else if filled && lineEnds rest then some rest
        else none
      | none => if lineEnds rest then some rest else none
    if LinkParts.isAllowedAsWritten target && !label.isEmpty then
      some (label, (text.take (text.length - after.length)).count '\n')
    else none
  | _ => none

end Markdown

end Annals
