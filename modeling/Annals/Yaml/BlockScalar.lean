import Annals.Yaml.Token

/-!
# Scalars of Several Lines

Literal and folded scalars. A header tells how the text is indented and what
becomes of the line ends behind it; without a number in the header, the first
line that is not empty tells the indentation. In a folded scalar a single line
end between two lines of text becomes a blank, unless one of them begins with a
blank of its own.

## Main definitions

* `Yaml.Chomping`, `Yaml.BlockHeader`: What a header tells.
* `Yaml.blockScalar`: A literal or a folded scalar.
-/

namespace Annals

namespace Yaml

/-- What becomes of the line ends behind a text: one is kept, none or all. -/
inductive Chomping where
  | clip
  | strip
  | keep
  deriving DecidableEq, Repr

/-- What a header tells: the chomping and, if given, the indentation. -/
structure BlockHeader where
  chomping : Chomping
  indent : Option Nat
  deriving Repr

/-- What is going on when a scalar of several lines is read. -/
def blockContext : String := "while scanning a block scalar"

/-- The chomping that a character stands for. -/
def chomping? (c : Char) : Option Chomping :=
  if c == '+' then some .keep else if c == '-' then some .strip else none

/-- The indentation at the start of the text, if there is one. -/
def blockIndent? (start : Mark) (c : Cursor) : Except Fault (Option Nat × Cursor) :=
  if Text.isAsciiDigit c.peek then
    let indent := Text.decimalValue [c.peek]
    if indent == 0 then
      .error (scanFault blockContext start
        "expected indentation indicator in the range 1-9, but found 0" c.mark)
    else .ok (some indent, c.next)
  else .ok (none, c)

/-- The header of a scalar: chomping and indentation in either order. -/
def blockHeader (start : Mark) (c : Cursor) : Except Fault (BlockHeader × Cursor) := do
  let (header, c) ←
    match chomping? c.peek with
    | some chomping => do
      let (indent, c) ← blockIndent? start c.next
      pure (BlockHeader.mk chomping indent, c)
    | none => do
      let (indent, c) ← blockIndent? start c
      match indent.bind fun _ => chomping? c.peek with
      | some chomping => pure (⟨chomping, indent⟩, c.next)
      | none => pure (⟨.clip, indent⟩, c)
  if isWordEnd c.peek then return (header, c)
  else throw (scanFault blockContext start
    ("expected chomping or indentation indicators, but found " ++ quotedChar c.peek) c.mark)

/-- Empty lines together with the blanks before the text of a scalar whose
    indentation is not given: the line ends, the greatest column that blanks
    reach, and the places after the last line end and after all. -/
def measuredLines : (fuel : Nat) → (widest : Nat) → (stop : Mark) → Cursor →
    List Char × Nat × Mark × Cursor
  | 0, widest, stop, c => ([], widest, stop, c)
  | fuel + 1, widest, stop, c =>
    if c.peek == ' ' then measuredLines fuel (max widest c.next.mark.column) stop c.next
    else if isBreak c.peek then
      let (ends, c) := c.lineEnd
      let (rest, widest, stop, c) := measuredLines fuel widest c.mark c
      (ends ++ rest, widest, stop, c)
    else ([], widest, stop, c)

/-- Skips blanks up to a column. -/
def skipIndent (indent : Int) (c : Cursor) : Cursor :=
  if _ : c.mark.index < c.text.size then
    if c.column < indent && c.peek == ' ' then skipIndent indent c.next else c
  else c
termination_by c.left
decreasing_by exact Cursor.left_next c ‹_›

/-- Empty lines before a line of text with a given indentation: the line ends, and
    the places after the last of them and after all. -/
def indentedLines (indent : Int) : (fuel : Nat) → (stop : Mark) → Cursor →
    List Char × Mark × Cursor
  | 0, stop, c => ([], stop, c)
  | fuel + 1, stop, c =>
    let c := skipIndent indent c
    if isBreak c.peek then
      let (ends, c) := c.lineEnd
      let (rest, stop, c) := indentedLines indent fuel c.mark c
      (ends ++ rest, stop, c)
    else ([], stop, c)

/-- The lines of a scalar from here on: their text, the place after them, and the
    place from which reading goes on. The line ends `empty` of the empty lines
    before a line belong to it. -/
def blockLines (isFolded : Bool) (chomping : Chomping) (indent : Int) : (fuel : Nat) →
    (lineEnd empty : List Char) → (stop : Mark) → Cursor → List Char × Mark × Cursor
  | 0, _, _, stop, c => ([], stop, c)
  | fuel + 1, lineEnd, empty, stop, c =>
    if c.column == indent && c.peek != endChar then
      let isText := fun d => d != ' ' && d != '\t'
      let leads := isText c.peek
      let (line, c) := c.takeWhile (!isLineEnd ·)
      let (ends, c) := c.lineEnd
      let (nextEmpty, stop, c) := indentedLines indent (c.left + 1) c.mark c
      let between :=
        if c.column == indent && c.peek != endChar then
          -- Two lines of text become one, with a blank between them unless there are empty lines,
          -- whose ends are kept.
          if isFolded && ends == ['\n'] && leads && isText c.peek then
            if nextEmpty.isEmpty then [' '] else []
          else ends
        else []
      let (rest, stop, c) := blockLines isFolded chomping indent fuel ends nextEmpty stop c
      (empty ++ line ++ between ++ rest, stop, c)
    else
      let tail := match chomping with
        | .clip => lineEnd
        | .strip => []
        | .keep => lineEnd ++ empty
      (tail, stop, c)

/-- A literal or a folded scalar in a block that is indented by `around`
    columns. -/
def blockScalar (around : Int) (c : Cursor) : Except Fault Read := do
  let isFolded := c.peek == '>'
  let (header, body) ← blockHeader c.mark c.next
  let body ← restOfLine blockContext c.mark body
  let least := max (around + 1) 1
  let (empty, indent, stop, body) :=
    match header.indent with
    | some more =>
      let indent := least + more - 1
      let (empty, stop, body) := indentedLines indent (body.left + 1) body.mark body
      (empty, indent, stop, body)
    | none =>
      let (empty, widest, stop, body) := measuredLines (body.left + 1) 0 body.mark body
      (empty, max least (widest : Int), stop, body)
  let (text, stop, after) :=
    blockLines isFolded header.chomping indent (body.left + 1) [] empty stop body
  return (⟨.scalar (String.ofList text) false, c.mark, stop⟩, after)

end Yaml

end Annals
