import Annals.Text.Surrogate
import Annals.Yaml.Token

/-!
# Scalars Within a Line

Plain and quoted scalars. Both may go on over several lines: the end of a line
and the blanks around it are read as one blank, and an empty line as a line end.
A mark that separates documents ends a plain scalar and may not stand in a quoted
one.

A plain scalar ends before a comment, at a colon that a gap follows, and in a
block where a line is not indented enough; inside brackets it also ends at the
marks that brackets give a meaning to.

## Main definitions

* `Yaml.plainScalar`: A plain scalar.
* `Yaml.quotedScalar`: A scalar in single or double quotes.
-/

namespace Annals

namespace Yaml

/-- Whether `c` separates entries or ends a collection in brackets. -/
def isFlowMark (c : Char) : Bool :=
  c == ',' || c == '[' || c == ']' || c.toNat == 123 || c.toNat == 125

/-- The place where the words of a plain scalar stop, on this line, at a gap or
    at a mark. -/
def wordEnd (inFlow : Bool) (c : Cursor) : Cursor :=
  if _ : c.mark.index < c.text.size then
    let char := c.peek
    let after := c.peek 1
    let stops := isGap char || (char == ':' && (isGap after || (inFlow && isFlowMark after))) ||
      (inFlow && (isFlowMark char || char == '?'))
    if stops then c else wordEnd inFlow c.next
  else c
termination_by c.left
decreasing_by exact Cursor.left_next c ‹_›

/-- The line ends, each as it is read, in the blanks and empty lines from here
    on, and the place after them. None if documents are separated there. -/
def emptyLines : (fuel : Nat) → Cursor → Option (List Char) × Cursor
  | 0, c => (some [], c)
  | fuel + 1, c =>
    if c.peek == ' ' then emptyLines fuel c.next
    else if isBreak c.peek then
      let (ends, c) := c.lineEnd
      if c.atSeparator then (none, c)
      else
        let (rest, c) := emptyLines fuel c
        (rest.map (ends ++ ·), c)
    else (some [], c)

/-- How the end of a line is read together with the empty lines after it. -/
def folded (lineEnd empty : List Char) : List Char :=
  (if lineEnd != ['\n'] then lineEnd else if empty.isEmpty then [' '] else []) ++ empty

/-- What a gap in a plain scalar is read as, the place after it, and whether a
    line ended in it. A scalar does not go on after an empty gap. -/
def plainGap (c : Cursor) : List Char × Cursor × Bool :=
  let (blanks, c) := c.takeWhile (· == ' ')
  if isBreak c.peek then
    let (first, c) := c.lineEnd
    if c.atSeparator then ([], c, true)
    else
      match emptyLines (c.left + 1) c with
      | (none, c) => ([], c, true)
      | (some empty, c) => (folded first empty, c, true)
  else (blanks, c, false)

/-- What was read of a plain scalar: its text, the place after it, the place from
    which reading goes on, and whether a line ended between them. -/
structure PlainText where
  text : List Char
  stop : Mark
  after : Cursor
  broke : Bool

/-- A plain scalar from here on, after what was read of it so far and a gap. -/
def plainFrom (inFlow : Bool) (indent : Int) : (fuel : Nat) → (gap : List Char) → PlainText →
    PlainText
  | 0, _, read => read
  | fuel + 1, gap, read =>
    let c := read.after
    let stop := if c.peek == '#' then c else wordEnd inFlow c
    if stop.mark.index == c.mark.index then read
    else
      let text := read.text ++ gap ++ c.upTo stop
      let (gap, after, broke) := plainGap stop
      let read : PlainText := ⟨text, stop.mark, after, broke⟩
      if gap.isEmpty || after.peek == '#' || (!inFlow && after.column < indent) then read
      else plainFrom inFlow indent fuel gap read

/-- A plain scalar, whose lines are indented by `indent` columns at least, and
    whether reading goes on on another line. -/
def plainScalar (inFlow : Bool) (indent : Int) (c : Cursor) : Token × Cursor × Bool :=
  let read := plainFrom inFlow indent (c.left + 1) [] ⟨[], c.mark, c, false⟩
  (⟨.scalar (String.ofList read.text) true, c.mark, read.stop⟩, read.after, read.broke)

/-- What is going on when a quoted scalar is read. -/
def quotedContext : String := "while scanning a quoted scalar"

/-- What is going on when an escape is read. -/
def escapeContext : String := "while scanning a double-quoted scalar"

/-- The character that stands for another after a backslash. -/
def escaped? (c : Char) : Option Char :=
  match c with
  | '0' => some (Char.ofNat 0)
  | 'a' => some (Char.ofNat 7)
  | 'b' => some (Char.ofNat 8)
  | 't' | '\t' => some '\t'
  | 'n' => some '\n'
  | 'v' => some (Char.ofNat 11)
  | 'f' => some (Char.ofNat 12)
  | 'r' => some '\r'
  | 'e' => some (Char.ofNat 27)
  | ' ' => some ' '
  | '"' => some '"'
  | '\\' => some '\\'
  | '/' => some '/'
  | 'N' => some (Char.ofNat 0x85)
  | '_' => some (Char.ofNat 0xA0)
  | 'L' => some (Char.ofNat 0x2028)
  | 'P' => some (Char.ofNat 0x2029)
  | _ => none

/-- The number of digits of a character number after a backslash. -/
def escapedDigits? (c : Char) : Option Nat :=
  match c with
  | 'x' => some 2
  | 'u' => some 4
  | 'U' => some 8
  | _ => none

/-- The number of a character, or of half a surrogate pair, if it is one. -/
def checkedNumber (code : Nat) : Except Fault Nat :=
  if 0x7FFFFFFF < code then .error (.defect (.range "Python int too large to convert to C int"))
  else if 0x10FFFF < code then .error (.defect (.value "chr() arg not in range(0x110000)"))
  else .ok code

/-- The number of a character that `count` digits from here on spell. -/
def spelledNumber (start : Mark) (count : Nat) (c : Cursor) : Except Fault Nat :=
  let digits := (List.range count).map (c.peek ·)
  match digits.find? (!Text.isHexDigit ·) with
  | some found => .error (scanFault escapeContext start
      ("expected escape sequence of " ++ toString count ++ " hexadecimal numbers, but found " ++
        quotedChar found) c.mark)
  | none => checkedNumber (Text.hexNumber digits)

/-- The line ends between here and the next character that is no blank. -/
def quotedLines (start : Mark) : (fuel : Nat) → Cursor → Except Fault (List Char × Cursor)
  | 0, c => .ok ([], c)
  | fuel + 1, c =>
    if c.atSeparator then
      .error (scanFault quotedContext start "found unexpected document separator" c.mark)
    else
      let c := c.skipWhile fun d => d == ' ' || d == '\t'
      if isBreak c.peek then do
        let (ends, c) := c.lineEnd
        let (rest, c) ← quotedLines start fuel c
        return (ends ++ rest, c)
      else .ok ([], c)

/-- The numbers of the characters of a text. -/
def numbersOf (cs : List Char) : List Nat := cs.map Char.toNat

/-- The numbers of the characters that an escape stands for, and the place after
    it. -/
def quotedEscape (start : Mark) (c : Cursor) : Except Fault (List Nat × Cursor) := do
  let c := c.next
  match escaped? c.peek, escapedDigits? c.peek with
  | some char, _ => return ([char.toNat], c.next)
  | none, some count =>
    let number ← spelledNumber start count c.next
    return ([number], c.next.skip count)
  | none, none =>
    if isBreak c.peek then
      let (_, c) := c.lineEnd
      let (ends, c) ← quotedLines start (c.left + 1) c
      return (numbersOf ends, c)
    else throw (scanFault escapeContext start
      ("found unknown escape character " ++ quotedChar c.peek) c.mark)

/-- A gap in a quoted scalar: blanks, or the ends of lines. -/
def quotedGap (start : Mark) (c : Cursor) : Except Fault (List Char × Cursor) := do
  let (blanks, c) := c.takeWhile fun d => d == ' ' || d == '\t'
  if c.peek == endChar then
    throw (scanFault quotedContext start "found unexpected end of stream" c.mark)
  else if isBreak c.peek then
    let (first, c) := c.lineEnd
    let (empty, c) ← quotedLines start (c.left + 1) c
    return (folded first empty, c)
  else return (blanks, c)

/-- The numbers of the characters of a quoted scalar from here on up to its closing
    quote. -/
def quotedFrom (double : Bool) (start : Mark) : (fuel : Nat) → Cursor →
    Except Fault (List Nat × Cursor)
  | 0, c => .ok ([], c)
  | fuel + 1, c =>
    let char := c.peek
    let goOn (numbers : List Nat) (c : Cursor) : Except Fault (List Nat × Cursor) := do
      let (rest, stop) ← quotedFrom double start fuel c
      return (numbers ++ rest, stop)
    let goOnAfter (part : List Char × Cursor) := goOn (numbersOf part.1) part.2
    if isGap char then (quotedGap start c).bind goOnAfter
    -- Between single quotes, two of them stand for one.
    else if !double && char == '\'' && c.peek 1 == '\'' then goOn [char.toNat] (c.skip 2)
    else if char == (if double then '"' else '\'') then .ok ([], c)
    else if double && char == '\\' then (quotedEscape start c).bind fun (numbers, c) => goOn numbers c
    else
      let isPlain := fun d => !isGap d && d != '\'' && d != '"' && d != '\\'
      if isPlain char then goOnAfter (c.takeWhile isPlain) else goOn [char.toNat] c.next

/-- A scalar in quotes. -/
def quotedScalar (c : Cursor) : Except Fault Read := do
  let double := c.peek == '"'
  let (numbers, stop) ← quotedFrom double c.mark (c.left + 2) c.next
  return (⟨.scalar (String.ofList (Text.joinHalves numbers)) false, c.mark, stop.next.mark⟩, stop.next)

end Yaml

end Annals
