import Annals.Text.Blank
import Annals.Text.Line
import Annals.Text.Width

/-!
# Text on a Screen

Text is shown without the characters that move the place where it is written, and
with spaces in place of tabs, whose stops are eight columns apart. Lines are left
as long as they are, or broken between words where they would be too long.

## Main definitions

* `Screen.plain`: A text as it is shown.
* `Screen.wrapped`: A text as it is shown in so many columns.
-/

namespace Annals

namespace Screen

/-- Whether a character moves the place of writing: bell, backspace, vertical tab, form
    feed and carriage return. -/
def isMover (c : Char) : Bool := [7, 8, 11, 12, 13].contains c.toNat

/-- The distance between the stops of tabs. -/
def tabWidth : Nat := 8

/-- The pieces between the tabs of a line with spaces in place of the tabs, from a
    column on. A tab is a space at least, and goes on to the next stop. -/
def spread (column : Nat) : List (List Char) → List Char
  | [] => []
  | [piece] => piece
  | piece :: rest =>
    let stop := column + Text.width (piece ++ [' '])
    let gap := (tabWidth - stop % tabWidth) % tabWidth
    piece ++ List.replicate (gap + 1) ' ' ++ spread (stop + gap) rest

/-- The lines of a text, each as it is shown. -/
def lines (s : String) : List (List Char) :=
  (Text.splitOn '\n' (s.toList.filter fun c => !isMover c)).map fun line =>
    spread 0 (Text.splitOn '\t' line)

/-- A text as it is shown. -/
def plain (s : String) : String := "\n".intercalate ((lines s).map String.ofList)

/-- A text with the blanks after each of its words put to the word. What is blank before
    the first word is put to it too. -/
def wordsFrom (word : List Char) : List Char → List (List Char)
  | [] => if word.all Text.isBlank then [] else [word.reverse]
  | c :: rest =>
    if !Text.isBlank c && word.head?.any Text.isBlank && !word.all Text.isBlank then
      word.reverse :: wordsFrom [c] rest
    else wordsFrom (c :: word) rest

/-- Cells in pieces that take at most `room` columns; `taken` are taken by the piece so
    far. -/
def fold (room taken : Nat) (piece : List Char) : List Text.Cell → List (List Char)
  | [] => [piece]
  | cell :: rest =>
    if room < taken + cell.columns then piece :: fold room cell.columns cell.chars rest
    else fold room (taken + cell.columns) (piece ++ cell.chars) rest

/-- Words on lines that take at most `room` columns; `line` is the line so far, and
    takes `taken`. Only a word that is too long for any line is taken apart. -/
def fill (room : Nat) (line : List Char) (taken : Nat) : List (List Char) → List (List Char)
  | [] => [line]
  | word :: rest =>
    let needed := Text.width (Text.trimEnd word)
    if taken + needed ≤ room then fill room (line ++ word) (taken + Text.width word) rest
    else if room < needed then
      let pieces := fold room 0 [] (Text.cells word)
      let last := pieces.getLast?.getD []
      (if line.isEmpty then [] else [line]) ++ pieces.dropLast ++
        fill room last (Text.width last) rest
    else line :: fill room word (Text.width word) rest

/-- As many cells as there is room for; half of a wide character is a space. -/
def fitting (room : Nat) : List Text.Cell → List Char
  | [] => []
  | cell :: rest =>
    if room == 0 then []
    else if room < cell.columns then [' ']
    else cell.chars ++ fitting (room - cell.columns) rest

/-- A line with as many blanks at its end taken off as it has characters beyond `room`,
    and with at most `room` columns. -/
def cropped (room : Nat) (line : List Char) : List Char :=
  let blanks := line.length - (Text.trimEnd line).length
  let short := line.take (line.length - min blanks (line.length - room))
  if room < Text.width short then fitting room (Text.cells short) else short

/-- A line broken into lines of so many columns. -/
def brokenLine (room : Nat) (line : List Char) : List (List Char) :=
  if line.all Text.isBlank then [line] else fill room [] 0 (wordsFrom [] line)

/-- A text as it is shown in so many columns. -/
def wrapped (room : Nat) (s : String) : String :=
  let broken := (lines s).flatMap (brokenLine room)
  "\n".intercalate (broken.map fun line => String.ofList (cropped room line))

end Screen

end Annals
