/-!
# Lines

Three ways in which a text falls into lines. A file is read with every line
end turned into a line feed. A text is cut into lines at any of the line marks
that text in general knows. Columns are counted with tab stops eight apart.

## Main definitions

* `Text.isLineMark`: The characters at which a text is cut into lines.
* `Text.lines`: The lines of a text, without their ends.
* `Text.joinLineEnds`: The text with every line end written as a line feed.
* `Text.splitOn`: The pieces of a text between the occurrences of a character.
-/

namespace Annals

namespace Text

/-- The characters that end a line: line feed, vertical tab, form feed,
    carriage return, the file, group and record separators, next line, and the
    line and paragraph separators. -/
def isLineMark (c : Char) : Bool :=
  let n := c.toNat
  (10 ≤ n && n ≤ 13) || (28 ≤ n && n ≤ 30) || n == 133 || n == 8232 || n == 8233

/-- The lines of a text whose current line, reversed, is `line`. -/
def linesFrom (line : List Char) : List Char → List (List Char)
  | [] => if line.isEmpty then [] else [line.reverse]
  | '\r' :: '\n' :: rest => line.reverse :: linesFrom [] rest
  | c :: rest =>
    if isLineMark c then line.reverse :: linesFrom [] rest else linesFrom (c :: line) rest

/-- The lines of a text without their ends. A carriage return and a line feed
    make one end, and the end of the last line may be missing. -/
def lines (cs : List Char) : List (List Char) := linesFrom [] cs

/-- The text with every line end, a carriage return included, written as one
    line feed. -/
def joinLineEnds : List Char → List Char
  | [] => []
  | '\r' :: '\n' :: rest => '\n' :: joinLineEnds rest
  | c :: rest => (if c == '\r' then '\n' else c) :: joinLineEnds rest

/-- The pieces of a text whose current piece, reversed, is `piece`. -/
def splitOnFrom (mark : Char) (piece : List Char) : List Char → List (List Char)
  | [] => [piece.reverse]
  | c :: rest =>
    if c == mark then piece.reverse :: splitOnFrom mark [] rest
    else splitOnFrom mark (c :: piece) rest

/-- The pieces of a text between the occurrences of `mark`, one more than there
    are occurrences. -/
def splitOn (mark : Char) (cs : List Char) : List (List Char) := splitOnFrom mark [] cs

/-- Whether `cs` begins with `start`. -/
def startsWith (start cs : List Char) : Bool := start.isPrefixOf cs

/-- What follows `start` in a text that begins with it. -/
def after? : (start cs : List Char) → Option (List Char)
  | [], cs => some cs
  | _ :: _, [] => none
  | a :: start, c :: cs => if a == c then after? start cs else none

/-- Whether `part` occurs in `cs`. -/
def contains (part : List Char) : List Char → Bool
  | [] => part.isEmpty
  | c :: rest => part.isPrefixOf (c :: rest) || contains part rest

/-- What stands before and after the first occurrence of `part`. -/
def splitAt? (part : List Char) : List Char → Option (List Char × List Char)
  | [] => if part.isEmpty then some ([], []) else none
  | c :: rest =>
    match after? part (c :: rest) with
    | some tail => some ([], tail)
    | none => (splitAt? part rest).map fun (head, tail) => (c :: head, tail)

/-- The pieces joined with `mark` between them. -/
def joinWith (mark : List Char) : List (List Char) → List Char
  | [] => []
  | [piece] => piece
  | piece :: rest => piece ++ mark ++ joinWith mark rest

end Text

end Annals
