import Annals.Text.Line

/-!
# Lines of a Document

A line as it is seen from inside the quotes and lists around it. The marks of
the quotes are already taken off its text; how far its content is indented is
counted in columns, where a tab goes on to the next multiple of four. For the
tabs it matters how many columns were taken off with the marks. The first line
of a list item keeps its mark in the text, but the mark counts as part of the
indentation.

## Main definitions

* `Markdown.Line`: A line.
* `Markdown.Line.ofSource`: The lines of a text.
* `Markdown.Line.unquoted?`: The line behind the mark of a quote.
* `Markdown.Line.cut`: The text of a line without some columns of indentation.
-/

namespace Annals

namespace Markdown

/-- A line. Its content begins `shift` characters into the text, at column
    `indent`; the text itself begins at column `base`. The indentation of a
    line that goes on with a paragraph from outside a quote is negative. The
    last line of a document may have no end. -/
structure Line where
  text : List Char
  shift : Nat
  indent : Int
  base : Nat
  ended : Bool
  deriving Repr, Inhabited

/-- Whether `c` is a blank or a tab. -/
def isSpace (c : Char) : Bool := c == ' ' || c == '\t'

/-- How many blanks and tabs a text begins with, and the column after them,
    where the text begins at `column` and tabs stop at multiples of four when
    counted from `base` columns before column zero. -/
def leading (base : Nat) (column : Nat) : List Char → Nat × Nat
  | '\t' :: rest =>
    let (count, stop) := leading base (column + 4 - (column + base) % 4) rest
    (count + 1, stop)
  | ' ' :: rest =>
    let (count, stop) := leading base (column + 1) rest
    (count + 1, stop)
  | _ => (0, column)

namespace Line

/-- The line that stands beyond the end of every document. -/
def beyond : Line := ⟨[], 0, 0, 0, false⟩

/-- A line that lies in no quote and no list. -/
def plain (text : List Char) (ended : Bool) : Line :=
  let (shift, column) := leading 0 0 text
  ⟨text, shift, column, 0, ended⟩

/-- The lines of a text. What stands after the last line end is a line only if
    it is not blank. -/
def ofSource (source : List Char) : List Line :=
  let pieces := Text.splitOn '\n' source
  let last := pieces.getLast?.getD []
  pieces.dropLast.map (plain · true) ++ (if last.all isSpace then [] else [plain last false])

/-- The text of a line from its content on. -/
def content (l : Line) : List Char := l.text.drop l.shift

/-- Whether a line has no content. -/
def isEmpty (l : Line) : Bool := l.text.length ≤ l.shift

/-- The content of a line with its line end, if it has one. -/
def contentWithEnd (l : Line) : List Char := l.content ++ (if l.ended then ['\n'] else [])

/-- The line behind the mark of a quote, which may take one blank with it. A tab
    after the mark is taken only where it is one column wide; else it stays,
    and the column that belongs to the mark is remembered. -/
def unquoted? (l : Line) : Option Line :=
  match l.content with
  | '>' :: rest =>
    let indent := l.indent.toNat
    let (rest, start, tabbed, spaced) := match rest with
      | ' ' :: r => (r, indent + 2, 0, true)
      | '\t' :: r =>
        if (l.base + indent + 1) % 4 == 3 then (r, indent + 2, 0, true)
        else (rest, indent + 1, 1, true)
      | r => (r, indent + 1, 0, false)
    let (shift, column) := leading (l.base + tabbed) start rest
    some ⟨rest, shift, column - start, indent + 1 + (if spaced then 1 else 0), l.ended⟩
  | _ => none

/-- The columns that were taken off, and the text left, when at most `columns`
    columns of indentation are taken from a text whose first `shift` characters
    count as indentation whatever they are. -/
def takeColumns (base columns : Nat) : (shift taken : Nat) → List Char → Nat × List Char
  | _, taken, [] => (taken, [])
  | shift, taken, c :: rest =>
    if columns ≤ taken then (taken, c :: rest)
    else if c == '\t' then
      takeColumns base columns (shift - 1) (taken + 4 - (taken + base) % 4) rest
    else if c == ' ' || 0 < shift then takeColumns base columns (shift - 1) (taken + 1) rest
    else (taken, c :: rest)

/-- The text of a line without `columns` columns of indentation. Of a tab that
    reaches further, the columns left over become blanks. -/
def cut (l : Line) (columns : Nat) : List Char :=
  let (taken, rest) := takeColumns l.base columns l.shift 0 l.text
  List.replicate (taken - columns) ' ' ++ rest

/-- The text of several lines without `columns` columns of indentation each,
    with the line end of the last one if `withLast`. -/
def cutAll (columns : Nat) (withLast : Bool) : List Line → List Char
  | [] => []
  | l :: rest =>
    l.cut columns ++ (if l.ended && (withLast || !rest.isEmpty) then ['\n'] else []) ++
      cutAll columns withLast rest

end Line

end Markdown

end Annals
