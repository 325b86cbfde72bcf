import Annals.Markdown.Line
import Annals.Markdown.RawHtml
import Annals.Text.Digit

/-!
# How Blocks Begin

What the content of a line begins: a fence, a quote, a rule, a list item, a
heading or raw HTML. A line that is indented by four columns or more, counted
from the margin of the block it is in, begins none of them.

A block of most of these kinds ends a paragraph above it. A list is more
careful there: an item without content does not end a paragraph, nor does a
numbered item unless its number is one. A line deep inside a list, left of the
text of the innermost item but four columns or more right of the margin of the
list, goes on with a paragraph of that item and begins no list.

## Main definitions

* `Markdown.Place`: The lines, and the margins of the block they are in.
* `Markdown.FenceMark`, `Markdown.ItemMark`: The marks of fences and items.
* `Markdown.Place.interrupts`: Whether a line ends a paragraph above it.
-/

namespace Annals

namespace Markdown

/-- Where blocks are read: the lines of the document, the line after the last
    that a paragraph may reach, the margin of the innermost item, the margin
    outside of it, and how many containers are around. -/
structure Place where
  lines : Array Line
  limit : Nat
  margin : Nat
  outer : Option Nat
  depth : Nat

/-- The mark that opens a fence: its character, its length and what follows. -/
structure FenceMark where
  char : Char
  length : Nat
  info : List Char
  deriving Repr

/-- The mark of a list item: whether it has a number, and which; its last
    character; and how long it is. -/
structure ItemMark where
  ordered : Bool
  number : Nat
  char : Char
  width : Nat
  deriving Repr

/-- The mark that opens a fence. A fence of backquotes has none after its mark,
    so that code within a line is not taken for one. -/
def fenceMark? (content : List Char) : Option FenceMark :=
  match content with
  | c :: _ =>
    let isBack := c.toNat == 96
    let length := (content.takeWhile (· == c)).length
    let info := content.drop length
    if (isBack || c == '~') && 3 ≤ length && !(isBack && info.contains c) then
      some ⟨c, length, info⟩
    else none
  | [] => none

/-- Whether a content closes a fence. -/
def FenceMark.closedBy (mark : FenceMark) (content : List Char) : Bool :=
  let run := content.takeWhile (· == mark.char)
  mark.length ≤ run.length && (content.drop run.length).all isSpace

/-- Whether a content is a rule: three or more of one of its marks, and blanks. -/
def isRule (content : List Char) : Bool :=
  match content with
  | c :: _ =>
    (c == '*' || c == '-' || c == '_') && content.all (fun d => d == c || isSpace d) &&
      3 ≤ content.count c
  | [] => false

/-- Whether a mark is over: a blank or the end of the line follows. -/
def markEnds (rest : List Char) : Bool := (rest.head?.map isSpace).getD true

/-- The mark of a list item. Numbers have at most nine digits. -/
def itemMark? (content : List Char) : Option ItemMark :=
  match content with
  | c :: rest =>
    if c == '*' || c == '-' || c == '+' then
      if markEnds rest then some ⟨false, 0, c, 1⟩ else none
    else
      let digits := content.takeWhile Text.isAsciiDigit
      match content.drop digits.length with
      | d :: after =>
        if !digits.isEmpty && digits.length ≤ 9 && (d == '.' || d == ')') && markEnds after then
          some ⟨true, Text.decimalValue digits, d, digits.length + 1⟩
        else none
      | [] => none
  | [] => none

/-- The level and the text of a heading on one line: marks at its end that stand
    apart do not belong to the text. -/
def heading? (content : List Char) : Option (Nat × List Char) :=
  let level := (content.takeWhile (· == '#')).length
  let rest := content.drop level
  if 1 ≤ level && level ≤ 6 && markEnds rest then
    let body := Text.dropEndWhile isSpace rest
    let bare := Text.dropEndWhile (· == '#') body
    let closes := (bare.getLast?.map isSpace).getD false
    some (level, if closes then bare else body)
  else none

namespace Place

/-- A line of the document. -/
def line (p : Place) (n : Nat) : Line := p.lines.getD n .beyond

/-- Whether a line has no content. -/
def isEmpty (p : Place) (n : Nat) : Bool := (p.line n).isEmpty

/-- Whether a line is indented so far that it is code. -/
def isCode (p : Place) (l : Line) : Bool := p.margin + 4 ≤ l.indent

/-- The mark of an item with which a line begins a list, or goes on with one. -/
def itemMark? (p : Place) (l : Line) : Option ItemMark :=
  let deep := match p.outer with
    | some outer => outer + 4 ≤ l.indent && l.indent < p.margin
    | none => false
  if p.isCode l || deep then none else Markdown.itemMark? l.content

/-- Whether a line begins a list below a line of another block, which is a
    paragraph if `inParagraph`. -/
def opensList (p : Place) (inParagraph : Bool) (l : Line) : Bool :=
  match p.itemMark? l with
  | some mark =>
    let careful := inParagraph && p.margin ≤ l.indent
    !(careful && ((mark.ordered && mark.number != 1) ||
      (l.content.drop mark.width).all isSpace))
  | none => false

/-- Whether a line ends an item of a list above it. -/
def endsItem (p : Place) (l : Line) : Bool :=
  !p.isCode l &&
    ((fenceMark? l.content).isSome || Text.startsWith ['>'] l.content || isRule l.content)

/-- Whether a line ends another block above it, which is a paragraph if
    `inParagraph`. -/
def interrupts (p : Place) (inParagraph : Bool) (l : Line) : Bool :=
  p.endsItem l || p.opensList inParagraph l ||
    (!p.isCode l &&
      (((RawHtml.opener? l.content).map (·.interrupts)).getD false ||
        (heading? l.content).isSome))

/-- The lines from `first` up to `stop`. -/
def slice (p : Place) (first stop : Nat) : List Line :=
  (List.range' first (stop - first)).map p.line

/-- The text of the lines from `first` up to `stop` without `columns` columns of
    indentation. -/
def cut (p : Place) (first stop columns : Nat) (withLast : Bool) : List Char :=
  Line.cutAll columns withLast (p.slice first stop)

end Place

end Markdown

end Annals
