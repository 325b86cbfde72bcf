import Annals.Markdown.Definition
import Annals.Markdown.Tree
import Annals.Text.Blank

/-!
# Blocks of a Document

How lines are gathered into blocks. A container, that is a quote or a list,
hands its lines on to be read in the same way with the marks of the container
taken off, so the reading is a recursion on what is left of the lines and on
how deep they are. Containers more than twenty deep are left out together with
all that follows in them.

A paragraph takes a line of another container that looks like its own text,
even if the mark of its quote is missing there. Such a line is given a negative
indentation, by which paragraphs know it.

The texts of paragraphs and headings are kept as written, for what they mean
depends on the labels that the whole document defines.

## Main definitions

* `Markdown.Reading`: Blocks, the line after them, and the labels they define.
* `Markdown.readBlocks`: The blocks between two lines.
* `Markdown.blocksOf`: The blocks of a document and its labels.
-/

namespace Annals

namespace Markdown

/-- Blocks that were read, the line after them, and the labels defined in
    them. -/
structure Reading where
  blocks : List (Block (List Char))
  next : Nat
  labels : List (List Char)
  deriving Inhabited

/-- Nothing up to a line. -/
def Reading.none (next : Nat) : Reading := ⟨[], next, []⟩

/-- One block up to a line. -/
def Reading.one (block : Block (List Char)) (next : Nat) : Reading := ⟨[block], next, []⟩

/-- How deep containers can be nested. -/
def maxDepth : Nat := 20

namespace Place

/-- The first line from `n` on that is not empty. -/
def skipEmpty (p : Place) : (fuel : Nat) → (n : Nat) → Nat
  | 0, n => n
  | fuel + 1, n => if n < p.limit && p.isEmpty n then p.skipEmpty fuel (n + 1) else n

/-- The line after the last one of indented code, when code goes on up to line
    `last` and is followed by empty lines up to `n`. -/
def codeEnd (p : Place) : (fuel : Nat) → (n last : Nat) → Nat
  | 0, _, last => last
  | fuel + 1, n, last =>
    if p.isEmpty n then p.codeEnd fuel (n + 1) last
    else if p.isCode (p.line n) then p.codeEnd fuel (n + 1) (n + 1)
    else last

/-- Indented code. -/
def code (p : Place) (n stop : Nat) : Reading :=
  let next := p.codeEnd (stop - (n + 1)) (n + 1) (n + 1)
  let body := p.cut n next (4 + p.margin) false ++ ['\n']
  .one (.code ⟨n, next⟩ (String.ofList body)) next

/-- The line on which a fence stops, and whether it is closed there. It stops
    unclosed before a line of another container, and at an empty line without an
    end. -/
def fenceEnd (p : Place) (mark : FenceMark) : (fuel : Nat) → (n : Nat) → Nat × Bool
  | 0, n => (n, false)
  | fuel + 1, n =>
    let l := p.line n
    if !l.isEmpty && l.indent < p.margin then (n, false)
    else if l.isEmpty && !l.ended then (n, false)
    else if !p.isCode l && mark.closedBy l.content then (n, true)
    else p.fenceEnd mark fuel (n + 1)

/-- Code between fences. -/
def fence (p : Place) (mark : FenceMark) (n stop : Nat) : Reading :=
  let (last, closed) := p.fenceEnd mark (stop - (n + 1)) (n + 1)
  let next := if closed then last + 1 else last
  let body := p.cut (n + 1) last (p.line n).indent.toNat true
  .one (.fence ⟨n, next⟩ (String.ofList mark.info) (String.ofList body)) next

/-- The line after a block of raw HTML that is not closed before line `n`. An
    empty line is never left of the margin. -/
def htmlEnd (p : Place) (opener : RawHtml.Opener) : (fuel : Nat) → (n : Nat) → Nat
  | 0, n => n
  | fuel + 1, n =>
    let l := p.line n
    if l.indent < p.margin && !l.isEmpty then n
    else if opener.closedBy l.content then if l.isEmpty then n else n + 1
    else p.htmlEnd opener fuel (n + 1)

/-- Raw HTML. -/
def html (p : Place) (opener : RawHtml.Opener) (n stop : Nat) : Reading :=
  let next :=
    if opener.closedBy (p.line n).content then n + 1
    else p.htmlEnd opener (stop - (n + 1)) (n + 1)
  .one (.html ⟨n, next⟩ (String.ofList (p.cut n next p.margin true))) next

/-- The level of the heading that a line underlines. -/
def underline? (p : Place) (l : Line) : Option Nat :=
  match l.content with
  | c :: rest =>
    if p.margin ≤ l.indent && (c == '=' || c == '-') && (rest.dropWhile (· == c)).all isSpace then
      some (if c == '=' then 1 else 2)
    else none
  | [] => none

/-- The line that underlines the text above it, and the level. -/
def underlineBelow? (p : Place) : (fuel : Nat) → (n : Nat) → Option (Nat × Nat)
  | 0, _ => none
  | fuel + 1, n =>
    let l := p.line n
    if l.isEmpty then none
    else if p.isCode l then p.underlineBelow? fuel (n + 1)
    else
      match p.underline? l with
      | some level => some (n, level)
      | none =>
        if l.indent < 0 || !p.interrupts true l then p.underlineBelow? fuel (n + 1) else none

/-- The text of the lines of a paragraph. -/
def textOf (p : Place) (first stop : Nat) : List Char :=
  Text.trim (p.cut first stop p.margin false)

/-- The line after a paragraph that goes on up to line `n`. -/
def paragraphEnd (p : Place) : (fuel : Nat) → (n : Nat) → Nat
  | 0, n => n
  | fuel + 1, n =>
    let l := p.line n
    if l.isEmpty then n
    else if p.isCode l || l.indent < 0 || !p.interrupts true l then p.paragraphEnd fuel (n + 1)
    else n

/-- The block that begins on line `n`, where no fence, no code and no container
    does: a definition, raw HTML, a heading or a paragraph. -/
def plainBlock (p : Place) (n stop : Nat) : Reading :=
  let l := p.line n
  let defined := if Text.startsWith ['['] l.content then definition? (p.definitionText n) else none
  match defined with
  | some (label, lines) => ⟨[], n + 1 + lines, [label]⟩
  | none =>
    match RawHtml.opener? l.content with
    | some opener => p.html opener n stop
    | none =>
      match heading? l.content with
      | some (level, text) => .one (.heading ⟨n, n + 1⟩ level (Text.trim text)) (n + 1)
      | none =>
        -- A line below a paragraph may make a heading of it.
        match p.underlineBelow? (stop - (n + 1)) (n + 1) with
        | some (last, level) =>
          .one (.heading ⟨n, last + 1⟩ level (p.textOf n last)) (last + 1)
        | none =>
          let next := p.paragraphEnd (p.limit - (n + 1)) (n + 1)
          .one (.paragraph ⟨n, next⟩ (p.textOf n next)) next

/-- The place with another line in place of line `n`. -/
def setLine (p : Place) (n : Nat) (l : Line) : Place := { p with lines := p.lines.setIfInBounds n l }

/-- The lines of a quote from line `n` on: the place with the marks of these
    lines taken off, and the line after them. The text of the quote ends with
    it where another block begins. -/
def quoted (p : Place) : (fuel : Nat) → (n : Nat) → (lastEmpty : Bool) → Place × Nat
  | 0, n, _ => (p, n)
  | fuel + 1, n, lastEmpty =>
    let l := p.line n
    let inside := if l.indent < p.margin then none else l.unquoted?
    if l.isEmpty then (p, n)
    else
      match inside with
      | some bare => (p.setLine n bare).quoted fuel (n + 1) bare.isEmpty
      | none =>
        if lastEmpty then (p, n)
        else if p.interrupts false l then ({ p with limit := n }, n)
        else (p.setLine n { l with indent := -1 }).quoted fuel (n + 1) lastEmpty

/-- An item of a list on line `n`: the place inside it, and whether there is any
    text behind its mark. Text further than four columns behind the mark is
    code, one column behind the mark. -/
def inItem (p : Place) (mark : ItemMark) (n : Nat) : Place × Bool :=
  let l := p.line n
  let initial := l.indent.toNat + mark.width
  let (blanks, column) := leading l.base initial (l.content.drop mark.width)
  let shift := l.shift + mark.width + blanks
  let filled := shift < l.text.length
  let indent := if filled && column - initial ≤ 4 then column - initial else 1
  let inner := p.setLine n { l with shift := shift, indent := column }
  ({ inner with margin := initial + indent, outer := some p.margin, depth := p.depth + 2 }, filled)

/-- The mark with which a list goes on at line `n`, after an item of it. -/
def nextItem? (p : Place) (mark : ItemMark) (n : Nat) : Option ItemMark :=
  let l := p.line n
  if l.indent < p.margin || p.isCode l || p.endsItem l then none
  else
    match Markdown.itemMark? l.content with
    | some next => if next.ordered == mark.ordered && next.char == mark.char then some next else none
    | none => none

end Place

mutual

/-- The blocks from line `n` on, up to line `stop` or a line that is outside of
    the margin. -/
def readBlocks : (fuel : Nat) → (p : Place) → (n stop : Nat) → Reading
  | 0, _, n, _ => .none n
  | fuel + 1, p, n, stop =>
    if stop ≤ n then .none n
    else
      let n := p.skipEmpty (p.limit - n) n
      if stop ≤ n || (p.line n).indent < p.margin then .none n
      else if maxDepth ≤ p.depth then .none stop
      else
        let first := readBlock fuel p n stop
        let next := if first.next < stop && p.isEmpty first.next then first.next + 1 else first.next
        let rest := readBlocks fuel p next stop
        ⟨first.blocks ++ rest.blocks, rest.next, first.labels ++ rest.labels⟩

/-- The block that begins on line `n`. -/
def readBlock : (fuel : Nat) → (p : Place) → (n stop : Nat) → Reading
  | 0, _, n, _ => .none n
  | fuel + 1, p, n, stop =>
    let l := p.line n
    if p.isCode l then p.code n stop
    else
      match fenceMark? l.content, l.unquoted? with
      | some mark, _ => p.fence mark n stop
      | none, some bare =>
        -- The lines lose their marks, and what is left of them is read as a text of its own.
        let (around, next) := (p.setLine n bare).quoted (stop - (n + 1)) (n + 1) bare.isEmpty
        let inner := readBlocks fuel { around with margin := 0, depth := p.depth + 1 } n next
        ⟨[.quote ⟨n, inner.next⟩ inner.blocks], inner.next, inner.labels⟩
      | none, none =>
        -- A rule is tried before a list, since it may be made of the marks of one.
        if isRule l.content then .one (.rule ⟨n, n + 1⟩) (n + 1)
        else
          match p.itemMark? l with
          | some mark =>
            let items := readItems fuel p mark n stop
            let span := ⟨n, items.next⟩
            let block := if mark.ordered then .orderedList span items.blocks
              else .bulletList span items.blocks
            ⟨[block], items.next, items.labels⟩
          | none => p.plainBlock n stop

/-- The items of a list from line `n` on, which begins with a mark. -/
def readItems : (fuel : Nat) → (p : Place) → (mark : ItemMark) → (n stop : Nat) → Reading
  | 0, _, _, n, _ => .none n
  | fuel + 1, p, mark, n, stop =>
    let (inside, filled) := p.inItem mark n
    let inner :=
      if !filled && p.isEmpty (n + 1) then .none (min (n + 2) stop)
      else readBlocks fuel inside n stop
    let item := Block.item ⟨n, inner.next⟩ inner.blocks
    let following := if stop ≤ inner.next then none else p.nextItem? mark inner.next
    match following with
    | some mark' =>
      let rest := readItems fuel p mark' inner.next stop
      ⟨item :: rest.blocks, rest.next, inner.labels ++ rest.labels⟩
    | none => ⟨[item], inner.next, inner.labels⟩

end

/-- A source with one kind of line ends, and without the null character. -/
def normalizedSource (source : List Char) : List Char :=
  (Text.joinLineEnds source).map fun c => if c.toNat == 0 then Char.ofNat 0xFFFD else c

/-- The blocks of a document, their texts as written, and the labels that are
    defined in it. -/
def blocksOf (source : List Char) : List (Block (List Char)) × List (List Char) :=
  let lines := (Line.ofSource (normalizedSource source)).toArray
  let fuel := (lines.size + 2) * (3 * maxDepth)
  let all := readBlocks fuel ⟨lines, lines.size, 0, none, 0⟩ 0 lines.size
  (all.blocks, all.labels)

end Markdown

end Annals
