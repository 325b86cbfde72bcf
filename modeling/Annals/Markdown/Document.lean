import Annals.Markdown.Blocks
import Annals.Markdown.Inlines
import Annals.Markdown.Slug

/-!
# Documents

A Markdown document as the other parts of the library see it: a tree of blocks,
its headings with their anchors, and the places where raw HTML stands. A piece of
raw HTML is a block or a part of a paragraph; in either case it has the part
before it, if it is not the first one where it stands. The line of a part is the
first line of the block that it is in.

## Main definitions

* `Markdown.parse`: The blocks of a document.
* `Markdown.Heading`, `Markdown.headings`: The headings of a document.
* `Markdown.RawPart`, `Markdown.rawParts`: The raw HTML of a document.
-/

namespace Annals

namespace Markdown

/-- The blocks of a document. -/
def parse (source : String) : List (Block (List Inline)) :=
  let (blocks, labels) := blocksOf source.toList
  Block.mapAll (Inlines.read labels) blocks

/-- A heading: its level, its text without marks, and its line, counted from
    one. -/
structure Heading where
  level : Nat
  text : String
  line : Nat
  deriving Repr

/-- The anchor of a heading. -/
def Heading.slug (h : Heading) : String := Slug.ofText h.text

mutual

/-- The headings in a block. -/
def headingsOf : Block (List Inline) → List Heading
  | .heading span level parts => [⟨level, Inline.plainAll parts, span.first + 1⟩]
  | .quote _ blocks => headingsOfAll blocks
  | .bulletList _ items => headingsOfAll items
  | .orderedList _ items => headingsOfAll items
  | .item _ blocks => headingsOfAll blocks
  | .paragraph .. => []
  | .code .. => []
  | .fence .. => []
  | .html .. => []
  | .rule _ => []
termination_by structural block => block

/-- The headings in several blocks. -/
def headingsOfAll : List (Block (List Inline)) → List Heading
  | [] => []
  | block :: rest => headingsOf block ++ headingsOfAll rest
termination_by structural blocks => blocks

end

/-- The headings of a document in order. -/
def headings (source : String) : List Heading := headingsOfAll (parse source)

/-- A piece of raw HTML: its text, its line, counted from one, and what stands
    before it. -/
structure RawPart where
  raw : String
  line : Nat
  previous : Option Kind
  deriving Repr

mutual

/-- The raw HTML in a part of a text. -/
def rawInPart (line : Nat) (previous : Option Kind) : Inline → List RawPart
  | .html raw => [⟨raw, line, previous⟩]
  | .link parts => rawInParts line none parts
  | .image parts => rawInParts line none parts
  | .emphasis parts => rawInParts line none parts
  | .strong parts => rawInParts line none parts
  | .text _ => []
  | .special _ => []
  | .code _ => []
  | .softBreak => []
  | .hardBreak => []
termination_by structural part => part

/-- The raw HTML in parts of a text that follow each other. -/
def rawInParts (line : Nat) (previous : Option Kind) : List Inline → List RawPart
  | [] => []
  | part :: rest => rawInPart line previous part ++ rawInParts line (some part.kind) rest
termination_by structural parts => parts

end

mutual

/-- The raw HTML in a block. -/
def rawInBlock (previous : Option Kind) : Block (List Inline) → List RawPart
  | .html span raw => [⟨raw, span.first + 1, previous⟩]
  | .paragraph span parts => rawInParts (span.first + 1) none parts
  | .heading span _ parts => rawInParts (span.first + 1) none parts
  | .quote _ blocks => rawInBlocks none blocks
  | .bulletList _ items => rawInBlocks none items
  | .orderedList _ items => rawInBlocks none items
  | .item _ blocks => rawInBlocks none blocks
  | .code .. => []
  | .fence .. => []
  | .rule _ => []
termination_by structural block => block

/-- The raw HTML in blocks that follow each other. -/
def rawInBlocks (previous : Option Kind) : List (Block (List Inline)) → List RawPart
  | [] => []
  | block :: rest => rawInBlock previous block ++ rawInBlocks (some block.kind) rest
termination_by structural blocks => blocks

end

/-- The raw HTML of a document in order. -/
def rawParts (source : String) : List RawPart := rawInBlocks none (parse source)

end Markdown

end Annals
