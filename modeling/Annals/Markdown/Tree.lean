/-!
# Document Trees

What a Markdown document is read into. Blocks follow each other or lie inside
quotes, lists and items; the text of a paragraph or a heading is made of inline
parts. The type of blocks leaves open what that text is: at first it is the
text as written, since references can be defined anywhere in the document, and
once all of them are known it becomes a list of inline parts.

Only blocks know their lines. A span counts lines from zero, and its end is the
line after the last.

## Main definitions

* `Markdown.Span`: The lines of a block.
* `Markdown.Inline`, `Markdown.Block`: The parts of a document.
* `Markdown.Kind`: What a part is, apart from what it holds.
* `Markdown.Inline.plain`: The text of inline parts without their marks.
-/

namespace Annals

namespace Markdown

/-- Lines counted from zero: the first, and the one after the last. -/
structure Span where
  first : Nat
  stop : Nat
  deriving DecidableEq, Repr, Inhabited

/-- What a part of a document is. -/
inductive Kind where
  | paragraph
  | heading
  | code
  | fence
  | html
  | rule
  | quote
  | bulletList
  | orderedList
  | item
  | text
  | special
  | codeSpan
  | softBreak
  | hardBreak
  | inlineHtml
  | link
  | image
  | emphasis
  | strong
  deriving DecidableEq, Repr

/-- A part of the text of a paragraph or a heading. -/
inductive Inline where
  | text (s : String)
  /-- A character that was escaped or written as a reference. -/
  | special (s : String)
  | code (s : String)
  | softBreak
  | hardBreak
  | html (s : String)
  | link (parts : List Inline)
  | image (parts : List Inline)
  | emphasis (parts : List Inline)
  | strong (parts : List Inline)
  deriving Repr, Inhabited

/-- A block of a document; `α` is what the text of a paragraph is. -/
inductive Block (α : Type) where
  | paragraph (span : Span) (content : α)
  | heading (span : Span) (level : Nat) (content : α)
  | code (span : Span) (body : String)
  | fence (span : Span) (info body : String)
  | html (span : Span) (body : String)
  | rule (span : Span)
  | quote (span : Span) (blocks : List (Block α))
  | bulletList (span : Span) (items : List (Block α))
  | orderedList (span : Span) (items : List (Block α))
  | item (span : Span) (blocks : List (Block α))
  deriving Repr, Inhabited

namespace Inline

/-- What a part is. -/
def kind : Inline → Kind
  | text _ => .text
  | special _ => .special
  | code _ => .codeSpan
  | softBreak => .softBreak
  | hardBreak => .hardBreak
  | html _ => .inlineHtml
  | link _ => .link
  | image _ => .image
  | emphasis _ => .emphasis
  | strong _ => .strong

mutual

/-- The text of a part without its marks: text and code as they are, a blank for
    a line end, nothing for raw HTML. -/
def plain : Inline → String
  | text s => s
  | special _ => ""
  | code s => s
  | softBreak => " "
  | hardBreak => " "
  | html _ => ""
  | link parts => plainAll parts
  | image parts => plainAll parts
  | emphasis parts => plainAll parts
  | strong parts => plainAll parts
termination_by structural part => part

/-- The text of several parts without their marks. -/
def plainAll : List Inline → String
  | [] => ""
  | part :: rest => plain part ++ plainAll rest
termination_by structural parts => parts

end

end Inline

namespace Block

/-- What a block is. -/
def kind {α : Type} : Block α → Kind
  | paragraph .. => .paragraph
  | heading .. => .heading
  | code .. => .code
  | fence .. => .fence
  | html .. => .html
  | rule .. => .rule
  | quote .. => .quote
  | bulletList .. => .bulletList
  | orderedList .. => .orderedList
  | item .. => .item

/-- The lines of a block. -/
def span {α : Type} : Block α → Span
  | paragraph s _ => s
  | heading s _ _ => s
  | code s _ => s
  | fence s _ _ => s
  | html s _ => s
  | rule s => s
  | quote s _ => s
  | bulletList s _ => s
  | orderedList s _ => s
  | item s _ => s

mutual

/-- The block with `f` of the text of every paragraph and heading. -/
def map {α β : Type} (f : α → β) : Block α → Block β
  | paragraph s c => .paragraph s (f c)
  | heading s level c => .heading s level (f c)
  | code s body => .code s body
  | fence s info body => .fence s info body
  | html s body => .html s body
  | rule s => .rule s
  | quote s blocks => .quote s (mapAll f blocks)
  | bulletList s items => .bulletList s (mapAll f items)
  | orderedList s items => .orderedList s (mapAll f items)
  | item s blocks => .item s (mapAll f blocks)
termination_by structural block => block

/-- Several blocks with `f` of their texts. -/
def mapAll {α β : Type} (f : α → β) : List (Block α) → List (Block β)
  | [] => []
  | block :: rest => map f block :: mapAll f rest
termination_by structural blocks => blocks

end

end Block

end Markdown

end Annals
