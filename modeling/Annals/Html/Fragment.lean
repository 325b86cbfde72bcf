import Annals.Html.Event

/-!
# Top-Level Nodes of a Fragment

The nodes of an HTML fragment that lie inside no element. A tag that opens an
element goes one level down and a closing tag one level up, never above the
top; elements that have no content by their nature open no level. Only what is
met at the top is recorded, and text there only if it is not blank.

## Main definitions

* `Html.Node`: A node at the top of a fragment.
* `Html.Outline`: The nodes recorded so far, and the level.
* `Html.Outline.step`: What an event does to an outline.
* `Html.parseFragment`: The nodes at the top of a fragment.
-/

namespace Annals

namespace Html

/-- A node at the top of a fragment. -/
inductive Node where
  | comment (body : String)
  | element (name : String)
  | text (body : String)
  | declaration (body : String)
  deriving DecidableEq, Repr

/-- The elements without content, which have no closing tag. -/
def voidElements : List String :=
  ["area", "base", "br", "col", "embed", "hr", "img", "input", "link", "meta", "param",
   "source", "track", "wbr"]

/-- What is known of a fragment: the nodes at its top, and how many elements
    are open. -/
structure Outline where
  nodes : List Node
  depth : Nat
  deriving DecidableEq, Repr

namespace Outline

/-- Nothing recorded, at the top. -/
def empty : Outline := ⟨[], 0⟩

/-- A node is recorded if no element is open. -/
def record (o : Outline) (node : Node) : Outline :=
  if o.depth == 0 then { o with nodes := o.nodes ++ [node] } else o

/-- What an event does. -/
def step (o : Outline) : Event → Outline
  | .opening name whole =>
    let o := o.record (.element name)
    if whole || voidElements.contains name then o else { o with depth := o.depth + 1 }
  | .closing _ => { o with depth := o.depth - 1 }
  | .comment body => o.record (.comment body)
  | .declaration body => o.record (.declaration body)
  | .text body => if body.toList.all Text.isBlank then o else o.record (.text body)

/-- What a sequence of events does. -/
def run (o : Outline) (events : List Event) : Outline := events.foldl step o

end Outline

/-- The nodes at the top of a fragment. -/
def parseFragment (html : String) : Except Fault (List Node) := do
  return (Outline.empty.run (← events html)).nodes

end Html

end Annals
