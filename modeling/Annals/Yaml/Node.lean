import Annals.Yaml.Event
import Annals.Yaml.Tag

/-!
# Nodes

A document as a graph of nodes. A node that is named by an anchor can be part of
several others, even of itself, so nodes refer to each other by their numbers and
not by being inside each other. Nodes are numbered in the order in which they
begin.

Each node has a tag in full. Where none was written it is the common tag of its
form, or for a plain scalar the one that its text tells.

## Main definitions

* `Yaml.Node`, `Yaml.Graph`: A node, and the nodes of a document.
* `Yaml.compose`: The nodes of a text that holds one document, or none.
-/

namespace Annals

namespace Yaml

/-- What a node holds. The parts of collections are given by their numbers. -/
inductive Content where
  | scalar (text : String)
  | sequence (items : List Nat)
  | mapping (entries : List (Nat × Nat))
  deriving DecidableEq, Repr, Inhabited

/-- A node: its tag, its place, and what it holds. -/
structure Node where
  tag : String
  mark : Mark
  content : Content
  deriving Repr, Inhabited

/-- How deep collections can be nested. -/
def maxNesting : Nat := 480

/-- The form of a node in reports. -/
def Content.form : Content → String
  | scalar _ => "scalar"
  | sequence _ => "sequence"
  | mapping _ => "mapping"

/-- The nodes of a document, by their numbers. -/
abbrev Graph := Array Node

/-- The node with a number. -/
def Graph.node (g : Graph) (id : Nat) : Node := g.getD id default

/-- The entries of a mapping; other nodes have none. -/
def Graph.entries (g : Graph) (id : Nat) : List (Nat × Nat) :=
  match (g.node id).content with
  | .mapping entries => entries
  | _ => []

/-- The graph with something else in a node. -/
def Graph.setContent (g : Graph) (id : Nat) (content : Content) : Graph :=
  g.setIfInBounds id { g.node id with content := content }

/-- The graph with another tag of a node. -/
def Graph.setTag (g : Graph) (id : Nat) (tag : String) : Graph :=
  g.setIfInBounds id { g.node id with tag := tag }

/-- What was composed so far: the nodes, and those named by anchors; and the events
    that are left. -/
structure Assembly where
  graph : Graph
  anchors : List (String × Nat)
  events : List Event
  fault : Option Fault

namespace Assembly

/-- The next event. -/
def peek (s : Assembly) : Except Fault Event :=
  match s.events, s.fault with
  | event :: _, _ => .ok event
  | [], some fault => .error fault
  | [], none => .ok default

/-- Without the next event. -/
def drop (s : Assembly) : Assembly := { s with events := s.events.drop 1 }

/-- A fault of its own. -/
def faultAt (problem : String) (mark : Mark) : Fault := .problem (.plain .composer problem mark)

/-- Adds a node, under the name of its anchor if it has one. -/
def add (s : Assembly) (anchor : Option String) (node : Node) : Nat × Assembly :=
  let id := s.graph.size
  let anchors := match anchor with
    | some name => (name, id) :: s.anchors
    | none => s.anchors
  (id, { s with graph := s.graph.push node, anchors := anchors })

/-- Refuses an anchor that names a node already. -/
def checkAnchor (s : Assembly) (anchor : Option String) (mark : Mark) : Except Fault Unit :=
  match anchor with
  | none => .ok ()
  | some name =>
    match s.anchors.lookup name with
    | none => .ok ()
    | some id => .error (.problem (.during .composer
        ("found duplicate anchor " ++ Text.quoted name ++ "; first occurrence") (s.graph.node id).mark
        "second occurrence" mark))

end Assembly

open Assembly

mutual

/-- Composes the next node, inside of `depth` collections. -/
def composeNode : (fuel depth : Nat) → Assembly → Except Fault (Nat × Assembly)
  | 0, _, s => .ok (0, s)
  | fuel + 1, depth, s => do
    let event ← s.peek
    match event.kind with
    | .again name =>
      match s.anchors.lookup name with
      | some id => return (id, s.drop)
      | none => throw (faultAt ("found undefined alias " ++ Text.quoted name) event.mark)
    | .scalar anchor tag text resolved =>
      s.checkAnchor anchor event.mark
      let tag := tag.getD (if resolved then Tag.ofPlain text else Tag.str)
      return s.drop.add anchor ⟨tag, event.mark, .scalar text⟩
    | .sequenceStart anchor tag =>
      s.checkAnchor anchor event.mark
      if maxNesting ≤ depth then throw (.defect .nested)
      -- The node is there before its items, so that they can refer to it.
      let (id, s) := s.drop.add anchor ⟨tag.getD Tag.seq, event.mark, .sequence []⟩
      let (items, s) ← composeItems fuel (depth + 1) s
      return (id, { s with graph := s.graph.setContent id (.sequence items) })
    | .mappingStart anchor tag =>
      s.checkAnchor anchor event.mark
      if maxNesting ≤ depth then throw (.defect .nested)
      let (id, s) := s.drop.add anchor ⟨tag.getD Tag.map, event.mark, .mapping []⟩
      let (entries, s) ← composeEntries fuel (depth + 1) s
      return (id, { s with graph := s.graph.setContent id (.mapping entries) })
    | _ => return (0, s.drop)

/-- Composes the items of a sequence up to its end. -/
def composeItems : (fuel depth : Nat) → Assembly → Except Fault (List Nat × Assembly)
  | 0, _, s => .ok ([], s)
  | fuel + 1, depth, s => do
    let event ← s.peek
    if event.kind == .sequenceEnd then return ([], s.drop)
    let (item, s) ← composeNode fuel depth s
    let (items, s) ← composeItems fuel depth s
    return (item :: items, s)

/-- Composes the entries of a mapping up to its end. -/
def composeEntries : (fuel depth : Nat) → Assembly → Except Fault (List (Nat × Nat) × Assembly)
  | 0, _, s => .ok ([], s)
  | fuel + 1, depth, s => do
    let event ← s.peek
    if event.kind == .mappingEnd then return ([], s.drop)
    let (key, s) ← composeNode fuel depth s
    let (value, s) ← composeNode fuel depth s
    let (entries, s) ← composeEntries fuel depth s
    return ((key, value) :: entries, s)

end

/-- The only document of a text as a graph, with the number of its outermost node;
    none if there is no document. -/
def composeDocument (events : Events) : Except Fault (Option (Nat × Graph)) := do
  let s := (⟨#[], [], events.events, events.fault⟩ : Assembly)
  let _ ← s.peek
  let s := s.drop
  let first ← s.peek
  if first.kind == .streamEnd then return none
  let (root, s) ← composeNode (events.events.length + 1) 0 s.drop
  let _ ← s.peek
  let s := s.drop
  let event ← s.peek
  if event.kind == .streamEnd then return some (root, s.graph)
  else throw (.problem (.during .composer "expected a single document in the stream"
    (s.graph.node root).mark "but found another document" event.mark))

/-- The only document of a text. -/
def compose (text : List Char) : Except Fault (Option (Nat × Graph)) := do
  if let some fault := strayChar? 0 text then throw fault
  composeDocument (eventsOf (scan text))

end Yaml

end Annals
