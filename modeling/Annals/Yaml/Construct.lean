import Annals.Value.Equal
import Annals.Yaml.Node
import Annals.Yaml.Scalar

/-!
# From Nodes to Values

The values that the nodes of a document stand for. A scalar is made at once. A
collection is made empty at first and waits in a queue until those before it are
filled, so a collection can be a part of itself; filling it makes its parts. Each
node is made once, however often it is referred to.

A key with the tag for merging is no key of its mapping: the entries of the
mappings behind it are put in front of the other entries, which happens in the
nodes, when the mapping is filled. Keys must be values by which entries can be
found. Where keys must also be unique, the keys of a mapping are compared before
its merges.

## Main definitions

* `Yaml.Made`: What was made of a node.
* `Yaml.Graph.initial`: What is made of a node at first.
* `Yaml.Builder`: What is known while values are made.
* `Yaml.Builder.flatten`: Merges entries into a mapping.
* `Yaml.Builder.checkKeys`: Refuses keys that are equal.
* `Yaml.construct`: The value of a document.
-/

namespace Annals

namespace Yaml

/-- What was made of a node: a value without parts, or a collection whose parts are
    given by the numbers of their nodes. -/
inductive Made where
  | scalar (v : Value)
  | sequence (items : List Nat)
  | mapping (entries : List (Value × Nat))
  | set (members : List Value)
  | pairs (pairs : List (Nat × Nat))
  deriving Inhabited

/-- Whether what was made is complete, and not a collection to be filled. -/
def Made.isScalar : Made → Bool
  | .scalar _ => true
  | _ => false

/-- What is known while values are made: whether keys must be unique, the nodes,
    what was made of them, and the collections that wait to be filled. -/
structure Builder where
  uniqueKeys : Bool
  graph : Graph
  made : Array (Option Made)
  waiting : List Nat

/-- A fault of its own. -/
def makeFault (problem : String) (mark : Mark) : Fault := .problem (.plain .constructor problem mark)

/-- A fault in the course of something. -/
def makeFaultIn (context : String) (start : Mark) (problem : String) (mark : Mark) : Fault :=
  .problem (.during .constructor context start problem mark)

/-- What is going on when a mapping is filled. -/
def mappingContext : String := "while constructing a mapping"

/-- The text of a scalar. The value of a mapping may be given by the one behind its
    key for that. -/
def scalarText (g : Graph) : (fuel : Nat) → (id : Nat) → Except Fault String
  | 0, _ => .error (.defect .endless)
  | fuel + 1, id =>
    let node := g.node id
    match node.content with
    | .scalar text => .ok text
    | .mapping entries =>
      match entries.find? fun (key, _) => (g.node key).tag == Tag.value with
      | some (_, value) => scalarText g fuel value
      | none => .error (makeFault "expected a scalar node, but found mapping" node.mark)
    | .sequence _ => .error (makeFault "expected a scalar node, but found sequence" node.mark)

/-- The mark of no number of a node. It differs from those of the other nodes, from
    the common one, and from those that come up in arithmetic. -/
def ownMark (id : Nat) : Nat := nanMark + 3 + id

namespace Graph

/-- The text of a scalar. -/
def text (g : Graph) (id : Nat) : Except Fault String := scalarText g (g.size + 1) id

/-- The date and time of a scalar. -/
def moment (g : Graph) (id : Nat) : Except Fault Value := do
  let text ← g.text id
  match (g.node id).content with
  | .scalar _ => momentOf text
  | _ => throw (.defect .entries)

/-- The value of a scalar. -/
def scalar (g : Graph) (id : Nat) : Except Fault Value := do
  let node := g.node id
  let tag := node.tag
  if tag == Tag.str then return .text (← g.text id)
  else if tag == Tag.null then
    let _ ← g.text id
    return .null
  else if tag == Tag.bool then boolOf (← g.text id)
  else if tag == Tag.int then intOf (← g.text id)
  else if tag == Tag.float then floatOf (ownMark id) (← g.text id)
  else if tag == Tag.binary then bytesOf node.mark (← g.text id)
  else if tag == Tag.timestamp then g.moment id
  else throw (makeFault ("could not determine a constructor for the tag " ++ Text.quoted tag)
    node.mark)

/-- What is made of a node at first: its value if it is a scalar, and else a
    collection that is empty as yet. -/
def initial (g : Graph) (id : Nat) : Except Fault Made :=
  let tag := (g.node id).tag
  if tag == Tag.map then .ok (.mapping [])
  else if tag == Tag.seq then .ok (.sequence [])
  else if tag == Tag.set then .ok (.set [])
  else if tag == Tag.omap || tag == Tag.pairs then .ok (.pairs [])
  else (g.scalar id).map .scalar

end Graph

namespace Builder

/-- The node with a number. -/
def node (b : Builder) (id : Nat) : Node := b.graph.node id

/-- What was made of a node, if anything. -/
def made? (b : Builder) (id : Nat) : Option Made := b.made.getD id none

/-- The builder with something made of a node. -/
def set (b : Builder) (id : Nat) (made : Made) : Builder :=
  { b with made := b.made.setIfInBounds id (some made) }

/-- A collection that is empty as yet. -/
def wait (b : Builder) (id : Nat) (made : Made) : Builder :=
  { b.set id made with waiting := b.waiting ++ [id] }

/-- The builder with what a node is made to at first. A collection begins to wait. -/
def start (b : Builder) (id : Nat) (made : Made) : Builder :=
  if made.isScalar then b.set id made else b.wait id made

/-- Makes the value of a node, unless it was made already. -/
def make (b : Builder) (id : Nat) : Except Fault Builder :=
  if (b.made? id).isSome then .ok b else (b.graph.initial id).map (b.start id)

/-- The value of a node if it can be a key. -/
def key? (b : Builder) (id : Nat) : Option Value :=
  match b.made? id with
  | some (.scalar v) => some v
  | _ => none

/-- Refuses a mapping, which begins at `start`, that has one of two equal keys
    among `seen` and the other one among its entries. Keys for merging do not
    count, and lists and mappings, by which nothing can be found, are refused later. -/
def checkKeysFrom (start : Mark) (seen : List Value) : List (Nat × Nat) → Builder →
    Except Fault Builder
  | [], b => .ok b
  | (key, _) :: rest, b => do
    if (b.node key).tag == Tag.merge then checkKeysFrom start seen rest b
    else
      let b ← b.make key
      match b.key? key with
      | none =>
        match b.made? key with
        | some (.set _) => throw (.defect .setKey)
        | _ => checkKeysFrom start seen rest b
      | some v =>
        if seen.any (·.sameKey v) then
          if v.holdsLong then refuse longIntegerMessage
          else throw (makeFaultIn mappingContext start ("found duplicate key " ++ v.display)
            (b.node key).mark)
        else checkKeysFrom start (v :: seen) rest b

/-- Refuses a node that has equal keys or no entries at all. -/
def checkKeys (b : Builder) (id : Nat) : Except Fault Builder :=
  if b.uniqueKeys then
    match (b.node id).content with
    | .mapping entries => checkKeysFrom (b.node id).mark [] entries b
    | .scalar text =>
      if text.isEmpty then .ok b else refuse "not enough values to unpack (expected 2, got 1)"
    | .sequence items => if items.isEmpty then .ok b else .error (.defect .entries)
  else .ok b

/-- The number of keys for merging in all mappings. -/
def mergeCount (b : Builder) : Nat :=
  b.graph.foldl (fun total node => total + match node.content with
    | .mapping entries => entries.countP fun (key, _) => (b.node key).tag == Tag.merge
    | _ => 0) 0

/-- The builder with other entries in a mapping. -/
def setEntries (b : Builder) (id : Nat) (entries : List (Nat × Nat)) : Builder :=
  { b with graph := b.graph.setContent id (.mapping entries) }

/-- The entries of several mappings that are merged into mapping `id`, each of which
    is merged into first by `merge`; those of the last mapping come first. -/
def mergedItems (merge : Nat → Builder → Except Fault Builder) (id : Nat) : List Nat → Builder →
    Except Fault (List (Nat × Nat) × Builder)
  | [], b => .ok ([], b)
  | item :: rest, b => do
    match (b.node item).content with
    | .mapping _ =>
      let b ← merge item b
      let own := b.graph.entries item
      let (more, b) ← mergedItems merge id rest b
      return (more ++ own, b)
    | content => throw (makeFaultIn mappingContext (b.node id).mark
        ("expected a mapping for merging, but found " ++ content.form) (b.node item).mark)

/-- Merges entries into mapping `id`, where `merged` are those found before, and
    `kept` its entries that were looked at. An entry for merging is taken away before
    the mappings behind it are looked at, so a mapping can be merged into itself. -/
def flattenFrom (merge : Nat → Builder → Except Fault Builder) (id : Nat)
    (merged kept : List (Nat × Nat)) : List (Nat × Nat) → Builder → Except Fault Builder
  | [], b => .ok (if merged.isEmpty then b else b.setEntries id (merged ++ kept))
  | (key, value) :: rest, b => do
    let tag := (b.node key).tag
    if tag == Tag.merge then
      let b := b.setEntries id (kept ++ rest)
      match (b.node value).content with
      | .mapping _ =>
        let b ← merge value b
        flattenFrom merge id (merged ++ b.graph.entries value) kept rest b
      | .sequence items =>
        let (more, b) ← mergedItems merge id items b
        flattenFrom merge id (merged ++ more) kept rest b
      | .scalar _ => throw (makeFaultIn mappingContext (b.node id).mark
          "expected a mapping or list of mappings for merging, but found scalar" (b.node value).mark)
    else
      -- As a key, the mark for a default value is a text like others.
      let b := if tag == Tag.value then { b with graph := b.graph.setTag key Tag.str } else b
      flattenFrom merge id merged (kept ++ [(key, value)]) rest b

/-- Merges entries into a mapping, with at most `fuel` mappings in each other. -/
def flattenWithin : (fuel : Nat) → (id : Nat) → Builder → Except Fault Builder
  | 0, _, _ => .error (.defect .endless)
  | fuel + 1, id, b => flattenFrom (flattenWithin fuel) id [] [] (b.graph.entries id) b

/-- Merges entries into a mapping. -/
def flatten (b : Builder) (id : Nat) : Except Fault Builder :=
  flattenWithin (b.mergeCount + 1) id b

/-- Makes the keys and values of entries in order. -/
def makeEntries (start : Mark) (done : List (Value × Nat)) : List (Nat × Nat) → Builder →
    Except Fault (List (Value × Nat) × Builder)
  | [], b => .ok (done.reverse, b)
  | (key, value) :: rest, b => do
    let b ← b.make key
    match b.key? key with
    | none => throw (makeFaultIn mappingContext start "found unhashable key" (b.node key).mark)
    | some v =>
      let b ← b.make value
      makeEntries start ((v, value) :: done) rest b

/-- The entries with one entry for each key: the first of equal keys, and the last
    of their values. -/
def settled (entries : List (Value × Nat)) : List (Value × Nat) :=
  entries.foldl (fun done (key, value) =>
    if done.any (·.1.sameKey key) then
      done.map fun (k, v) => (k, if k.sameKey key then value else v)
    else done ++ [(key, value)]) []

/-- The entries of a mapping. -/
def mappingEntries (b : Builder) (id : Nat) : Except Fault (List (Value × Nat) × Builder) := do
  let b ← b.checkKeys id
  let node := b.node id
  match node.content with
  | .mapping _ =>
    let b ← b.flatten id
    let (entries, b) ← makeEntries node.mark [] (b.graph.entries id) b
    return (settled entries, b)
  | content =>
    throw (makeFault ("expected a mapping node, but found " ++ content.form) node.mark)

/-- Makes several nodes in order. -/
def makeAll : List Nat → Builder → Except Fault Builder
  | [], b => .ok b
  | id :: rest, b => do makeAll rest (← b.make id)

/-- The single entries of the mappings in a sequence, made in order. -/
def makePairs (context : String) (start : Mark) : List Nat → Builder →
    Except Fault (List (Nat × Nat) × Builder)
  | [], b => .ok ([], b)
  | item :: rest, b => do
    let node := b.node item
    match node.content with
    | .mapping [(key, value)] =>
      let b ← (← b.make key).make value
      let (pairs, b) ← makePairs context start rest b
      return ((key, value) :: pairs, b)
    | .mapping entries => throw (makeFaultIn context start
        ("expected a single mapping item, but found " ++ toString entries.length ++ " items")
        node.mark)
    | content => throw (makeFaultIn context start
        ("expected a mapping of length 1, but found " ++ content.form) node.mark)

/-- Fills a collection. -/
def fill (b : Builder) (id : Nat) : Except Fault Builder := do
  let node := b.node id
  match b.made? id with
  | some (.sequence _) =>
    -- The tag decided what is made, and the content may be of another form.
    match node.content with
    | .sequence items => return (← makeAll items b).set id (.sequence items)
    | content =>
      throw (makeFault ("expected a sequence node, but found " ++ content.form) node.mark)
  | some (.mapping _) =>
    let (entries, b) ← b.mappingEntries id
    return b.set id (.mapping entries)
  | some (.set _) =>
    let (entries, b) ← b.mappingEntries id
    return b.set id (.set (entries.map (·.1)))
  | some (.pairs _) =>
    let context :=
      if node.tag == Tag.omap then "while constructing an ordered map" else "while constructing pairs"
    match node.content with
    | .sequence items =>
      let (pairs, b) ← makePairs context node.mark items b
      return b.set id (.pairs pairs)
    | content => throw (makeFaultIn context node.mark
        ("expected a sequence, but found " ++ content.form) node.mark)
  | _ => return b

/-- Fills the collections that wait, and those that come to wait meanwhile. -/
def fillAll : (fuel : Nat) → Builder → Except Fault Builder
  | 0, b => .ok b
  | fuel + 1, b =>
    match b.waiting with
    | [] => .ok b
    | id :: rest => do fillAll fuel (← { b with waiting := rest }.fill id)

/-- What was made of a node as one value, inside of the collections `around`. -/
def value (b : Builder) : (fuel : Nat) → (around : List Nat) → (id : Nat) → Value
  | 0, _, _ => .null
  | fuel + 1, around, id =>
    if around.contains id then .back (id + 1)
    else
      match b.made? id with
      | none => .null
      | some (.scalar v) => v
      | some (.sequence items) => .seq (id + 1) (items.map (b.value fuel (id :: around)))
      | some (.mapping entries) =>
        .map (id + 1) (entries.map fun (key, v) => (key, b.value fuel (id :: around) v))
      | some (.set members) => .set (id + 1) members
      | some (.pairs pairs) =>
        .seq (id + 1) (pairs.map fun (first, second) =>
          .pair (b.value fuel (id :: around) first) (b.value fuel (id :: around) second))

end Builder

/-- The value of a document, given by its outermost node. -/
def construct (uniqueKeys : Bool) (root : Nat) (graph : Graph) : Except Fault Value := do
  let b : Builder := ⟨uniqueKeys, graph, Array.replicate graph.size none, []⟩
  let b ← b.make root
  let b ← b.fillAll (graph.size + 1)
  return b.value (graph.size + 1) [] root

/-- The value that a text writes; none is a value too. -/
def decode (uniqueKeys : Bool) (text : String) : Except Fault Value := do
  match ← compose text.toList with
  | none => return .null
  | some (root, graph) => construct uniqueKeys root graph

end Yaml

end Annals
