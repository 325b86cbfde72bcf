import Annals.Yaml.Scan

/-!
# From Tokens to Events

The structure of a text as a sequence of events: where documents and collections
begin and end, and the scalars and aliases between. What may come next is a stack
of expectations, the innermost one on top. Each step takes the top one, looks at
the next tokens and makes one event.

Where a node may be left out, an empty scalar stands for it. Tags are already
written out in full; a lone exclamation mark is the same as no tag, except that a
scalar with it counts as plain.

## Main definitions

* `Yaml.Event`: An event and its place.
* `Yaml.Expect`: What may come next.
* `Yaml.Grammar.step`: Makes the next event.
* `Yaml.Events`, `Yaml.eventsOf`: The events of tokens, up to a fault.
-/

namespace Annals

namespace Yaml

/-- What an event is. A scalar is resolved if its kind is to be found out from its
    text. -/
inductive EventKind where
  | streamStart
  | streamEnd
  | documentStart
  | documentEnd
  | again (name : String)
  | scalar (anchor tag : Option String) (text : String) (resolved : Bool)
  | sequenceStart (anchor tag : Option String)
  | sequenceEnd
  | mappingStart (anchor tag : Option String)
  | mappingEnd
  deriving DecidableEq, Repr, Inhabited

/-- An event and its place. -/
structure Event where
  kind : EventKind
  mark : Mark
  deriving Repr, Inhabited

/-- What may come next. A collection is expected to go on from the place where it
    began. -/
inductive Expect where
  | stream
  | firstDocument
  | document
  | content
  | documentEnd
  | blockEntry (start : Mark)
  | bareEntry
  | blockKey (start : Mark)
  | blockValue
  | flowEntry (start : Mark) (first : Bool)
  | pairKey
  | pairValue
  | pairEnd
  | flowKey (start : Mark) (first : Bool)
  | flowValue
  | flowNoValue
  | blockNode
  deriving Repr

/-- The tokens that are left, the fault that ends them, what may come next, and
    what tag handles stand for. -/
structure Grammar where
  tokens : List Token
  fault : Option Fault
  stack : List Expect
  handles : List (String × String)

/-- The tag handles that need no directive. -/
def commonHandles : List (String × String) := [("!", "!"), ("!!", "tag:yaml.org,2002:")]

namespace Grammar

/-- The next token. -/
def peek (g : Grammar) : Except Fault Token :=
  match g.tokens, g.fault with
  | token :: _, _ => .ok token
  | [], some fault => .error fault
  | [], none => .ok default

/-- What the next token is. -/
def peekKind (g : Grammar) : Except Fault TokenKind := g.peek.map (·.kind)

/-- Without the next token. -/
def drop (g : Grammar) : Grammar := { g with tokens := g.tokens.drop 1 }

/-- With something more to be expected first. -/
def push (g : Grammar) (e : Expect) : Grammar := { g with stack := e :: g.stack }

/-- A fault in the course of something. -/
def faultIn (context : String) (start : Mark) (problem : String) (mark : Mark) : Fault :=
  .problem (.during .parser context start problem mark)

/-- A fault of its own. -/
def faultAt (problem : String) (mark : Mark) : Fault := .problem (.plain .parser problem mark)

/-- The name of a token between quotes. -/
def found (token : Token) : String := Text.quoted token.kind.name

/-- A scalar that stands for a node left out. -/
def noNode (mark : Mark) : Event := ⟨.scalar none none "" true, mark⟩

/-- Reads the directives before a document: whether a version was given, and the
    tag handles. -/
def directives : (fuel : Nat) → (versioned : Bool) → (handles : List (String × String)) → Grammar →
    Except Fault Grammar
  | 0, _, _, g => .ok g
  | fuel + 1, versioned, handles, g => do
    let token ← g.peek
    match token.kind with
    | .directive (.version major) =>
      if versioned then throw (faultAt "found duplicate YAML directive" token.start)
      else if major != 1 then
        throw (faultAt "found incompatible YAML document (version 1.* is required)" token.start)
      else directives fuel true handles g.drop
    | .directive (.handle handle meaning) =>
      if (handles.lookup handle).isSome then
        throw (faultAt ("duplicate tag handle " ++ Text.quoted handle) token.start)
      else directives fuel versioned (handles ++ [(handle, meaning)]) g.drop
    | .directive .other => directives fuel versioned handles g.drop
    -- Handles that the document gives come before those that all documents have, so they win.
    | _ => return { g with handles := handles ++ commonHandles }

/-- The properties of a node: its anchor and its tag with their places. -/
structure Properties where
  anchor : Option String
  tag : Option (Option String × String)
  start : Option Mark
  tagMark : Mark
  stop : Mark

/-- The properties of a node, in either order. -/
def properties (g : Grammar) : Except Fault (Properties × Grammar) := do
  let first ← g.peek
  match first.kind with
  | .anchor name =>
    let second ← g.drop.peek
    match second.kind with
    | .tag handle suffix =>
      return (⟨some name, some (handle, suffix), some first.start, second.start, second.stop⟩,
        g.drop.drop)
    | _ => return (⟨some name, none, some first.start, first.start, first.stop⟩, g.drop)
  | .tag handle suffix =>
    let second ← g.drop.peek
    match second.kind with
    | .anchor name =>
      return (⟨some name, some (handle, suffix), some first.start, first.start, second.stop⟩,
        g.drop.drop)
    | _ => return (⟨none, some (handle, suffix), some first.start, first.start, first.stop⟩, g.drop)
  | _ => return (⟨none, none, none, first.start, first.start⟩, g)

/-- A tag in full. -/
def fullTag (g : Grammar) (p : Properties) : Except Fault (Option String) :=
  match p.tag with
  | none => .ok none
  | some (none, suffix) => .ok (some suffix)
  | some (some handle, suffix) =>
    match g.handles.lookup handle with
    | some meaning => .ok (some (meaning ++ suffix))
    | none => .error (faultIn "while parsing a node" (p.start.getD p.tagMark)
        ("found undefined tag handle " ++ Text.quoted handle) p.tagMark)

/-- A node: an alias, a scalar or the beginning of a collection. Outside of
    brackets, `isBlock`, block collections may begin; entries of a sequence may
    stand without indentation where `mayBeBare`. -/
def node (isBlock mayBeBare : Bool) (g : Grammar) : Except Fault (Event × Grammar) := do
  let first ← g.peek
  if let .again name := first.kind then return (⟨.again name, first.start⟩, g.drop)
  let (p, g) ← g.properties
  let written ← g.fullTag p
  let start := p.start.getD first.start
  -- An exclamation mark alone is no tag: one is found for the node as for a plain scalar.
  let tag := if written == some "!" then none else written
  let token ← g.peek
  match token.kind with
  | .scalar text isPlain =>
    let resolved := (isPlain && written.isNone) || written == some "!"
    return (⟨.scalar p.anchor tag text resolved, start⟩, g.drop)
  | .flowSequenceStart =>
    return (⟨.sequenceStart p.anchor tag, start⟩, g.drop.push (.flowEntry token.start true))
  | .flowMappingStart =>
    return (⟨.mappingStart p.anchor tag, start⟩, g.drop.push (.flowKey token.start true))
  | kind =>
    if mayBeBare && kind == .blockEntry then
      return (⟨.sequenceStart p.anchor tag, start⟩, g.push .bareEntry)
    else if isBlock && kind == .blockSequenceStart then
      return (⟨.sequenceStart p.anchor tag, start⟩, g.drop.push (.blockEntry token.start))
    else if isBlock && kind == .blockMappingStart then
      return (⟨.mappingStart p.anchor tag, start⟩, g.drop.push (.blockKey token.start))
    -- Properties that no content follows belong to an empty scalar.
    else if p.start.isSome then
      return (⟨.scalar p.anchor tag "" (tag.isNone), start⟩, g)
    else
      throw (faultIn (if isBlock then "while parsing a block node" else "while parsing a flow node")
        start ("expected the node content, but found " ++ found token) token.start)

/-- A node, or none if a token follows that cannot begin one here; `stop` is the
    place of an empty scalar for it. -/
def nodeUnless (ends : List TokenKind) (isBlock mayBeBare : Bool) (stop : Mark) (g : Grammar) :
    Except Fault (Event × Grammar) := do
  if ends.contains (← g.peekKind) then return (noNode stop, g) else g.node isBlock mayBeBare

/-- The value of a key, where `ends` are the tokens that cannot begin it. -/
def valueUnless (ends : List TokenKind) (isBlock : Bool) (g : Grammar) :
    Except Fault (Event × Grammar) := do
  let token ← g.peek
  if token.kind == .value then g.drop.nodeUnless ends isBlock isBlock token.stop
  else return (noNode token.start, g)

/-- The beginning of a document with its directives, or the end of the text. -/
def document (g : Grammar) : Except Fault (Event × Grammar) := do
  let g := { g with tokens := g.tokens.dropWhile (·.kind == .documentEnd) }
  let token ← g.peek
  if token.kind == .streamEnd then return (⟨.streamEnd, token.start⟩, g.drop)
  let g ← directives (g.tokens.length + 1) false [] g
  let opening ← g.peek
  if opening.kind == .documentStart then
    return (⟨.documentStart, token.start⟩, (g.drop.push .documentEnd).push .content)
  else throw (faultAt ("expected '<document start>', but found " ++ found opening) opening.start)

/-- The first document, which needs no mark. -/
def firstDocument (g : Grammar) : Except Fault (Event × Grammar) := do
  let token ← g.peek
  match token.kind with
  | .directive _ | .documentStart | .streamEnd => g.document
  | _ =>
    let g := { g with handles := commonHandles }
    return (⟨.documentStart, token.start⟩, (g.push .documentEnd).push .blockNode)

/-- What a document holds, which may be nothing. -/
def content (g : Grammar) : Except Fault (Event × Grammar) := do
  let token ← g.peek
  match token.kind with
  | .directive _ | .documentStart | .documentEnd | .streamEnd => return (noNode token.start, g)
  | _ => g.node true false

/-- The end of a document. -/
def endDocument (g : Grammar) : Except Fault (Event × Grammar) := do
  let token ← g.peek
  let g := g.push .document
  return (⟨.documentEnd, token.start⟩, if token.kind == .documentEnd then g.drop else g)

/-- An entry of a block sequence, or its end. -/
def blockEntry (start : Mark) (g : Grammar) : Except Fault (Event × Grammar) := do
  let token ← g.peek
  match token.kind with
  | .blockEntry =>
    (g.drop.push (.blockEntry start)).nodeUnless [.blockEntry, .blockEnd] true false token.stop
  | .blockEnd => return (⟨.sequenceEnd, token.start⟩, g.drop)
  | _ => throw (faultIn "while parsing a block collection" start
      ("expected <block end>, but found " ++ found token) token.start)

/-- An entry of a sequence without indentation, or its end. -/
def bareEntry (g : Grammar) : Except Fault (Event × Grammar) := do
  let token ← g.peek
  if token.kind == .blockEntry then
    (g.drop.push .bareEntry).nodeUnless [.blockEntry, .key, .value, .blockEnd] true false token.stop
  else return (⟨.sequenceEnd, token.start⟩, g)

/-- A key of a block mapping, or its end. -/
def blockKey (start : Mark) (g : Grammar) : Except Fault (Event × Grammar) := do
  let token ← g.peek
  match token.kind with
  | .key =>
    let g := (g.drop.push (.blockKey start)).push .blockValue
    g.nodeUnless [.key, .value, .blockEnd] true true token.stop
  | .blockEnd => return (⟨.mappingEnd, token.start⟩, g.drop)
  | _ => throw (faultIn "while parsing a block mapping" start
      ("expected <block end>, but found " ++ found token) token.start)

/-- Passes over the comma between two entries in brackets; `closing` is the bracket
    that could stand there. -/
def comma (context closing : String) (start : Mark) (first : Bool) (g : Grammar) :
    Except Fault Grammar := do
  if first then return g
  let token ← g.peek
  if token.kind == .flowEntry then return g.drop
  else throw (faultIn context start
    ("expected ',' or '" ++ closing ++ "', but got " ++ found token) token.start)

/-- An entry of a sequence in brackets, or its end. A key there begins a mapping of
    one pair. -/
def flowEntry (start : Mark) (first : Bool) (g : Grammar) : Except Fault (Event × Grammar) := do
  let token ← g.peek
  if token.kind == .flowSequenceEnd then return (⟨.sequenceEnd, token.start⟩, g.drop)
  let g ← g.comma "while parsing a flow sequence" "]" start first
  let token ← g.peek
  match token.kind with
  | .flowSequenceEnd => return (⟨.sequenceEnd, token.start⟩, g.drop)
  | .key =>
    return (⟨.mappingStart none none, token.start⟩, (g.push (.flowEntry start false)).push .pairKey)
  | _ => (g.push (.flowEntry start false)).node false false

/-- The key of a pair in a sequence. -/
def pairKey (g : Grammar) : Except Fault (Event × Grammar) := do
  let token ← g.peek
  (g.drop.push .pairValue).nodeUnless [.value, .flowEntry, .flowSequenceEnd] false false token.stop

/-- The value of a pair in a sequence. -/
def pairValue (g : Grammar) : Except Fault (Event × Grammar) :=
  (g.push .pairEnd).valueUnless [.flowEntry, .flowSequenceEnd] false

/-- A key of a mapping in brackets, or its end. -/
def flowKey (start : Mark) (first : Bool) (g : Grammar) : Except Fault (Event × Grammar) := do
  let token ← g.peek
  if token.kind == .flowMappingEnd then return (⟨.mappingEnd, token.start⟩, g.drop)
  let g ← g.comma "while parsing a flow mapping" "\x7d" start first
  let token ← g.peek
  match token.kind with
  | .flowMappingEnd => return (⟨.mappingEnd, token.start⟩, g.drop)
  | .key =>
    let g := (g.drop.push (.flowKey start false)).push .flowValue
    g.nodeUnless [.value, .flowEntry, .flowMappingEnd] false false token.stop
  | _ => ((g.push (.flowKey start false)).push .flowNoValue).node false false

/-- Makes the next event out of what is expected first. -/
def react (e : Expect) (g : Grammar) : Except Fault (Event × Grammar) :=
  match e with
  | .stream => do
    let token ← g.peek
    return (⟨.streamStart, token.start⟩, g.drop.push .firstDocument)
  | .firstDocument => g.firstDocument
  | .document => g.document
  | .content => g.content
  | .documentEnd => g.endDocument
  | .blockEntry start => g.blockEntry start
  | .bareEntry => g.bareEntry
  | .blockKey start => g.blockKey start
  | .blockValue => g.valueUnless [.key, .value, .blockEnd] true
  | .flowEntry start first => g.flowEntry start first
  | .pairKey => g.pairKey
  | .pairValue => g.pairValue
  | .pairEnd => do return (⟨.mappingEnd, (← g.peek).start⟩, g)
  | .flowKey start first => g.flowKey start first
  | .flowValue => g.valueUnless [.flowEntry, .flowMappingEnd] false
  | .flowNoValue => do return (noNode (← g.peek).start, g)
  | .blockNode => g.node true false

/-- Makes the next event, if anything is expected. -/
def step (g : Grammar) : Except Fault (Option (Event × Grammar)) :=
  match g.stack with
  | [] => .ok none
  | e :: stack => ({ g with stack := stack }.react e).map some

end Grammar

/-- The events of a text, and the fault that ends them, if there is one. -/
structure Events where
  events : List Event
  fault : Option Fault

/-- The events from here on. -/
def eventsFrom : (fuel : Nat) → Grammar → Events
  | 0, _ => ⟨[], none⟩
  | fuel + 1, g =>
    match g.step with
    | .error fault => ⟨[], some fault⟩
    | .ok none => ⟨[], none⟩
    | .ok (some (event, g)) =>
      let rest := eventsFrom fuel g
      ⟨event :: rest.events, rest.fault⟩

/-- The events of tokens. -/
def eventsOf (tokens : Tokens) : Events :=
  eventsFrom (6 * tokens.tokens.length + 6) ⟨tokens.tokens, tokens.fault, [.stream], []⟩

end Yaml

end Annals
