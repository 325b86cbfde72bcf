import Annals.Yaml.Fault
import Annals.Text.Quoted
import Annals.Text.Utf8

/-!
# Tokens

The smallest parts of a YAML text that mean something: the marks of collections,
entries, keys and values, the properties of nodes, and scalars. The beginning and
the end of a block collection are tokens too, although no character stands for
them.

This module reads those tokens that consist of a name or an address: directives,
anchors, aliases and tags.

## Main definitions

* `Yaml.Token`: A token and its places.
* `Yaml.TokenKind.name`: The name of a token in reports.
* `Yaml.directive`, `Yaml.anchor`, `Yaml.tag`: The tokens of names.
-/

namespace Annals

namespace Yaml

/-- What a document says about its own form: its version, of which the first
    number is kept, or what a tag handle stands for. -/
inductive Directive where
  | version (major : Nat)
  | handle (handle address : String)
  | other
  deriving DecidableEq, Repr

/-- What a token is. -/
inductive TokenKind where
  | streamStart
  | streamEnd
  | directive (d : Directive)
  | documentStart
  | documentEnd
  | blockSequenceStart
  | blockMappingStart
  | blockEnd
  | flowSequenceStart
  | flowMappingStart
  | flowSequenceEnd
  | flowMappingEnd
  | key
  | value
  | blockEntry
  | flowEntry
  | again (name : String)
  | anchor (name : String)
  | tag (handle : Option String) (suffix : String)
  | scalar (text : String) (isPlain : Bool)
  deriving DecidableEq, Repr, Inhabited

/-- A token and its places. -/
structure Token where
  kind : TokenKind
  start : Mark
  stop : Mark
  deriving Repr, Inhabited

/-- The name of a token in reports. -/
def TokenKind.name : TokenKind → String
  | streamStart => "<stream start>"
  | streamEnd => "<stream end>"
  | directive _ => "<directive>"
  | documentStart => "<document start>"
  | documentEnd => "<document end>"
  | blockSequenceStart => "<block sequence start>"
  | blockMappingStart => "<block mapping start>"
  | blockEnd => "<block end>"
  | flowSequenceStart => "["
  | flowMappingStart => "\x7b"
  | flowSequenceEnd => "]"
  | flowMappingEnd => "\x7d"
  | key => "?"
  | value => ":"
  | blockEntry => "-"
  | flowEntry => ","
  | again _ => "<alias>"
  | anchor _ => "<anchor>"
  | tag .. => "<tag>"
  | scalar .. => "<scalar>"

/-- A token that was read, and the place after it. -/
abbrev Read := Token × Cursor

/-- A character between quotes. -/
def quotedChar (c : Char) : String := Text.quoted (String.singleton c)

/-- Passes over blanks, a comment and the end of a line, where nothing else may
    stand. -/
def restOfLine (context : String) (start : Mark) (c : Cursor) : Except Fault Cursor :=
  let c := c.skipWhile (· == ' ')
  let c := if c.peek == '#' then c.skipWhile (!isLineEnd ·) else c
  if isLineEnd c.peek then .ok c.lineEnd.2
  else .error (scanFault context start
    ("expected a comment or a line break, but found " ++ quotedChar c.peek) c.mark)

/-- What is going on when an anchor or an alias is read. -/
def anchorContext (isAlias : Bool) : String :=
  if isAlias then "while scanning an alias" else "while scanning an anchor"

/-- Whether `c` may follow the name of an anchor. -/
def endsAnchor (c : Char) : Bool :=
  isGap c || "?:,]%@".toList.contains c || c.toNat == 125 || c.toNat == 96

/-- An anchor or an alias. -/
def anchor (c : Cursor) : Except Fault Read :=
  let isAlias := c.peek == '*'
  let (name, stop) := c.next.takeWhile isNameChar
  let fault (place : Cursor) := scanFault (anchorContext isAlias) c.mark
    ("expected alphabetic or numeric character, but found " ++ quotedChar stop.peek) place.mark
  if name.isEmpty then .error (fault c.next)
  else if !endsAnchor stop.peek then .error (fault stop)
  else
    let name := String.ofList name
    .ok (⟨if isAlias then .again name else .anchor name, c.mark, stop.mark⟩, stop)

/-- Whether `c` may be in an address as it is. -/
def isAddressChar (c : Char) : Bool :=
  isNameChar c || ";/?:@&=+$,.!~*'()[]".toList.contains c

/-- The bytes that are spelled out with a percent sign each, and the place after
    them. -/
def spelled (context : String) (start : Mark) : (fuel : Nat) → Cursor →
    Except Fault (List Nat × Cursor)
  | 0, c => .ok ([], c)
  | fuel + 1, c =>
    if c.peek == '%' then
      let c := c.next
      match Text.hexValue? c.peek, Text.hexValue? (c.peek 1) with
      | some high, some low => do
        let (bytes, c) ← spelled context start fuel (c.skip 2)
        return ((high * 16 + low) :: bytes, c)
      | high, _ =>
        let found := if high.isNone then c.peek else c.peek 1
        .error (scanFault context start
          ("expected URI escape sequence of 2 hexadecimal numbers, but found " ++
            quotedChar found) c.mark)
    else .ok ([], c)

/-- The characters of an address from here on, and the place after them. -/
def addressFrom (context : String) (start : Mark) : (fuel : Nat) → Cursor →
    Except Fault (List Char × Cursor)
  | 0, c => .ok ([], c)
  | fuel + 1, c => do
    let (part, stop) := c.takeWhile isAddressChar
    if stop.peek == '%' then
      let (bytes, after) ← spelled context start stop.left stop
      match Utf8.decode bytes with
      | .ok cs =>
        let (rest, after) ← addressFrom context start fuel after
        return (part ++ cs ++ rest, after)
      | .error fault => .error (scanFault context start fault.message stop.mark)
    else return (part, stop)

/-- An address that has at least one character. -/
def address (what : String) (start : Mark) (c : Cursor) : Except Fault (String × Cursor) := do
  let (cs, stop) ← addressFrom ("while scanning a " ++ what) start (c.left + 1) c
  if stop.mark.index == c.mark.index then
    .error (scanFault ("while parsing a " ++ what) start
      ("expected URI, but found " ++ quotedChar c.peek) c.mark)
  else return (String.ofList cs, stop)

/-- A tag handle: one exclamation mark, or a name between two of them, which may
    be empty. -/
def tagHandle (what : String) (start : Mark) (c : Cursor) : Except Fault (String × Cursor) :=
  let fault (place : Cursor) := scanFault ("while scanning a " ++ what) start
    ("expected '!', but found " ++ quotedChar place.peek) place.mark
  if c.peek != '!' then .error (fault c)
  else if c.peek 1 == ' ' then .ok ("!", c.next)
  else
    let stop := c.next.skipWhile isNameChar
    if stop.peek != '!' then .error (fault stop)
    else .ok (String.ofList (c.upTo stop.next), stop.next)

/-- A tag. It is written in full between angle brackets, or as a suffix to a
    handle; an exclamation mark alone is a tag too. -/
def tag (c : Cursor) : Except Fault Read := do
  let what := "tag"
  let ((handle, suffix), stop) ←
    if c.peek 1 == '<' then do
      let (suffix, stop) ← address what c.mark (c.skip 2)
      if stop.peek == '>' then pure ((none, suffix), stop.next)
      else throw (scanFault "while parsing a tag" c.mark
        ("expected '>', but found " ++ quotedChar stop.peek) stop.mark)
    else if isGap (c.peek 1) then pure ((none, "!"), c.next)
    else do
      let named := (c.next.skipWhile fun d => d != '!' && !isWordEnd d).peek == '!'
      let (handle, stop) ← if named then tagHandle what c.mark c else pure ("!", c.next)
      let (suffix, stop) ← address what c.mark stop
      pure ((some handle, suffix), stop)
  if isWordEnd stop.peek then return (⟨.tag handle suffix, c.mark, stop.mark⟩, stop)
  else throw (scanFault "while scanning a tag" c.mark
    ("expected ' ', but found " ++ quotedChar stop.peek) stop.mark)

/-- What is going on when a directive is read. -/
def directiveContext : String := "while scanning a directive"

/-- One of the numbers of a version. -/
def versionNumber (start : Mark) (c : Cursor) : Except Fault (Nat × Cursor) :=
  let (digits, stop) := c.takeWhile Text.isAsciiDigit
  if digits.isEmpty then
    .error (scanFault directiveContext start
      ("expected a digit, but found " ++ quotedChar c.peek) c.mark)
  else if maxDigits < digits.length then
    .error (.defect (.value (longNumberMessage digits.length)))
  else .ok (Text.decimalValue digits, stop)

/-- A version: two numbers with a point between them. -/
def version (start : Mark) (c : Cursor) : Except Fault (Directive × Cursor) := do
  let (major, c) ← versionNumber start (c.skipWhile (· == ' '))
  if c.peek != '.' then
    throw (scanFault directiveContext start
      ("expected a digit or '.', but found " ++ quotedChar c.peek) c.mark)
  let (_, c) ← versionNumber start c.next
  if isWordEnd c.peek then return (.version major, c)
  else throw (scanFault directiveContext start
    ("expected a digit or ' ', but found " ++ quotedChar c.peek) c.mark)

/-- A tag handle and what it stands for. -/
def handleMeaning (start : Mark) (c : Cursor) : Except Fault (Directive × Cursor) := do
  let what := "directive"
  let fault (c : Cursor) := scanFault directiveContext start
    ("expected ' ', but found " ++ quotedChar c.peek) c.mark
  let (handle, c) ← tagHandle what start (c.skipWhile (· == ' '))
  if c.peek != ' ' then throw (fault c)
  let (meaning, c) ← address what start (c.skipWhile (· == ' '))
  if isWordEnd c.peek then return (.handle handle meaning, c) else throw (fault c)

/-- A directive with the line it is on. -/
def directive (c : Cursor) : Except Fault Read := do
  let (name, stop) := c.next.takeWhile isNameChar
  let fault := scanFault directiveContext c.mark
    ("expected alphabetic or numeric character, but found " ++ quotedChar stop.peek) stop.mark
  if name.isEmpty || !isWordEnd stop.peek then throw fault
  let (meaning, stop) ←
    if name == "YAML".toList then version c.mark stop
    else if name == "TAG".toList then handleMeaning c.mark stop
    else pure (Directive.other, stop)
  let after := if meaning == .other then stop.skipWhile (!isLineEnd ·) else stop
  let after ← restOfLine directiveContext c.mark after
  return (⟨.directive meaning, c.mark, stop.mark⟩, after)

end Yaml

end Annals
