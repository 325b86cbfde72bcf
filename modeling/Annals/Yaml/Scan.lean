import Annals.Yaml.BlockScalar
import Annals.Yaml.FlowScalar

/-!
# From Text to Tokens

How a text is cut into tokens. Outside of brackets, indentation tells where
collections begin and end: a stack of columns is kept, and tokens for the ends of
collections are made where a line is indented less.

A key on one line is not marked as such where it begins; only the colon after it
tells. So each token that may begin a key is remembered, and at a colon the tokens
for the key and, if need be, for a new mapping are inserted before it. A key that
has to be one, for it stands where the last key of its mapping stood, must find its
colon.

A reader of the tokens does not take one before it is known whether it begins a
key. So a fault becomes known to it when it has taken all tokens before the first
one that might still be a key, and no later. A key that does not find its colon is a
fault as soon as the token after it is read, so it is known even before that.

## Main definitions

* `Yaml.Scanner`: What is known while a text is cut into tokens.
* `Yaml.Scanner.fetch`: Reads the next token.
* `Yaml.Tokens`, `Yaml.scan`: The tokens of a text, up to a fault.
-/

namespace Annals

namespace Yaml

/-- A token that may begin a key: its number, whether it has to, and its place. -/
structure KeyStart where
  number : Nat
  required : Bool
  mark : Mark
  deriving Repr

/-- What is known while a text is cut into tokens: the place; how many brackets
    are open; the column of the innermost collection outside of brackets, and
    those of the collections around it; whether a key may begin here; the tokens
    that may begin keys, by the number of brackets around them; and the tokens. -/
structure Scanner where
  cursor : Cursor
  level : Int
  indent : Int
  indents : List Int
  keysAllowed : Bool
  keys : List (Int × KeyStart)
  tokens : Array Token

namespace Scanner

/-- The beginning of a text. -/
def start (text : List Char) : Scanner :=
  let c := Cursor.start text
  ⟨c, 0, -1, [], true, [], #[⟨.streamStart, c.mark, c.mark⟩]⟩

/-- Whether brackets are open. -/
def inFlow (s : Scanner) : Bool := s.level != 0

/-- A fault where a key does not find its colon. -/
def keyFault (s : Scanner) (key : KeyStart) : Fault :=
  scanFault "while scanning a simple key" key.mark "could not find expected ':'" s.cursor.mark

/-- How many characters a key on one line may have. -/
def longestKey : Nat := 1024

/-- Whether a token can no longer be the beginning of a key. -/
def isStale (s : Scanner) (key : KeyStart) : Bool :=
  key.mark.line != s.cursor.mark.line || key.mark.index + longestKey < s.cursor.mark.index

/-- Forgets the tokens that can no longer begin a key. -/
def dropStale (s : Scanner) : Except Fault Scanner :=
  match s.keys.find? fun (_, key) => key.required && s.isStale key with
  | some (_, key) => .error (s.keyFault key)
  | none => .ok { s with keys := s.keys.filter fun (_, key) => !s.isStale key }

/-- Forgets the token that may begin a key inside the innermost brackets. -/
def dropKey (s : Scanner) : Except Fault Scanner :=
  match s.keys.lookup s.level with
  | some key =>
    if key.required then .error (s.keyFault key)
    else .ok { s with keys := s.keys.filter (·.1 != s.level) }
  | none => .ok s

/-- Remembers that the next token may begin a key, if one is allowed here. -/
def saveKey (s : Scanner) : Except Fault Scanner := do
  if s.keysAllowed then
    let required := !s.inFlow && s.indent == s.cursor.column
    let s ← s.dropKey
    return { s with keys := s.keys ++ [(s.level, ⟨s.tokens.size, required, s.cursor.mark⟩)] }
  else return s

/-- Adds a token that takes no characters. -/
def addMark (s : Scanner) (kind : TokenKind) : Scanner :=
  { s with tokens := s.tokens.push ⟨kind, s.cursor.mark, s.cursor.mark⟩ }

/-- Adds a token of `count` characters. -/
def take (s : Scanner) (kind : TokenKind) (count : Nat) : Scanner :=
  let stop := s.cursor.skip count
  { s with tokens := s.tokens.push ⟨kind, s.cursor.mark, stop.mark⟩, cursor := stop }

/-- Adds a token that was read. -/
def add (s : Scanner) (read : Read) : Scanner :=
  { s with tokens := s.tokens.push read.1, cursor := read.2 }

/-- Sets whether a key may begin here. -/
def allowKeys (s : Scanner) (allowed : Bool) : Scanner := { s with keysAllowed := allowed }

/-- Ends the collections that are indented further than a column, the innermost
    one first. -/
def unwindTo (column : Int) : (indents : List Int) → Scanner → Scanner
  | [], s => s
  | outer :: indents, s =>
    if column < s.indent then
      unwindTo column indents ({ s with indent := outer, indents := indents }.addMark .blockEnd)
    else s

/-- Ends the collections that are indented further than a column, outside of
    brackets. -/
def unwind (s : Scanner) (column : Int) : Scanner :=
  if s.inFlow then s else unwindTo column s.indents s

/-- Begins a collection at a column, if it is indented further than the one
    around it. -/
def addIndent (s : Scanner) (column : Int) : Option Scanner :=
  if s.indent < column then
    some { s with indent := column, indents := s.indent :: s.indents }
  else none

/-- Begins a collection at the place with a token for it, if it is indented
    further than the one around it. -/
def beginBlock (s : Scanner) (kind : TokenKind) : Scanner :=
  match s.addIndent s.cursor.column with
  | some s => s.addMark kind
  | none => s

/-- Passes over blanks, comments and line ends. Outside of brackets a key may begin
    on a new line. -/
def skipToToken : (fuel : Nat) → Scanner → Scanner
  | 0, s => s
  | fuel + 1, s =>
    let c := s.cursor.skipWhile (· == ' ')
    let c := if c.peek == '#' then c.skipWhile (!isLineEnd ·) else c
    if isBreak c.peek then
      let s := { s with cursor := c.lineEnd.2 }
      skipToToken fuel (if s.inFlow then s else s.allowKeys true)
    else { s with cursor := c }

/-- Passes over a byte order mark at the beginning of the text. -/
def skipByteOrderMark (s : Scanner) : Scanner :=
  if s.cursor.mark.index == 0 && s.cursor.peek.toNat == 0xFEFF then { s with cursor := s.cursor.next }
  else s

/-- The end of the text. -/
def endStream (s : Scanner) : Except Fault Scanner := do
  let s ← (s.unwind (-1)).dropKey
  return { s with keysAllowed := false, keys := [] }.addMark .streamEnd

/-- A directive. -/
def takeDirective (s : Scanner) : Except Fault Scanner := do
  let s ← (s.unwind (-1)).dropKey
  return (s.allowKeys false).add (← directive s.cursor)

/-- A mark that separates documents. -/
def takeSeparator (s : Scanner) (kind : TokenKind) : Except Fault Scanner := do
  let s ← (s.unwind (-1)).dropKey
  return (s.allowKeys false).take kind 3

/-- An opening bracket. -/
def openBracket (s : Scanner) (kind : TokenKind) : Except Fault Scanner := do
  let s ← s.saveKey
  return ({ s with level := s.level + 1 }.allowKeys true).take kind 1

/-- A closing bracket. -/
def closeBracket (s : Scanner) (kind : TokenKind) : Except Fault Scanner := do
  let s ← s.dropKey
  return ({ s with level := s.level - 1 }.allowKeys false).take kind 1

/-- A comma between brackets. -/
def takeComma (s : Scanner) : Except Fault Scanner := do
  return (← (s.allowKeys true).dropKey).take .flowEntry 1

/-- The mark of an entry of a sequence. -/
def takeEntry (s : Scanner) : Except Fault Scanner := do
  if !s.inFlow && !s.keysAllowed then
    throw (strayFault "sequence entries are not allowed here" s.cursor.mark)
  let s := if s.inFlow then s else s.beginBlock .blockSequenceStart
  return (← (s.allowKeys true).dropKey).take .blockEntry 1

/-- The mark of a key. -/
def takeKey (s : Scanner) : Except Fault Scanner := do
  if !s.inFlow && !s.keysAllowed then
    throw (strayFault "mapping keys are not allowed here" s.cursor.mark)
  let s := if s.inFlow then s else s.beginBlock .blockMappingStart
  return (← (s.allowKeys (!s.inFlow)).dropKey).take .key 1

/-- Makes a token the beginning of a key, and of a mapping if it is indented
    further than the collection around it. -/
def settleKey (s : Scanner) (key : KeyStart) : Scanner :=
  let s := { s with
    keys := s.keys.filter (·.1 != s.level)
    tokens := s.tokens.insertIdxIfInBounds key.number ⟨.key, key.mark, key.mark⟩ }
  if s.inFlow then s
  else
    match s.addIndent key.mark.column with
    | some s =>
      { s with tokens :=
          s.tokens.insertIdxIfInBounds key.number ⟨.blockMappingStart, key.mark, key.mark⟩ }
    | none => s

/-- The mark of a value. -/
def takeValue (s : Scanner) : Except Fault Scanner := do
  match s.keys.lookup s.level with
  | some key => return ((s.settleKey key).allowKeys false).take .value 1
  | none =>
    if !s.inFlow && !s.keysAllowed then
      throw (strayFault "mapping values are not allowed here" s.cursor.mark)
    let s := if s.inFlow then s else s.beginBlock .blockMappingStart
    return (← (s.allowKeys (!s.inFlow)).dropKey).take .value 1

/-- An anchor, an alias, a tag or a quoted scalar, any of which may begin a key. -/
def takeNamed (s : Scanner) (read : Cursor → Except Fault Read) : Except Fault Scanner := do
  let s ← s.saveKey
  return (s.allowKeys false).add (← read s.cursor)

/-- A scalar of several lines, after which a key may begin. -/
def takeBlockScalar (s : Scanner) : Except Fault Scanner := do
  let s ← (s.allowKeys true).dropKey
  return s.add (← blockScalar s.indent s.cursor)

/-- A plain scalar. -/
def takePlain (s : Scanner) : Except Fault Scanner := do
  let s ← s.saveKey
  let (token, stop, broke) := plainScalar s.inFlow (s.indent + 1) s.cursor
  return (s.allowKeys broke).add (token, stop)

/-- The characters with which no plain scalar begins. -/
def isIndicator (c : Char) : Bool :=
  "-?:,[]#&*!|>'\"%@".toList.contains c || c.toNat == 96 || c.toNat == 123 || c.toNat == 125

/-- Whether a plain scalar begins here. -/
def startsPlain (s : Scanner) : Bool :=
  let c := s.cursor.peek
  !(isGap c || isIndicator c) ||
    (!isGap (s.cursor.peek 1) && (c == '-' || (!s.inFlow && (c == '?' || c == ':'))))

/-- The token at the place. -/
def takeToken (s : Scanner) : Except Fault Scanner :=
  let c := s.cursor.peek
  let lineStart := s.cursor.mark.column == 0
  let alone := isGap (s.cursor.peek 1)
  if c == endChar then s.endStream
  else if c == '%' && lineStart then s.takeDirective
  else if c == '-' && lineStart && s.cursor.atSeparator then s.takeSeparator .documentStart
  else if c == '.' && lineStart && s.cursor.atSeparator then s.takeSeparator .documentEnd
  else if c == '[' then s.openBracket .flowSequenceStart
  else if c.toNat == 123 then s.openBracket .flowMappingStart
  else if c == ']' then s.closeBracket .flowSequenceEnd
  else if c.toNat == 125 then s.closeBracket .flowMappingEnd
  else if c == ',' then s.takeComma
  else if c == '-' && alone then s.takeEntry
  -- Between brackets these marks need no blank behind them.
  else if c == '?' && (s.inFlow || alone) then s.takeKey
  else if c == ':' && (s.inFlow || alone) then s.takeValue
  else if c == '*' || c == '&' then s.takeNamed anchor
  else if c == '!' then s.takeNamed tag
  else if (c == '|' || c == '>') && !s.inFlow then s.takeBlockScalar
  else if c == '\'' || c == '"' then s.takeNamed quotedScalar
  else if s.startsPlain then s.takePlain
  else .error (.problem ⟨.scanner, some ("while scanning for the next token", none),
    "found character " ++ quotedChar c ++ " that cannot start any token", s.cursor.mark⟩)

/-- Reads the next token, and the ends of collections before it. -/
def fetch (s : Scanner) : Except Fault Scanner := do
  let s := s.skipByteOrderMark
  let s ← (skipToToken (s.cursor.left + 1) s).dropStale
  (s.unwind s.cursor.column).takeToken

/-- Whether the end of the text is reached. -/
def isDone (s : Scanner) : Bool :=
  match s.tokens.back? with
  | some token => token.kind == .streamEnd
  | none => false

/-- The number of tokens before the first one that may begin a key. -/
def settled (s : Scanner) : Nat :=
  s.keys.foldl (fun least (_, key) => min least key.number) s.tokens.size

end Scanner

/-- The tokens of a text, and the fault that ends them, if there is one. -/
structure Tokens where
  tokens : List Token
  fault : Option Fault

/-- The tokens of the text from here on, of which the first `ready` could be taken before
    the last one was read. -/
def scanFrom : (fuel ready : Nat) → Scanner → Tokens
  | 0, _, s => ⟨s.tokens.toList, none⟩
  | fuel + 1, ready, s =>
    if s.isDone then ⟨s.tokens.toList, none⟩
    else
      match s.dropStale with
      | .error fault => ⟨s.tokens.toList.take ready, some fault⟩
      | .ok s =>
        match s.fetch with
        | .error fault => ⟨s.tokens.toList.take s.settled, some fault⟩
        | .ok next => scanFrom fuel s.settled next

/-- The tokens of a text. -/
def scan (text : List Char) : Tokens := scanFrom (text.length + 2) 0 (.start text)

/-- Whether `c` may be in a text. -/
def isTextChar (c : Char) : Bool :=
  let n := c.toNat
  n == 9 || n == 10 || n == 13 || (0x20 ≤ n && n ≤ 0x7E) || n == 0x85 ||
    (0xA0 ≤ n && n ≤ 0xFFFD) || 0x10000 ≤ n

/-- The first character that may not be in a text. -/
def strayChar? : (position : Nat) → List Char → Option Fault
  | _, [] => none
  | position, c :: rest =>
    if isTextChar c then strayChar? (position + 1) rest else some (.character position c.toNat)

end Yaml

end Annals
