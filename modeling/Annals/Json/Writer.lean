import Annals.Value.Display

/-!
# Writing JSON

A value as a JSON text. A style says whether the text is on one line or
indented, whether characters outside ASCII are escaped, and whether a value
that JSON has no form for is written as the text by which it is shown. What
cannot be written is a container that holds itself, a key that is no text,
number, truth value or null, an integer with too many digits, and, in a strict
style, a date or bytes.

## Main definitions

* `Json.Style`: The choices.
* `Json.Unwritable`: Why a value has no text.
* `Json.write`: The text of a value.
-/

namespace Annals

namespace Json

/-- How a text is laid out. -/
structure Style where
  /-- The columns that a level adds; none for a text on one line. -/
  indent : Option Nat
  /-- Whether characters outside ASCII are escaped. -/
  ascii : Bool
  /-- Whether a value that JSON has no form for is written as its text. -/
  lenient : Bool

namespace Style

/-- One line, ASCII only, nothing but what JSON has a form for. -/
def compact : Style := ⟨none, true, false⟩

/-- Four columns a level, any character, values as texts where needed. -/
def details : Style := ⟨some 4, false, true⟩

/-- Two columns a level, any character. -/
def report : Style := ⟨some 2, false, false⟩

end Style

/-- Why a value cannot be written. -/
inductive Unwritable where
  | circular
  | key
  | value
  | longInteger
  deriving DecidableEq, Repr

/-- The wording for a value that cannot be written. -/
def Unwritable.message : Unwritable → String
  | circular => "Circular reference detected"
  | key => "A key has to be a text, a number, a truth value or null"
  | value => "The value has no form in JSON"
  | longInteger => longIntegerMessage

/-- A number of base sixteen in four digits, after its mark. -/
def unicodeEscape (n : Nat) : List Char := '\\' :: 'u' :: Text.toHex 4 n

/-- One character of a text in quotes. Outside the first plane two escapes
    stand for one character. -/
def writeChar (ascii : Bool) (c : Char) : List Char :=
  if c == '"' then ['\\', '"']
  else if c == '\\' then ['\\', '\\']
  else if c == '\n' then ['\\', 'n']
  else if c == '\r' then ['\\', 'r']
  else if c == '\t' then ['\\', 't']
  else if c.toNat == 12 then ['\\', 'f']
  else if c.toNat == 8 then ['\\', 'b']
  else if c.toNat < 32 then unicodeEscape c.toNat
  else if !ascii || c.toNat < 127 then [c]
  else if c.toNat < 0x10000 then unicodeEscape c.toNat
  else
    let n := c.toNat - 0x10000
    unicodeEscape (0xD800 + n / 0x400) ++ unicodeEscape (0xDC00 + n % 0x400)

/-- A text in quotes. -/
def writeText (ascii : Bool) (s : String) : List Char :=
  '"' :: s.toList.flatMap (writeChar ascii) ++ ['"']

/-- A line end and the indentation of a level; nothing on one line. -/
def lineBreak (style : Style) (level : Nat) : List Char :=
  match style.indent with
  | none => []
  | some width => '\n' :: List.replicate (width * level) ' '

/-- What stands between two members of a container. -/
def separator (style : Style) (level : Nat) : List Char :=
  match style.indent with
  | none => [',', ' ']
  | some _ => ',' :: lineBreak style level

/-- The digits of an integer. -/
def writeInteger (n : Int) : Except Unwritable (List Char) :=
  if isLong n then .error .longInteger else .ok (toString n).toList

/-- The text of a key. -/
def writeKey (style : Style) : Value → Except Unwritable (List Char)
  | .text s => .ok (writeText style.ascii s)
  | .int n => (writeInteger n).map fun ds => '"' :: ds ++ ['"']
  | .float x => .ok (writeText style.ascii (x.written .json))
  | .bool b => .ok (writeText style.ascii (if b then "true" else "false"))
  | .null => .ok (writeText style.ascii "null")
  | _ => .error .key

/-- The text of a value that JSON has no form for. -/
def writeOther (style : Style) (v : Value) : Except Unwritable (List Char) :=
  if !style.lenient then .error .value
  else if v.holdsLong then .error .longInteger
  else .ok (writeText style.ascii v.plain)

/-- A list with the members already written. -/
def brackets (style : Style) (level : Nat) (opening closing : Char) (members : List Char) :
    List Char :=
  opening :: (lineBreak style (level + 1) ++ members ++ lineBreak style level ++ [closing])

mutual

/-- The text of a value at a level. -/
def writeAt (style : Style) (level : Nat) : Value → Except Unwritable (List Char)
  | .null => .ok "null".toList
  | .bool b => .ok (if b then "true" else "false").toList
  | .int n => writeInteger n
  | .float x => .ok (x.written .json).toList
  | .text s => .ok (writeText style.ascii s)
  | .bytes b => writeOther style (.bytes b)
  | .date d => writeOther style (.date d)
  | .moment t => writeOther style (.moment t)
  | .seq _ items => do
    -- Without items there is nothing to put on lines of its own, whatever the style.
    if items.isEmpty then return ['[', ']']
    let members ← writeItems style (level + 1) items
    return brackets style level '[' ']' members
  | .pair a b => do
    let first ← writeAt style (level + 1) a
    let second ← writeAt style (level + 1) b
    return brackets style level '[' ']' (first ++ separator style (level + 1) ++ second)
  | .map _ entries => do
    if entries.isEmpty then return ['\x7b', '\x7d']
    let members ← writeEntries style (level + 1) entries
    return brackets style level '\x7b' '\x7d' members
  | .set id members => writeOther style (.set id members)
  | .back _ => .error .circular
termination_by structural v => v

/-- The items of a list at a level. -/
def writeItems (style : Style) (level : Nat) : List Value → Except Unwritable (List Char)
  | [] => .ok []
  | v :: rest => do
    let first ← writeAt style level v
    let others ← writeItems style level rest
    return if rest.isEmpty then first else first ++ separator style level ++ others
termination_by structural vs => vs

/-- The entries of an object at a level. -/
def writeEntries (style : Style) (level : Nat) :
    List (Value × Value) → Except Unwritable (List Char)
  | [] => .ok []
  | (k, v) :: rest => do
    let key ← writeKey style k
    let value ← writeAt style level v
    let entry := key ++ ':' :: ' ' :: value
    let others ← writeEntries style level rest
    return if rest.isEmpty then entry else entry ++ separator style level ++ others
termination_by structural es => es

end

/-- The text of a value. -/
def write (style : Style) (v : Value) : Except Unwritable String :=
  (writeAt style 0 v).map String.ofList

end Json

end Annals
