import Annals.Json.Fault
import Annals.Number.DigitLimit
import Annals.Text.Digit
import Annals.Text.Surrogate
import Annals.Value.Equal

/-!
# Reading JSON

A JSON text is read into a value. Integers have any size, up to a limit on the
digits written; a number with a fraction or an exponent is a float. Beyond the
standard the names `NaN`, `Infinity` and `-Infinity` are numbers. When an
object has a name twice, the last value counts and keeps the first place.

Reading steps down the list of characters. A fault is recorded by the number of
characters that were left, which is turned into a place once at the end.

## Main definitions

* `Json.parse`: The value that a text describes, or why there is none.
-/

namespace Annals

namespace Json

/-- A fault with the number of characters left, a number that is too long, or
    containers nested too deep. -/
inductive Stop where
  | fault (cause : Cause) (left : Nat)
  | longNumber (digits : Nat)
  | nested

/-- How deep lists and objects can be nested. -/
def maxNesting : Nat := 975

/-- The mark of a number that a JSON text gives as no number. -/
def nanMark : Nat := 1

/-- The four blanks that may stand between the parts of a document. -/
def isSpace (c : Char) : Bool := c == ' ' || c == '\t' || c == '\n' || c == '\r'

/-- The text from its first character that is no blank. -/
def skipSpace (cs : List Char) : List Char := cs.dropWhile isSpace

/-- The character that a letter after a backslash stands for. -/
def escaped? : Char → Option Char
  | '"' => some '"'
  | '\\' => some '\\'
  | '/' => some '/'
  | 'b' => some (Char.ofNat 8)
  | 'f' => some (Char.ofNat 12)
  | 'n' => some '\n'
  | 'r' => some '\r'
  | 't' => some '\t'
  | _ => none

/-- The number that four digits of base sixteen write. -/
def hex4? (a b c d : Char) : Option Nat :=
  if [a, b, c, d].all Text.isHexDigit then some (Text.hexNumber [a, b, c, d]) else none

/-- The numbers of the characters of a text in quotes, after its opening quote,
    which had `start` characters left from it on. -/
def readUnits (start : Nat) : List Char → Except Stop (List Nat × List Char)
  | [] => .error (.fault .openText start)
  | '"' :: rest => .ok ([], rest)
  | '\\' :: 'u' :: a :: b :: c :: d :: rest =>
    match hex4? a b c d with
    | none => .error (.fault .unicode (rest.length + 5))
    | some n =>
      -- At the end of the input the escape is at fault, and not the quote that is missing.
      if rest.isEmpty then .error (.fault .unicode 5)
      else do
        let (units, after) ← readUnits start rest
        return (n :: units, after)
  | '\\' :: 'u' :: rest => .error (.fault .unicode (rest.length + 1))
  | ['\\'] => .error (.fault .openText start)
  | '\\' :: c :: rest =>
    match escaped? c with
    | none => .error (.fault .escape (rest.length + 2))
    | some plain => do
      let (units, after) ← readUnits start rest
      return (plain.toNat :: units, after)
  | c :: rest =>
    if c.toNat < 32 then .error (.fault .control (rest.length + 1))
    else do
      let (units, after) ← readUnits start rest
      return (c.toNat :: units, after)

/-- The rest of a text in quotes, after its opening quote. -/
def readText (start : Nat) (cs : List Char) : Except Stop (String × List Char) := do
  let (units, after) ← readUnits start cs
  return (String.ofList (Text.joinHalves units), after)

/-- The digits of a fraction, if a point and a digit follow. -/
def readFraction : List Char → Option (List Char × List Char)
  | '.' :: rest =>
    let ds := rest.takeWhile Text.isAsciiDigit
    if ds.isEmpty then none else some (ds, rest.dropWhile Text.isAsciiDigit)
  | _ => none

/-- A signed exponent, if its mark and a digit follow. -/
def readExponent : List Char → Option (Int × List Char)
  | c :: rest =>
    if c != 'e' && c != 'E' then none
    else
      let (negative, rest) := match rest with
        | '-' :: r => (true, r)
        | '+' :: r => (false, r)
        | r => (false, r)
      let ds := rest.takeWhile Text.isAsciiDigit
      if ds.isEmpty then none
      else
        let n : Int := Text.decimalValue ds
        some (if negative then -n else n, rest.dropWhile Text.isAsciiDigit)
  | [] => none

/-- A number, at the start of which `left` characters were left. -/
def readNumber (left : Nat) (cs : List Char) : Except Stop (Value × List Char) :=
  let (negative, body) := match cs with
    | '-' :: r => (true, r)
    | r => (false, r)
  -- A zero is a whole number by itself; digits behind it are left over.
  let whole := match body with
    | '0' :: _ => ['0']
    | _ => body.takeWhile Text.isAsciiDigit
  if whole.isEmpty then .error (.fault .value left)
  else
    let rest := body.drop whole.length
    let (fraction, rest) := match readFraction rest with
      | some (ds, r) => (some ds, r)
      | none => (none, rest)
    let (exponent, rest) := match readExponent rest with
      | some (n, r) => (some n, r)
      | none => (none, rest)
    -- Only a number without either of them is an integer, which has a limit on its digits.
    if fraction.isNone && exponent.isNone then
      if maxDigits < whole.length then .error (.longNumber whole.length)
      else
        let n : Int := Text.decimalValue whole
        .ok (.int (if negative then -n else n), rest)
    else
      let ds := fraction.getD []
      .ok (.float (.ofDecimal negative (Text.decimalValue (whole ++ ds))
        (exponent.getD 0 - ds.length)), rest)

/-- The names that stand for a value, with what they stand for. -/
def names : List (List Char × Value) :=
  [("null".toList, .null), ("true".toList, .bool true), ("false".toList, .bool false),
   ("NaN".toList, .float (.nan nanMark)), ("Infinity".toList, .float (.infinite false)),
   ("-Infinity".toList, .float (.infinite true))]

/-- A name at the start of the text. -/
def readName : List (List Char × Value) → List Char → Option (Value × List Char)
  | [], _ => none
  | (name, v) :: rest, cs =>
    if name.isPrefixOf cs then some (v, cs.drop name.length) else readName rest cs

mutual

/-- A value at the start of the text, inside of `depth` containers. Every step
    takes a character off, so `fuel` of more than their number never runs out. -/
def readValue : (fuel depth : Nat) → List Char → Except Stop (Value × List Char)
  | 0, _, cs => .error (.fault .value cs.length)
  | fuel + 1, depth, cs =>
    match cs with
    | '"' :: rest => do
      let (s, after) ← readText cs.length rest
      return (.text s, after)
    | '[' :: rest =>
      if maxNesting ≤ depth then .error .nested
      else match skipSpace rest with
      | ']' :: after => .ok (.seq 0 [], after)
      | rest => do
        let (items, after) ← readItems fuel (depth + 1) rest
        return (.seq 0 items, after)
    | '\x7b' :: rest =>
      if maxNesting ≤ depth then .error .nested
      else match skipSpace rest with
      | '\x7d' :: after => .ok (.map 0 [], after)
      | rest => do
        let (entries, after) ← readEntries fuel (depth + 1) [] rest
        return (.map 0 entries, after)
    | _ =>
      -- Names come first, since one of them begins like a number.
      match readName names cs with
      | some found => .ok found
      | none => readNumber cs.length cs

/-- The items of a list, up to its closing bracket. -/
def readItems : (fuel depth : Nat) → List Char → Except Stop (List Value × List Char)
  | 0, _, cs => .error (.fault .value cs.length)
  | fuel + 1, depth, cs => do
    let (v, rest) ← readValue fuel depth cs
    match skipSpace rest with
    | ']' :: after => return ([v], after)
    | ',' :: rest =>
      let (items, after) ← readItems fuel depth (skipSpace rest)
      return (v :: items, after)
    | rest => .error (.fault .comma rest.length)

/-- The entries of an object after those already read, up to its closing
    brace. -/
def readEntries : (fuel depth : Nat) → List (Value × Value) → List Char →
    Except Stop (List (Value × Value) × List Char)
  | 0, _, _, cs => .error (.fault .value cs.length)
  | fuel + 1, depth, entries, cs =>
    match cs with
    | '"' :: rest => do
      let (name, rest) ← readText cs.length rest
      match skipSpace rest with
      | ':' :: rest =>
        let (v, rest) ← readValue fuel depth (skipSpace rest)
        -- A name that comes again keeps its first place and takes the last value.
        let entries := Value.insert (.text name) v entries
        match skipSpace rest with
        | '\x7d' :: after => return (entries, after)
        | ',' :: rest => readEntries fuel depth entries (skipSpace rest)
        | rest => .error (.fault .comma rest.length)
      | rest => .error (.fault .colon rest.length)
    | _ => .error (.fault .name cs.length)

end

/-- The value that a whole text describes. -/
def readDocument (cs : List Char) : Except Stop Value :=
  match cs with
  | c :: _ =>
    if c.toNat == 0xFEFF then .error (.fault .byteOrderMark cs.length) else go cs
  | [] => go cs
where
  /-- One value with blanks around it and nothing else. -/
  go (cs : List Char) : Except Stop Value := do
    let (v, rest) ← readValue (2 * cs.length + 2) 0 (skipSpace cs)
    match skipSpace rest with
    | [] => return v
    | rest => .error (.fault .extra rest.length)

/-- The value that a text describes, or why there is none. -/
def parse (text : String) : Except Refusal Value :=
  let cs := text.toList
  match readDocument cs with
  | .ok v => .ok v
  | .error (.longNumber digits) => .error (.longNumber digits)
  | .error .nested => .error .nested
  | .error (.fault cause left) => .error (.fault (Fault.locate cs (cs.length - left) cause))

end Json

end Annals
